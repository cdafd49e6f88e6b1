import Mathlib.Data.List.Perm.Basic
import PipelineConsole.Proofs.Sync.Notices

/-!
# Notices that overtake each other

The cache is changed under a lock, but the notice that is then due is sent after the lock has been
released. Between the two steps other callers may change the cache and send their own notices. So
notices need not be sent in the order of the changes that they tell of, and the one that is sent
last may tell of a change that has been undone since.

## Main definitions

* `Cache.Shared`, `Cache.Move` — a cache with several callers, and their steps
* `Cache.Shared.drawn`, `Cache.Shared.sends` — the notices of a run as drawn up and as sent
* `Cache.Shared.Truthful` — the last notice about a pipeline carries what is seen of it

## Main results

* `view_run` — what is seen is what the notice carries that was drawn up last
* `sends_perm` — each notice is sent once
* `last_notice_true_iff` — when the last notice is true
* `last_notice_may_mislead` — two callers after whom it is not
-/

namespace PipelineConsole

/-- The view of a pipeline that a notice carries. -/
def CacheNotice.view? (id : String) : CacheNotice → Option CacheEntry.View
  | .changed other v => if id = other then some v else none
  | .failed .. => none

namespace Cache

/-- The view of a pipeline that is carried by the last of some notices that carries one. -/
def lastView (id : String) (notices : List CacheNotice) : Option CacheEntry.View :=
  (notices.filterMap (·.view? id)).getLast?

section LastView

variable {id : String} {notices more : List CacheNotice}

theorem lastView_append :
    lastView id (notices ++ more) = (lastView id more).or (lastView id notices) := by
  rw [lastView, List.filterMap_append, List.getLast?_append]
  rfl

theorem lastView_eq_none_iff : lastView id notices = none ↔ ∀ n ∈ notices, n.view? id = none := by
  rw [lastView, List.getLast?_eq_none_iff, List.filterMap_eq_nil_iff]

/-- Whether there is a last one does not depend on the order. -/
theorem lastView_eq_none_of_perm (h : notices.Perm more) (hnone : lastView id notices = none) :
    lastView id more = none := by
  rw [lastView_eq_none_iff] at hnone ⊢
  exact fun n hn => hnone n (h.mem_iff.2 hn)

theorem lastView_filter : lastView id (notices.filter (·.id = id)) = lastView id notices := by
  rw [lastView, lastView, List.filterMap_filter]
  congr 2
  funext n
  cases n with
  | changed other v =>
    by_cases h : other = id
    · simp [CacheNotice.id, h]
    · simp [CacheNotice.view?, CacheNotice.id, h, Ne.symm h]
  | failed other error => simp [CacheNotice.view?]

end LastView

/-- A cache with several callers. A call changes an entry and draws up the notice that is due in one
step, and sends the notice in a later one; in between, the notice is held by its caller. -/
structure Shared where
  cache : Cache := {}
  held : List CacheNotice := []
  sent : List CacheNotice := []

/-- A step of a caller: he changes an entry, or he sends the notice that he holds; his is one of
those that are held, which stand in the order in which they were drawn up. -/
inductive Move where
  | change (id : String) (f : CacheEntry → CacheEntry)
  | send (place : Nat)

namespace Shared

/-- The notice that is drawn up in a step. -/
def draws (s : Shared) : Move → List CacheNotice
  | .change id f => (s.cache.change id f).2
  | .send _ => []

/-- The notice that is sent in a step. -/
def sendsNow (s : Shared) : Move → List CacheNotice
  | .change .. => []
  | .send place => s.held[place]?.toList

/-- The cache and its callers after a step. -/
def step (s : Shared) (m : Move) : Shared where
  cache :=
    match m with
    | .change id f => (s.cache.change id f).1
    | .send _ => s.cache
  held :=
    match m with
    | .change .. => s.held ++ s.draws m
    | .send place => s.held.eraseIdx place
  sent := s.sent ++ s.sendsNow m

/-- The cache and its callers after some steps. -/
def run (s : Shared) (moves : List Move) : Shared := moves.foldl step s

/-- The notices that are drawn up in some steps, in this order. -/
def drawn (s : Shared) : List Move → List CacheNotice
  | [] => []
  | m :: rest => s.draws m ++ (s.step m).drawn rest

/-- The notices that are sent in some steps, in this order. -/
def sends (s : Shared) : List Move → List CacheNotice
  | [] => []
  | m :: rest => s.sendsNow m ++ (s.step m).sends rest

/-- The last notice about a pipeline, if there has been one, carries what is seen of it. -/
def Truthful (s : Shared) (id : String) : Prop :=
  ∀ v, lastView id s.sent = some v → v = s.cache.view id

section Run

open scoped List

variable {s : Shared} {m : Move} {moves : List Move} {id : String}

theorem view_step :
    (s.step m).cache.view id = (lastView id (s.draws m)).getD (s.cache.view id) := by
  cases m with
  | send place => rfl
  | change key f =>
    rw [← lastView_filter]
    show (s.cache.change key f).1.view id =
      (lastView id ((s.cache.change key f).2.filter _)).getD (s.cache.view id)
    rw [notices_change, due]
    split
    · next h => exact h.symm
    · simp [lastView, CacheNotice.view?]

/-- What is seen of a pipeline is what the notice carries that was drawn up last. -/
theorem view_run :
    (s.run moves).cache.view id = (lastView id (s.drawn moves)).getD (s.cache.view id) := by
  induction moves generalizing s with
  | nil => rfl
  | cons m rest ih =>
    refine (ih (s := s.step m)).trans ?_
    rw [drawn, lastView_append, view_step]
    -- Either a later step draws up a notice about the pipeline, or this one has the last word.
    cases lastView id ((s.step m).drawn rest) <;> rfl

theorem sent_run : (s.run moves).sent = s.sent ++ s.sends moves := by
  induction moves generalizing s with
  | nil => exact (List.append_nil _).symm
  | cons m rest ih =>
    refine (ih (s := s.step m)).trans ?_
    rw [sends, ← List.append_assoc]
    rfl

/-- The notice that is sent in a step is no longer held. -/
theorem step_perm : (s.sendsNow m ++ (s.step m).held).Perm (s.held ++ s.draws m) := by
  cases m with
  | change id f => exact .refl _
  | send place =>
    rw [draws, List.append_nil]
    show (s.held[place]?.toList ++ s.held.eraseIdx place).Perm s.held
    by_cases hplace : place < s.held.length
    · rw [List.getElem?_eq_getElem hplace]
      exact List.getElem_cons_eraseIdx_perm hplace
    · rw [List.getElem?_eq_none (Nat.le_of_not_lt hplace),
        List.eraseIdx_of_length_le (Nat.le_of_not_lt hplace)]
      exact .refl _

/-- Each notice that is drawn up is sent once, or is still held. -/
theorem sends_perm : (s.sends moves ++ (s.run moves).held).Perm (s.held ++ s.drawn moves) := by
  induction moves generalizing s with
  | nil => exact .of_eq (List.append_nil _).symm
  | cons m rest ih =>
    have hrest : ((s.step m).sends rest ++ (s.run (m :: rest)).held).Perm
        ((s.step m).held ++ (s.step m).drawn rest) := ih
    calc s.sends (m :: rest) ++ (s.run (m :: rest)).held
        = s.sendsNow m ++ ((s.step m).sends rest ++ (s.run (m :: rest)).held) := by
          rw [sends, List.append_assoc]
      _ ~ s.sendsNow m ++ ((s.step m).held ++ (s.step m).drawn rest) := hrest.append_left _
      _ = s.sendsNow m ++ (s.step m).held ++ (s.step m).drawn rest :=
          (List.append_assoc ..).symm
      _ ~ s.held ++ s.draws m ++ (s.step m).drawn rest := step_perm.append_right _
      _ = s.held ++ s.drawn (m :: rest) := by rw [drawn, List.append_assoc]

end Run

/-- Some calls are begun while no other is under way, and all of them have returned in the end;
their steps may come in any order. The last notice about a pipeline then carries what is seen of it
exactly when it carries the same as the notice that was drawn up last, or, if the calls have not
changed what is seen, when it was so before. -/
theorem last_notice_true_iff (s : Shared) (moves : List Move) (id : String) (hbefore : s.held = [])
    (hafter : (s.run moves).held = []) :
    (s.run moves).Truthful id ↔
      match lastView id (s.drawn moves) with
      | none => s.Truthful id
      | some v => lastView id (s.sends moves) = some v := by
  -- Nothing is held in the end, so that the notices are sent that are drawn up, in some order.
  have hperm : (s.sends moves).Perm (s.drawn moves) := by
    have h : (s.sends moves ++ (s.run moves).held).Perm (s.held ++ s.drawn moves) := sends_perm
    rwa [hbefore, hafter, List.append_nil, List.nil_append] at h
  rw [Truthful, sent_run, lastView_append, view_run]
  cases hdrawn : lastView id (s.drawn moves) with
  | none =>
    rw [lastView_eq_none_of_perm hperm.symm hdrawn]
    rfl
  | some v =>
    cases hsent : lastView id (s.sends moves) with
    | none =>
      rw [lastView_eq_none_of_perm hperm hsent] at hdrawn
      cases hdrawn
    | some w => simp

/-- A status is confirmed, then a user shows another one, and then both send their notices. -/
def crossing (first second : Nat) : List Move :=
  [.change "orders" fun _ => ⟨some .running, none, none⟩,
    .change "orders" fun e => { e with override := some ⟨.pausing, 500⟩ },
    .send first, .send second]

/-- When the notices are sent in the order of the changes, the last one is true. -/
theorem notices_in_order_are_true :
    (run {} (crossing 0 0)).held = [] ∧ (run {} (crossing 0 0)).Truthful "orders" := by
  have hafter : (run {} (crossing 0 0)).held = [] := by decide
  have htrue := last_notice_true_iff {} (crossing 0 0) "orders" rfl hafter
  have hdrawn : lastView "orders" (drawn {} (crossing 0 0)) = some ⟨some .pausing, true⟩ := by
    decide
  rw [hdrawn] at htrue
  exact ⟨hafter, htrue.2 (by decide)⟩

/-- When the user is quicker, the last notice says that the pipeline runs, while the status that he
has set is shown. Without any hurry, the last notice is wrong also after the pipeline has been
removed, as a failure does not change what is seen of it. -/
theorem last_notice_may_mislead :
    (¬ ∀ (moves : List Move) (id : String),
      (run {} moves).held = [] → (run {} moves).Truthful id) ∧
      let told := ({} : Cache).confirm "orders" .running
      let removed : Shared := { cache := told.1.erase "orders", sent := told.2 }
      let failed := removed.run [.change "orders" fun e => { e with error := some ⟨503, "busy"⟩ }]
      failed.held = [] ∧ ¬ failed.Truthful "orders" := by
  refine ⟨fun h => ?_, by decide, fun h => ?_⟩
  · have heq := h (crossing 1 0) "orders" (by decide) ⟨some .running, false⟩ (by decide)
    exact absurd heq (by decide)
  · have heq := h ⟨some .running, false⟩ (by decide)
    exact absurd heq (by decide)

end Shared

end Cache

end PipelineConsole
