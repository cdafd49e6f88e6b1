import Mathlib.Data.List.Induction
import PipelineConsole.Sync.Cache

/-!
# Calls of the status cache

Six calls change the cache: five of the reconciler, which merges assumed statuses with confirmed
ones, and the removal of a pipeline. All but the sweep for old overrides are about one pipeline. A
sweep goes through all pipelines, but what it does to each of them depends on the entry of that
pipeline only. So the entry of a pipeline after a call is a function of its entry before, and the
calls on other pipelines play no part in it.

## Main definitions

* `Cache.entry`, `Cache.view` — what is known of a pipeline, and what a user sees of it
* `Cache.Call`, `Cache.perform` — the calls, and what they do to the cache
* `Cache.Call.effect` — what a call does to the entry of a pipeline
* `Cache.resume`, `Cache.replay` — the cache after a history of calls

## Main results

* `get?_perform` — a call does to every entry what its effect says
* `mem_stale_iff` — which pipelines a sweep finds
* `get?_replay` — the entry of a pipeline after a history
-/

namespace PipelineConsole

namespace CacheEntry

/-- The entry without its override, if that is at least `life` old. -/
def withoutStale (now life : Nat) (e : CacheEntry) : CacheEntry :=
  if e.isStale now life then { e with override := none } else e

section Stale

variable {e : CacheEntry} {now life : Nat}

theorem isStale_iff :
    e.isStale now life = true ↔ ∃ o, e.override = some o ∧ life ≤ now - o.since := by
  unfold isStale
  cases e.override <;> simp

@[simp] theorem confirmed_withoutStale : (e.withoutStale now life).confirmed = e.confirmed := by
  unfold withoutStale
  split <;> rfl

@[simp] theorem error_withoutStale : (e.withoutStale now life).error = e.error := by
  unfold withoutStale
  split <;> rfl

theorem override_withoutStale :
    (e.withoutStale now life).override = if e.isStale now life then none else e.override := by
  unfold withoutStale
  split <;> rfl

theorem isStale_withoutStale : (e.withoutStale now life).isStale now life = false := by
  unfold withoutStale
  split
  · rfl
  · next h => exact Bool.eq_false_iff.2 h

@[simp] theorem withoutStale_withoutStale :
    (e.withoutStale now life).withoutStale now life = e.withoutStale now life := by
  rw [withoutStale, if_neg (by simp [isStale_withoutStale])]

theorem withoutStale_of_not_isStale (h : e.isStale now life = false) :
    e.withoutStale now life = e := by
  rw [withoutStale, if_neg (by simp [h])]

end Stale

end CacheEntry

namespace Cache

/-- What is known of a pipeline. -/
def entry (c : Cache) (id : String) : CacheEntry := (c.get? id).getD {}

/-- What a user sees of a pipeline. -/
def view (c : Cache) (id : String) : CacheEntry.View := (c.entry id).view

/-- A call of the cache. -/
inductive Call where
  | assume (id : String) (status : Status)
  | revert (id : String)
  | confirm (id : String) (status : Status)
  | fail (id : String) (error : ErrorBody)
  | expire
  | remove (id : String)
  deriving DecidableEq, Repr

/-- Carries out a call at a time, with the life time that overrides have. -/
def perform (c : Cache) (life : Option Nat) (now : Nat) : Call → Cache × List CacheNotice
  | .assume id status => c.assume now id status
  | .revert id => c.revert id
  | .confirm id status => c.confirm id status
  | .fail id error => c.fail id error
  | .expire =>
    let (c, notices, _) := c.expire now life
    (c, notices)
  | .remove id => (c.erase id, [])

/-- What a call does to the entry of a pipeline, or to there being none. -/
def Call.effect (life : Option Nat) (now : Nat) (id : String) (e : Option CacheEntry) :
    Call → Option CacheEntry
  | .assume other status =>
    if id = other then some { e.getD {} with override := some ⟨status, now⟩ } else e
  | .revert other => if id = other then some { e.getD {} with override := none } else e
  | .confirm other status => if id = other then some ⟨some status, none, none⟩ else e
  | .fail other error => if id = other then some { e.getD {} with error := some error } else e
  | .expire =>
    match life with
    | none => e
    | some life => e.map (·.withoutStale now life)
  | .remove other => if id = other then none else e

section Perform

variable {c : Cache} {life : Option Nat} {now : Nat} {id key : String}

theorem get?_change (f : CacheEntry → CacheEntry) :
    (c.change key f).1.get? id = if id = key then some (f (c.entry id)) else c.get? id := by
  rw [change, Table.get?_insert]
  split
  · next h => rw [h, entry]
  · rfl

theorem entry_change (f : CacheEntry → CacheEntry) :
    (c.change key f).1.entry id = if id = key then f (c.entry id) else c.entry id := by
  rw [entry, get?_change]
  split <;> rfl

/-- A sweep finds the overrides that are old enough. -/
theorem mem_stale_iff {life : Nat} :
    id ∈ c.stale now life ↔ (c.entry id).isStale now life = true := by
  simp only [stale, List.mem_map, List.mem_filter, Prod.exists, exists_and_right, exists_eq_right,
    Table.mem_entries_iff, entry]
  cases c.get? id <;> simp [CacheEntry.isStale]

/-- A sweep finds each pipeline once. -/
theorem nodup_stale {life : Nat} : (c.stale now life).Nodup :=
  c.nodup.sublist (List.filter_sublist.map Prod.fst)

/-- The second look at an override, just before it is dropped, decides for each pipeline alone. -/
theorem get?_dropStale {life : Nat} (ids : List String) :
    (c.dropStale now life ids).1.get? id =
      if id ∈ ids then some ((c.entry id).withoutStale now life) else c.get? id := by
  induction ids generalizing c with
  | nil => simp [dropStale]
  | cons key rest ih =>
    show ((c.change key (·.withoutStale now life)).1.dropStale now life rest).1.get? id = _
    rw [ih, entry_change, get?_change]
    by_cases hkey : id = key
    · subst hkey
      simp
    · simp [hkey]

/-- A call does to every entry what its effect says. -/
theorem get?_perform (call : Call) :
    (c.perform life now call).1.get? id = call.effect life now id (c.get? id) := by
  cases call with
  | assume key status => exact get?_change _
  | revert key => exact get?_change _
  | confirm key status => exact get?_change _
  | fail key error => exact get?_change fun e => { e with error := some error }
  | expire =>
    cases life with
    | none => rfl
    | some life =>
      refine (get?_dropStale (c.stale now life)).trans ?_
      rw [Call.effect]
      split
      · next h =>
        rw [mem_stale_iff, entry] at h
        cases hentry : c.get? id with
        | none => simp [hentry, CacheEntry.isStale] at h
        | some e => simp [entry, hentry]
      · next h =>
        rw [mem_stale_iff, entry, Bool.not_eq_true] at h
        cases hentry : c.get? id with
        | none => rfl
        | some e =>
          rw [hentry, Option.getD_some] at h
          rw [Option.map_some, CacheEntry.withoutStale_of_not_isStale h]
  | remove key => exact Table.get?_erase ..

/-- A sweep takes from every entry the override that is old enough. -/
theorem entry_expire {life : Nat} :
    (c.perform (some life) now .expire).1.entry id = (c.entry id).withoutStale now life := by
  rw [entry, get?_perform, entry, Call.effect]
  cases c.get? id <;> rfl

end Perform

/-- The cache after more calls, each with the time at which it is made. -/
def resume (c : Cache) (life : Option Nat) (history : List (Nat × Call)) : Cache :=
  history.foldl (fun c made => (c.perform life made.1 made.2).1) c

/-- The cache after a history of calls. -/
def replay (life : Option Nat) (history : List (Nat × Call)) : Cache := resume {} life history

section Replay

variable {c : Cache} {life : Option Nat} {history : List (Nat × Call)} {made : Nat × Call}
  {id : String}

@[simp] theorem resume_cons :
    c.resume life (made :: history) = ((c.perform life made.1 made.2).1).resume life history := rfl

@[simp] theorem replay_nil : replay life [] = {} := rfl

@[simp] theorem replay_concat :
    replay life (history ++ [made]) = ((replay life history).perform life made.1 made.2).1 :=
  List.foldl_append

/-- The entry of a pipeline after a history is what the effects of the calls make of it. -/
theorem get?_replay :
    (replay life history).get? id =
      history.foldl (fun e made => made.2.effect life made.1 id e) none := by
  induction history using List.reverseRecOn with
  | nil => rfl
  | append_singleton history made ih =>
    rw [replay_concat, get?_perform, ih, List.foldl_append, List.foldl_cons, List.foldl_nil]

end Replay

end Cache

end PipelineConsole
