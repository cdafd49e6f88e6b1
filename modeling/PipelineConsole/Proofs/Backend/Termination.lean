import PipelineConsole.Console.Termination
import PipelineConsole.Proofs.Backend.Proxy
import PipelineConsole.Proofs.Orchestrator.Commuting

/-!
# Two ways to terminate all pipelines

The in-memory orchestrator can terminate all pipelines itself: it goes through its table and sorts
the ids that it has terminated. A caller can do it too, with a call for the list and a call for each
pipeline, the newest first. Both look at the statuses once, before anything is terminated. As the
termination of one pipeline leaves the others alone, either way just those pipelines are terminated
that may be, and what is left does not depend on the order.

## Main definitions

* `Backend.callAt`, `Backend.terminateByCalls` — calls on the occasions that a clock shows
* `Orchestrator.Terminated` — a state after some pipelines have been terminated

## Main results

* `terminateEach_terminated`, `each_terminated` — the state that each of the two ways leaves
* `terminations_agree` — the answers and the states are the same, and nothing goes on running
-/

namespace PipelineConsole

section Calls

variable {σ : Type}

/-- A call on the next occasion that a clock shows. -/
def Backend.callAt (b : Backend σ) (clock : Nat → Occasion) (op : Operation) (s : Nat × σ) :
    Except ErrorBody op.Reply × (Nat × σ) :=
  let (reply, next) := b.perform none (clock s.1) op s.2
  (reply, (s.1 + 1, next))

/-- Terminates all pipelines with a call for the list and a call for each of them. -/
def Backend.terminateByCalls (b : Backend σ) (clock : Nat → Occasion) (s : σ) :
    Except ErrorBody (List String) × σ :=
  let (ids, (_, s)) :=
    Termination.all (b.callAt clock .list) (fun id => b.callAt clock (.act id .terminate)) (0, s)
  (ids, s)

end Calls

/-- Sorted texts do not tell in which order they were. -/
theorem mergeSort_eq_of_perm {ids ids' : List String} (h : ids.Perm ids') :
    ids.mergeSort (· ≤ ·) = ids'.mergeSort (· ≤ ·) := by
  have hsorted (ids : List String) : (ids.mergeSort (· ≤ ·)).Pairwise (· ≤ ·) := by
    have hpairs := @List.pairwise_mergeSort String (fun a b => decide (a ≤ b))
      (fun a b c => by simpa using String.le_trans)
      (fun a b => by simpa using String.le_total a b) ids
    simpa using hpairs
  have hperm : (ids.mergeSort (· ≤ ·)).Perm (ids'.mergeSort (· ≤ ·)) :=
    (List.mergeSort_perm ids _).trans (h.trans (List.mergeSort_perm ids' _).symm)
  exact hperm.eq_of_pairwise (fun _ _ _ _ => String.le_antisymm) (hsorted ids) (hsorted ids')

namespace Table

variable {α : Type} {t t' : Table α}

theorem keys_insert_of_mem {key : String} {a : α} (h : t.get? key = some a) (b : α) :
    (t.insert key b).keys = t.keys :=
  (keys_insertEntry key b t.entries).trans
    (if_pos (List.mem_map_of_mem (f := Prod.fst) (mem_entries_iff.2 h)))

/-- A table is known by its keys and their values. -/
theorem map_entries (t : Table α) :
    t.entries.map (fun e => (e.1, some e.2)) = t.keys.map fun key => (key, t.get? key) := by
  rw [keys, List.map_map]
  exact List.map_congr_left fun e he => congrArg (e.1, ·) (mem_entries_iff.1 he).symm

/-- Tables that agree are the same if their keys came in in the same order. -/
theorem Agrees.eq_of_keys (h : t.Agrees t') (hkeys : t.keys = t'.keys) : t = t' := by
  have hinj (e e' : String × α) (heq : (e.1, some e.2) = (e'.1, some e'.2)) : e = e' :=
    Prod.ext (Prod.mk.inj heq).1 (Option.some.inj (Prod.mk.inj heq).2)
  have hentries : t.entries = t'.entries := by
    refine (List.map_inj_right hinj).1 ?_
    rw [map_entries, map_entries, hkeys]
    exact List.map_congr_left fun key _ => congrArg (key, ·) (h key)
  cases t
  cases t'
  cases hentries
  rfl

end Table

namespace Orchestrator

/-- The timer of a termination. -/
def terminationTimer (rules : Rules) (o : Occasion) (id : String) : Timer :=
  ⟨id, .terminating, .terminated, o.elapsed + rules.delays.terminate, o.time, none⟩

/-- What becomes of a pipeline when those of some ids are terminated. -/
def terminatedAmong (o : Occasion) (ids : List String) (id : String) (p : Pipeline) : Pipeline :=
  if id ∈ ids then { p with status := .terminating, updatedAt := o.time } else p

/-- The second state is that after the termination of the pipelines of some ids, as far as times are
shown on a dial. -/
structure Terminated (d : Dial) (rules : Rules) (o : Occasion) (ids : List String)
    (s s' : Orchestrator) : Prop where
  pipelines : ∀ id, (s'.pipelines.get? id).map d.pipeline =
    (s.pipelines.get? id).map fun p => d.pipeline (terminatedAmong o ids id p)
  queues : s'.queues = s.queues
  notifications : s'.notifications = s.notifications
  timers : s'.timers.map d.timer =
    s.timers.map d.timer ++ ids.map fun id => d.timer (terminationTimer rules o id)

/-- Nothing has changed but pipelines and timers, and all pipelines are on their way out. -/
structure WoundDown (s s' : Orchestrator) : Prop where
  queues : s'.queues = s.queues
  notifications : s'.notifications = s.notifications
  ended : ∀ id p, s'.pipelines.get? id = some p → p.status = .terminating ∨ p.status = .terminated

section Terminated

variable {d : Dial} {rules : Rules} {o o' : Occasion} {id : String} {ids ids' : List String}
  {s s' : Orchestrator} {p : Pipeline}

theorem Terminated.refl (d : Dial) (rules : Rules) (o : Occasion) (s : Orchestrator) :
    Terminated d rules o [] s s where
  pipelines := fun _ => rfl
  queues := rfl
  notifications := rfl
  timers := (List.append_nil _).symm

/-- One more pipeline is terminated, before all others. -/
theorem Terminated.cons (hp : s.terminable? id = some p) (ho : d.Same o o') (hid : id ∉ ids)
    (h : Terminated d rules o ids (s.terminating rules o' id p) s') :
    Terminated d rules o (id :: ids) s s' where
  pipelines := by
    intro other
    have hget := (Option.filter_eq_some_iff.1 hp).1
    rw [h.pipelines, terminating, pipelines_schedule, pipelines_put, Table.get?_insert]
    by_cases hother : other = id
    · subst hother
      simp only [if_true, hget, Option.map_some, terminatedAmong, if_neg hid,
        if_pos List.mem_cons_self]
      exact congrArg some (Dial.pipeline_move ho rfl .terminating).symm
    · rw [if_neg hother]
      simp only [terminatedAmong, List.mem_cons, hother, false_or]
  queues := h.queues
  notifications := h.notifications
  timers := by
    have htimer : d.timer (terminationTimer rules o' id) = d.timer (terminationTimer rules o id) :=
      (List.cons.inj (Dial.timer_eq ho id .terminating .terminated rules.delays.terminate)).1.symm
    rw [h.timers, terminating, timers_schedule, timers_put, List.map_append, List.map_cons,
      List.append_assoc, List.map_cons, ← htimer]
    rfl

/-- Neither the statuses of the pipelines nor the timers depend on the order of the terminations. -/
theorem Terminated.alike (h : Terminated d rules o ids s s')
    {t : Orchestrator} (ht : Terminated d rules o ids' s t) (hperm : ids.Perm ids') :
    d.Alike s' t where
  pipelines := by
    intro id
    rw [h.pipelines, ht.pipelines]
    simp only [terminatedAmong, hperm.mem_iff]
  queues := by
    intro id
    rw [h.queues, ht.queues]
  timers := by
    rw [h.timers, ht.timers]
    exact (hperm.map _).append_left _

/-- If all pipelines are terminated that may be, none goes on running. -/
theorem Terminated.woundDown (h : Terminated d rules o ids s s')
    (hids : ∀ id p, s.terminable? id = some p → id ∈ ids) : s.WoundDown s' where
  queues := h.queues
  notifications := h.notifications
  ended := by
    intro id p hp
    have hpipelines := h.pipelines id
    rw [hp, Option.map_some, eq_comm, Option.map_eq_some_iff] at hpipelines
    obtain ⟨q, hq, heq⟩ := hpipelines
    rw [← Dial.status_eq heq, terminatedAmong]
    split
    · exact .inl rfl
    · next hid =>
      have hnot : q.status.canTerminate ≠ true := fun hcan =>
        hid (hids id q (Option.filter_eq_some_iff.2 ⟨hq, hcan⟩))
      exact Classical.or_iff_not_imp_left.2 (by simpa [Status.canTerminate] using hnot)

/-! ### The orchestrator's own way -/

/-- Ids that may be terminated are terminated one after the other. -/
theorem terminateEach_terminated (hnodup : ids.Nodup)
    (hids : ∀ id ∈ ids, (s.terminable? id).isSome) (d : Dial) (rules : Rules) (o : Occasion) :
    (terminateEach rules o ids s).1 = ids ∧
      Terminated d rules o ids s (terminateEach rules o ids s).2 := by
  induction ids generalizing s with
  | nil => exact ⟨rfl, .refl d rules o s⟩
  | cons id rest ih =>
    obtain ⟨hid, hrest⟩ := List.nodup_cons.1 hnodup
    obtain ⟨p, hp⟩ := Option.isSome_iff_exists.1 (hids id List.mem_cons_self)
    have hothers : ∀ other ∈ rest, ((s.terminating rules o id p).terminable? other).isSome := by
      intro other hother
      have hne : other ≠ id := fun heq => hid (heq ▸ hother)
      rw [terminable?_terminating hne]
      exact hids other (List.mem_cons_of_mem id hother)
    obtain ⟨hanswer, hstate⟩ := ih hrest hothers
    rw [terminateEach_cons_some hp]
    exact ⟨congrArg (id :: ·) hanswer, hstate.cons hp (d.same_self o) hid⟩

/-! ### The way of a caller -/

variable {clock : Nat → Occasion}

theorem callAt_terminate (hp : s.terminable? id = some p) (n : Nat) :
    (Backend.inMemory rules).callAt clock (.act id .terminate) (n, s) =
      (.ok .terminating, (n + 1, s.terminating rules (clock n) id p)) := by
  obtain ⟨hget, hallowed⟩ := Option.filter_eq_some_iff.1 hp
  have hact : perform rules (clock n) (.act id .terminate) s =
      (.ok .terminating, s.terminating rules (clock n) id p) := act_of_allowed hget hallowed
  rw [Backend.callAt, Backend.inMemory_of_ok hact]

/-- Pipelines that are listed with their statuses are terminated where these allow it. -/
theorem each_terminated (rules : Rules) {items : List Pipeline.ListItem}
    (hnodup : (items.map Pipeline.ListItem.id).Nodup)
    (hitems : ∀ item ∈ items, s.status? item.id = some item.status)
    (hclock : ∀ n, d.Same o (clock n)) (n : Nat) :
    let out := Termination.each
      (fun id => (Backend.inMemory rules).callAt clock (.act id .terminate)) items (n, s)
    out.1 = (items.filter (·.status.canTerminate)).map Pipeline.ListItem.id ∧
      Terminated d rules o out.1 s out.2.2 := by
  induction items generalizing n s with
  | nil => exact ⟨rfl, .refl d rules o s⟩
  | cons item rest ih =>
    obtain ⟨hid, hrest⟩ := List.nodup_cons.1 hnodup
    obtain ⟨hitem, hothers⟩ := List.forall_mem_cons.1 hitems
    obtain ⟨p, hp, hstatus⟩ := Option.map_eq_some_iff.1 hitem
    rw [Termination.each, List.filter_cons]
    by_cases hcan : item.status.canTerminate = true
    · have hterminable : s.terminable? item.id = some p :=
        Option.filter_eq_some_iff.2 ⟨hp, hstatus ▸ hcan⟩
      -- Those behind it are still in the statuses that are listed.
      have hothers' : ∀ other ∈ rest,
          (s.terminating rules (clock n) item.id p).status? other.id = some other.status := by
        intro other hother
        have hne : other.id ≠ item.id := fun heq => hid (heq ▸ List.mem_map_of_mem hother)
        rw [status?, terminating, pipelines_schedule, pipelines_put, Table.get?_insert, if_neg hne]
        exact hothers other hother
      obtain ⟨hanswer, hstate⟩ := ih hrest hothers' (n + 1)
      rw [if_pos hcan, if_pos hcan, callAt_terminate hterminable]
      refine ⟨congrArg (item.id :: ·) hanswer, hstate.cons hterminable (hclock n) ?_⟩
      rw [hanswer]
      exact fun hmem => hid ((List.filter_sublist.map _).subset hmem)
    · rw [if_neg hcan, if_neg hcan]
      exact ih hrest hothers n

end Terminated

/-! ### Both ways -/

section Agree

open Remote (listedIds listedIds_perm)
open Surroundings (moment)

variable {s : Orchestrator} {rules : Rules} {o : Occasion} {id : String} {p : Pipeline}

/-- The ids that the orchestrator goes through are those of the pipelines that may be terminated. -/
theorem Keyed.mem_candidates (h : s.Keyed) :
    id ∈ s.candidates o ↔ ∃ p, s.terminable? id = some p := by
  simp only [candidates, List.mem_map, List.mem_filter, (s.pipelines.valuesFrom_perm _).mem_iff,
    Table.mem_values_iff, terminable?, Option.filter_eq_some_iff]
  constructor
  · rintro ⟨p, ⟨⟨key, hp⟩, hcan⟩, rfl⟩
    exact ⟨p, (h key p hp).symm ▸ hp, hcan⟩
  · rintro ⟨p, hp, hcan⟩
    exact ⟨p, ⟨⟨id, hp⟩, hcan⟩, h id p hp⟩

/-- The list tells the statuses as they are, and no id twice. -/
theorem Keyed.list (h : s.Keyed) (o : Occasion) :
    ((s.list o).map Pipeline.ListItem.id).Nodup ∧
      ∀ item ∈ s.list o, s.status? item.id = some item.status := by
  have hperm : (s.list o).Perm (s.pipelines.values.map Pipeline.listItem) :=
    (List.mergeSort_perm _ _).trans ((s.pipelines.valuesFrom_perm o.order).map _)
  constructor
  · refine (hperm.map Pipeline.ListItem.id).nodup_iff.2 ?_
    rw [List.map_map]
    exact h.nodup
  · intro item hitem
    obtain ⟨p, hp, rfl⟩ := List.mem_map.1 (hperm.mem_iff.1 hitem)
    obtain ⟨key, hkey⟩ := Table.mem_values_iff.1 hp
    obtain rfl := h key p hkey
    exact congrArg (Option.map Pipeline.status) hkey

/-- No pipeline loses its place in the table when some are terminated. -/
theorem keys_terminateEach (rules : Rules) (o : Occasion) (ids : List String) (s : Orchestrator) :
    (terminateEach rules o ids s).2.pipelines.keys = s.pipelines.keys := by
  refine terminateEach_induction (motive := (·.pipelines.keys = s.pipelines.keys))
    (fun t t' id status ht hact => ?_) ids rfl
  obtain ⟨p, hp, -, rfl⟩ := act_eq_ok hact
  exact (Table.keys_insert_of_mem hp _).trans ht

/-- In whatever order the orchestrator meets the pipelines that it terminates, it gives the same
answer, and the pipelines and queues that it leaves are the same. -/
theorem terminateEach_order {ids : List String} (hs : s.Keyed) (hids : ids.Perm (s.candidates o))
    (rules : Rules) :
    let inOrder := terminateEach rules o ids s
    let native := s.terminateAll rules o
    inOrder.1.mergeSort (· ≤ ·) = native.1 ∧ inOrder.2.pipelines = native.2.pipelines ∧
      inOrder.2.queues = native.2.queues ∧ inOrder.2.Alike native.2 := by
  intro inOrder native
  have hnodup : ids.Nodup := hids.nodup_iff.2 (hs.nodup_candidates o)
  obtain ⟨hsame, hstates⟩ := terminateEach_perm hids hnodup rules o s
  refine ⟨mergeSort_eq_of_perm hsame, hstates.pipelines.eq_of_keys ?_, ?_, hstates⟩
  · exact (keys_terminateEach rules o ids s).trans (keys_terminateEach rules o _ s).symm
  · exact (queues_of_terminateEach ids s).trans (queues_of_terminateEach _ s).symm

/-- The two ways to terminate all pipelines agree in every state that a run leads to. Either answers
with the ids of just those pipelines that may be terminated, none of them twice. The states that
they leave have the same pipelines, queues and timers on every dial on which the occasions of the
calls are the same, such as the blank one, and no pipeline goes on running. In whatever order the
orchestrator goes through its table, its answer is the same, and so is the state but for the order
of the timers. -/
theorem terminations_agree {start : Orchestrator} (h : start.Keyed) (rules : Rules)
    (events : List Event) (o : Occasion) (clock : Nat → Occasion) :
    let s := run rules start events
    let native := s.terminateAll rules o
    let general := (Backend.inMemory rules).terminateByCalls clock s
    (∃ ids, general.1 = .ok ids ∧ ids.Nodup ∧ ids.Perm native.1) ∧
      native.1.Nodup ∧
      (∀ id, id ∈ native.1 ↔
        ∃ p, s.pipelines.get? id = some p ∧ p.status.canTerminate = true) ∧
      (∀ d : Dial, (∀ n, d.Same o (clock n)) → d.Alike native.2 general.2) ∧
      s.WoundDown native.2 ∧ s.WoundDown general.2 ∧
      ∀ order, order.Perm (s.candidates o) →
        let other := terminateEach rules o order s
        other.1.mergeSort (· ≤ ·) = native.1 ∧ other.2.pipelines = native.2.pipelines ∧
          other.2.queues = native.2.queues ∧ other.2.Alike native.2 := by
  intro s native general
  have hs : s.Keyed := keyed_run h rules events
  have hall : ∀ id p, s.terminable? id = some p → id ∈ s.candidates o := fun id p hp =>
    hs.mem_candidates.2 ⟨p, hp⟩
  have hids : ∀ id ∈ s.candidates o, (s.terminable? id).isSome := fun id hid =>
    Option.isSome_iff_exists.2 (hs.mem_candidates.1 hid)
  have hown (d : Dial) := terminateEach_terminated (hs.nodup_candidates o) hids d rules o
  have hanswer : native.1 = (s.candidates o).mergeSort (· ≤ ·) :=
    congrArg (List.mergeSort · fun a b => decide (a ≤ b)) (hown Dial.blank).1
  have hnative : native.1.Perm (s.candidates o) := hanswer ▸ List.mergeSort_perm _ _
  have hcalls (d : Dial) (hclock : ∀ n, d.Same o (clock n)) :=
    each_terminated rules (hs.list (clock 0)).1 (hs.list (clock 0)).2 hclock 1
  obtain ⟨hlisted, hblank⟩ := hcalls Dial.blank fun n => Dial.same_blank o (clock n)
  have hgeneral : general.1 = .ok (listedIds s (clock 0)) := congrArg Except.ok hlisted
  have hperm : (listedIds s (clock 0)).Perm (s.candidates o) :=
    (listedIds_perm s (clock 0)).trans ((Alike.refl s).candidates_perm _ o)
  refine ⟨⟨listedIds s (clock 0), hgeneral, ?_, ?_⟩, ?_, ?_, ?_, ?_, ?_, ?_⟩
  · exact hperm.nodup_iff.2 (hs.nodup_candidates o)
  · exact hperm.trans hnative.symm
  · exact hnative.nodup_iff.2 (hs.nodup_candidates o)
  · intro id
    rw [hnative.mem_iff, hs.mem_candidates]
    exact exists_congr fun p => Option.filter_eq_some_iff
  · intro d hclock
    obtain ⟨hout, hstate⟩ := hcalls d hclock
    exact (hown d).2.alike hstate (hout ▸ hperm.symm)
  · exact (hown Dial.blank).2.woundDown hall
  · refine hblank.woundDown fun id p hp => ?_
    rw [hlisted]
    exact hperm.mem_iff.2 (hall id p hp)
  · exact fun order horder => terminateEach_order hs horder rules

/-- Five pipelines in five statuses: created, stopping, failed, terminated and terminating. -/
def mixedRun : List Event :=
  let config (id : String) : PipelineConfig :=
    { id, name := id, source := .object [("topics", .array [.null])], sink := .object [] }
  [.perform ⟨0, moment 0, "-", []⟩ (.create (config "d")),
    .perform ⟨0, moment 0, "-", []⟩ (.act "d" .terminate),
    .fire ⟨2000, moment 1, "-", []⟩ ⟨"d", .terminating, .terminated, 2000, moment 0, none⟩,
    .perform ⟨2000, moment 2, "-", []⟩ (.create (config "a")),
    .perform ⟨2000, moment 3, "-", []⟩ (.create (config "c")),
    .transition ⟨2000, moment 4, "-", []⟩ "c" .created .failed,
    .perform ⟨2000, moment 5, "-", []⟩ (.create (config "e")),
    .perform ⟨2000, moment 6, "-", []⟩ (.act "e" .terminate),
    .perform ⟨2000, moment 7, "-", []⟩ (.create (config "b")),
    .fire ⟨3000, moment 8, "-", []⟩ ⟨"b", .created, .running, 3000, moment 7, none⟩,
    .perform ⟨3000, moment 9, "-", []⟩ (.act "b" .stop)]

theorem mixedRun_terminations_agree :
    let rules : Rules := { singleActive := false }
    let o : Occasion := ⟨3000, moment 10, "-", []⟩
    let s := run rules (fresh (moment 0) (moment 0)) mixedRun
    let native := s.terminateAll rules o
    let general := (Backend.inMemory rules).terminateByCalls
      (fun n => ⟨3000 + n, moment (10 + n), "-", []⟩) s
    (fresh (moment 0) (moment 0)).Keyed ∧
      s.pipelines.keys.map (fun id => (id, s.status? id)) =
        [("d", some .terminated), ("a", some .created), ("c", some .failed),
          ("e", some .terminating), ("b", some .stopping)] ∧
      native.1 = ["a", "b", "c"] ∧
      (∃ ids, general.1 = .ok ids ∧ ids.Perm ["a", "b", "c"]) ∧
      Dial.blank.Alike native.2 general.2 ∧ s.WoundDown native.2 ∧ s.WoundDown general.2 := by
  intro rules o s native general
  have hkeyed : (fresh (moment 0) (moment 0)).Keyed := keyed_fresh _ _
  obtain ⟨⟨ids, hgeneral, -, hperm⟩, -, -, halike, hnative, hcalls, horder⟩ :=
    terminations_agree hkeyed rules mixedRun o
      fun n => ⟨3000 + n, moment (10 + n), "-", []⟩
  have heach : (terminateEach rules o (s.candidates o) s).1 = ["a", "c", "b"] := by
    decide +kernel
  have hswap : ["a", "c", "b"].Perm ["a", "b", "c"] := by decide
  have hanswer : native.1 = ["a", "b", "c"] := by
    rw [← (horder (s.candidates o) (.refl _)).1, heach, mergeSort_eq_of_perm hswap]
    exact List.mergeSort_of_pairwise (by decide)
  refine ⟨hkeyed, by decide +kernel, hanswer, ⟨ids, hgeneral, ?_⟩, ?_, hnative, hcalls⟩
  · rw [← hanswer]
    exact hperm
  · exact halike Dial.blank fun n => Dial.same_blank _ _

end Agree

end Orchestrator

end PipelineConsole
