import PipelineConsole.Proofs.Sync.Leftovers

/-!
# What manager and worker watch

The ids that are watched are kept twice. The manager notes them at once; the worker learns of them
by commands, in the order in which these are queued. A caller who ends a watch notes this and queues
the command in one step. A caller who begins one takes two steps, between which others may come:
what he tells the worker may then be outdated.

## Main definitions

* `StatusSync.owing`, `StatusSync.Returned` — the calls under way, and runs after which all of them
  have returned
* `StatusSync.Apart` — nobody ends a watch while another caller begins it
* `StatusSync.promised` — what the worker watches once it has carried out what is queued
* `StatusSync.Outdated` — the worker is told of a watch that has ended since

## Main results

* `promised_run` — the commands that are queued decide what is promised
* `listed_le_told` — all that the manager watches is promised
* `watched_agree_iff` — when manager and worker watch the same
* `outdated_watch_goes_on` — two callers after whom they do not
-/

namespace PipelineConsole.StatusSync

/-! ### Calls -/

/-- The ids that callers have noted but not told the worker of, after an event. -/
def owing (ids : List String) : Event → List String
  | .enlist id => id :: ids
  | .announce id => ids.erase id
  | _ => ids

/-- The ids that are owed after some events. -/
def owingAfter (ids : List String) (events : List Event) : List String := events.foldl owing ids

/-- What the worker is told has been noted before, and all calls have returned in the end. The ids
are those of the calls under way at the beginning. -/
def Returned (ids : List String) : List Event → Prop
  | [] => ids = []
  | e :: rest => (∀ id, e = .announce id → id ∈ ids) ∧ Returned (owing ids e) rest

/-- Nobody ends the watch of an id while another caller begins one. -/
def Apart (ids : List String) : List Event → Prop
  | [] => True
  | e :: rest => (∀ id, e = .unwatch id → id ∉ ids) ∧ Apart (owing ids e) rest

/-- The worker is told of a watch of an id that has ended since: the last call that ends a watch is
followed by the second step of one that begins it, but not by a first one. -/
def Outdated (id : String) (events : List Event) : Prop :=
  ∃ before after, events = before ++ .unwatch id :: after ∧ .unwatch id ∉ after ∧
    .enlist id ∉ after ∧ .announce id ∈ after

/-! ### Commands -/

/-- Whether the worker watches an id after a command. -/
def toldBy (id : String) (told : Bool) : Command → Bool
  | .watch other => told || other = id
  | .unwatch other => told && other ≠ id

/-- Whether the worker watches an id once it has carried out all that is queued. -/
def promised (s : StatusSync) (id : String) : Bool :=
  s.commands.foldl (toldBy id) (decide (id ∈ s.worker.watched))

/-- Whether this is so after an event, from the event alone. -/
def toldAfter (id : String) (told : Bool) : Event → Bool
  | .announce other => toldBy id told (.watch other)
  | .unwatch other => toldBy id told (.unwatch other)
  | _ => told

section Commands

variable {s : StatusSync} {id : String}

theorem mem_watched_apply (w : Worker) (c : Command) (id : String) :
    decide (id ∈ (w.apply c).watched) = toldBy id (decide (id ∈ w.watched)) c := by
  cases c with
  | watch other =>
    simp only [Worker.apply, IdSet.mem_insert, toldBy, Bool.decide_or, eq_comm (a := id)]
    exact Bool.or_comm ..
  | unwatch other =>
    simp only [Worker.apply, IdSet.mem_erase, toldBy, Bool.decide_and, ne_eq, eq_comm]

/-- The worker watches the same after an input that is not a command. -/
theorem watched_of_not_command {w : Worker} {input : Worker.Input}
    (h : ∀ c, input ≠ .command c) : (w.step input).1.watched = w.watched := by
  rcases w.step_cases input with ⟨c, hc, -⟩ | ⟨changes, hagree, -⟩ | ⟨_, _, hagree, -⟩
  · exact absurd hc (h c)
  · rw [hagree.watched, Worker.watched_observeAll]
  · exact hagree.watched

theorem promised_of_same {t : StatusSync} (hcommands : t.commands = s.commands)
    (hwatched : t.worker.watched = s.worker.watched) : t.promised id = s.promised id := by
  rw [promised, promised, hcommands, hwatched]

/-- A command that is queued has the last word. -/
theorem promised_tell (s : StatusSync) (id : String) (c : Command) :
    (s.tell c).promised id = toldBy id (s.promised id) c := by
  rw [promised, tell, List.foldl_append]
  rfl

/-- Nothing changes when the worker carries out what it has been promised to. -/
theorem promised_obey (s : StatusSync) (id : String) : s.obey.promised id = s.promised id := by
  rw [obey]
  split
  · rfl
  · next c rest hqueue =>
    split
    · next htakes =>
      -- The command moves from the front of the queue into the set that the queue is folded over.
      have hwatched := (Worker.step_command htakes c).1.watched
      rw [promised, promised, hqueue, List.foldl_cons, ← mem_watched_apply, ← hwatched]
      rfl
    · rfl

theorem promised_step (s : StatusSync) (id : String) (e : Event) :
    (step s e).promised id = toldAfter id (s.promised id) e := by
  cases e with
  | announce other => exact promised_tell s id (.watch other)
  | unwatch other => exact promised_tell s id (.unwatch other)
  | obey => exact promised_obey s id
  | work input =>
    cases input with
    | command c => rfl
    | _ => exact promised_of_same rfl (watched_of_not_command nofun)
  | applyNext =>
    exact promised_of_same (commands_applyNext s) (congrArg Worker.watched (worker_applyNext s))
  | _ => rfl

/-- The commands that are queued in a run decide what is promised after it. -/
theorem promised_run (s : StatusSync) (id : String) (events : List Event) :
    (run s events).promised id = events.foldl (toldAfter id) (s.promised id) := by
  induction events generalizing s with
  | nil => rfl
  | cons e rest ih => rw [run_cons, ih, promised_step, List.foldl_cons]

end Commands

/-! ### What calls come to -/

section Events

variable {id : String} {events : List Event} {ids : List String} {listed told : Bool}

/-- Along events that add an id but never remove it. -/
theorem foldl_eq_true_iff {f : Bool → Event → Bool} {add remove : Event} {b : Bool}
    (hadd : ∀ b, f b add = true) (hkeep : ∀ b e, e ≠ add → e ≠ remove → f b e = b)
    (hnever : remove ∉ events) : events.foldl f b = true ↔ b = true ∨ add ∈ events := by
  induction events generalizing b with
  | nil => simp
  | cons e rest ih =>
    rw [List.foldl_cons, ih fun hmem => hnever (.tail _ hmem), List.mem_cons]
    by_cases heq : e = add
    · simp [heq, hadd]
    · have hremove : e ≠ remove := fun h => hnever (h ▸ .head _)
      rw [hkeep b e heq hremove, or_iff_right (a := add = e) fun h => heq h.symm]

theorem listed_iff (hnever : .unwatch id ∉ events) :
    events.foldl (listedAfter id) listed = true ↔ listed = true ∨ .enlist id ∈ events := by
  refine foldl_eq_true_iff (fun b => by simp [listedAfter]) (fun b e hadd hremove => ?_) hnever
  cases e with
  | enlist other =>
    have hother : other ≠ id := fun h => hadd (h ▸ rfl)
    simp [listedAfter, hother]
  | unwatch other =>
    have hother : other ≠ id := fun h => hremove (h ▸ rfl)
    simp [listedAfter, hother]
  | _ => rfl

theorem told_iff (hnever : .unwatch id ∉ events) :
    events.foldl (toldAfter id) told = true ↔ told = true ∨ .announce id ∈ events := by
  refine foldl_eq_true_iff (fun b => by simp [toldAfter, toldBy]) (fun b e hadd hremove => ?_)
    hnever
  cases e with
  | announce other =>
    have hother : other ≠ id := fun h => hadd (h ▸ rfl)
    simp [toldAfter, toldBy, hother]
  | unwatch other =>
    have hother : other ≠ id := fun h => hremove (h ▸ rfl)
    simp [toldAfter, toldBy, hother]
  | _ => rfl

/-- All that the manager watches is promised, or a caller still owes it. -/
theorem listed_step (e : Event) (hlisted : listed = true → told = true ∨ id ∈ ids)
    (hafter : listedAfter id listed e = true) :
    toldAfter id told e = true ∨ id ∈ owing ids e := by
  -- What is noted is owed until it is told; an id that is no longer watched is no longer due.
  cases e with
  | enlist other =>
    rcases Bool.or_eq_true_iff.1 hafter with hbefore | hother
    · exact (hlisted hbefore).imp_right (List.mem_cons_of_mem other)
    · exact .inr (List.mem_cons.2 (.inl (of_decide_eq_true hother).symm))
  | announce other =>
    by_cases hother : other = id
    · exact .inl (by simp [toldAfter, toldBy, hother])
    · refine (hlisted hafter).imp (fun htold => ?_) (List.mem_erase_of_ne (Ne.symm hother)).2
      simp [toldAfter, toldBy, htold]
  | unwatch other =>
    obtain ⟨hbefore, hother⟩ := Bool.and_eq_true_iff.1 hafter
    exact (hlisted hbefore).imp_left fun htold => Bool.and_eq_true_iff.2 ⟨htold, hother⟩
  | _ => exact hlisted hafter

/-- Once all calls have returned, all that the manager watches is promised. -/
theorem listed_le_told (h : Returned ids events)
    (hlisted : listed = true → told = true ∨ id ∈ ids) :
    events.foldl (listedAfter id) listed = true → events.foldl (toldAfter id) told = true := by
  induction events generalizing ids listed told with
  | nil =>
    obtain rfl : ids = [] := h
    simpa using hlisted
  | cons e rest ih => exact ih h.2 (listed_step e hlisted)

/-- What the worker is told of is noted in time, or is owed from before. -/
theorem owed_of_announced (h : Returned ids events) (hannounce : .announce id ∈ events)
    (hnever : .enlist id ∉ events) : id ∈ ids := by
  induction events generalizing ids with
  | nil => cases hannounce
  | cons e rest ih =>
    rcases List.mem_cons.1 hannounce with heq | hrest
    · exact h.1 id heq.symm
    · have howing := ih h.2 hrest fun hmem => hnever (.tail _ hmem)
      cases e with
      | enlist other =>
        refine (List.mem_cons.1 howing).resolve_left fun heq => hnever ?_
        exact heq ▸ .head _
      | announce other => exact List.mem_of_mem_erase howing
      | _ => exact howing

/-- The last of the events that are equal to one of them. -/
theorem exists_last {e : Event} (h : e ∈ events) :
    ∃ before after, events = before ++ e :: after ∧ e ∉ after := by
  induction events with
  | nil => cases h
  | cons head rest ih =>
    by_cases hmem : e ∈ rest
    · obtain ⟨before, after, rfl, hlast⟩ := ih hmem
      exact ⟨head :: before, after, rfl, hlast⟩
    · obtain rfl := (List.mem_cons.1 h).resolve_right hmem
      exact ⟨[], rest, rfl, hmem⟩

section Ended

variable {before after : List Event}

theorem listed_iff_of_ended (hlast : .unwatch id ∉ after) :
    (before ++ .unwatch id :: after).foldl (listedAfter id) listed = true ↔ .enlist id ∈ after := by
  rw [List.foldl_append, List.foldl_cons, listed_iff hlast]
  simp [listedAfter]

theorem told_iff_of_ended (hlast : .unwatch id ∉ after) :
    (before ++ .unwatch id :: after).foldl (toldAfter id) told = true ↔ .announce id ∈ after := by
  rw [List.foldl_append, List.foldl_cons, told_iff hlast]
  simp [toldAfter, toldBy]

end Ended

/-- If manager and worker have agreed before and all calls have returned, an id is promised that the
manager does not watch exactly when the worker is told of a watch that has ended. -/
theorem outdated_iff (h : Returned [] events) (b : Bool) :
    (events.foldl (toldAfter id) b = true ∧ ¬ events.foldl (listedAfter id) b = true) ↔
      Outdated id events := by
  constructor
  · rintro ⟨htold, hlisted⟩
    by_cases hends : .unwatch id ∈ events
    · obtain ⟨before, after, rfl, hlast⟩ := exists_last hends
      rw [listed_iff_of_ended hlast] at hlisted
      exact ⟨before, after, rfl, hlast, hlisted, (told_iff_of_ended hlast).1 htold⟩
    · rw [listed_iff hends, not_or] at hlisted
      have hannounce := ((told_iff hends).1 htold).resolve_left hlisted.1
      exact absurd (owed_of_announced h hannounce hlisted.2) List.not_mem_nil
  · rintro ⟨before, after, rfl, hlast, hnoted, hannounce⟩
    exact ⟨(told_iff_of_ended hlast).2 hannounce, mt (listed_iff_of_ended hlast).1 hnoted⟩

theorem returned_of_append {more : List Event} (h : Returned ids (events ++ more)) :
    Returned (owingAfter ids events) more := by
  induction events generalizing ids with
  | nil => exact h
  | cons e rest ih => exact ih h.2

theorem apart_of_append {more : List Event} (h : Apart ids (events ++ more)) :
    Apart (owingAfter ids events) more := by
  induction events generalizing ids with
  | nil => exact h
  | cons e rest ih => exact ih h.2

/-- Whoever tells the worker of a watch that has ended has begun it before it ended. -/
theorem not_outdated (h : Returned ids events) (hapart : Apart ids events) :
    ¬ Outdated id events := by
  rintro ⟨before, after, rfl, -, hnoted, hannounce⟩
  have hafter : Returned (owingAfter ids before) after := (returned_of_append h).2
  exact (apart_of_append hapart).1 id rfl (owed_of_announced hafter hannounce hnoted)

end Events

/-- All calls that have been begun since the start have returned, and the worker has carried out
all commands. It then watches all that the manager watches. It watches nothing else if and only if
it has not been told of a watch that has ended since, which cannot happen as long as nobody ends a
watch while another caller begins it. -/
theorem watched_agree_iff (config : TransportConfig) (life : Option Nat) (ids : List String)
    (events : List Event) (hcalls : Returned [] events)
    (hdrained : (run (start config life ids) events).commands = []) :
    let s := run (start config life ids) events
    (∀ id, id ∈ s.watched → id ∈ s.worker.watched) ∧
      ((∀ id, id ∈ s.worker.watched ↔ id ∈ s.watched) ↔ ∀ id, ¬ Outdated id events) ∧
      (Apart [] events → ∀ id, id ∈ s.worker.watched ↔ id ∈ s.watched) := by
  intro s
  have hlisted (id : String) : id ∈ s.watched ↔
      events.foldl (listedAfter id) (decide (id ∈ IdSet.ofList ids)) = true := by
    rw [← decide_eq_true_iff (p := id ∈ s.watched)]
    exact iff_of_eq (congrArg (· = true) (mem_watched_run (start config life ids) id events))
  have htold (id : String) : id ∈ s.worker.watched ↔
      events.foldl (toldAfter id) (decide (id ∈ IdSet.ofList ids)) = true := by
    have hpromised := promised_run (start config life ids) id events
    rw [promised, hdrained] at hpromised
    rw [← decide_eq_true_iff (p := id ∈ s.worker.watched)]
    exact iff_of_eq (congrArg (· = true) hpromised)
  have hincluded (id : String) (hid : id ∈ s.watched) : id ∈ s.worker.watched :=
    (htold id).2 (listed_le_told hcalls .inl ((hlisted id).1 hid))
  have hmore (id : String) : (id ∈ s.worker.watched ↔ id ∈ s.watched) ↔ ¬ Outdated id events := by
    rw [← outdated_iff hcalls, ← hlisted, ← htold, not_and_not_right]
    exact ⟨Iff.mp, fun h => ⟨h, hincluded id⟩⟩
  exact ⟨hincluded, forall_congr' hmore, fun hapart id => (hmore id).2 (not_outdated hcalls hapart)⟩

/-- One caller ends a watch while or after another one begins it, and the worker is told of both. -/
def crossedCalls (early : Bool) : List Event :=
  let calls : List Event :=
    if early then [.enlist "orders", .unwatch "orders", .announce "orders"]
    else [.enlist "orders", .announce "orders", .unwatch "orders"]
  calls ++ [.work .opened, .obey, .work .opened, .obey]

theorem returned_crossedCalls (early : Bool) : Returned [] (crossedCalls early) := by
  cases early <;> simp [crossedCalls, Returned, owing]

/-- The watch has ended for both if it has begun for both. -/
theorem watch_ends_for_both :
    let s := run (start {} none ["views"]) (crossedCalls false)
    s.commands = [] ∧ s.watched = ["views"] ∧
      ∀ id, id ∈ s.worker.watched ↔ id ∈ s.watched := by
  intro s
  have hdrained : s.commands = [] := by decide
  refine ⟨hdrained, by decide, ?_⟩
  refine (watched_agree_iff {} none ["views"] _ (returned_crossedCalls false) hdrained).2.2 ?_
  simp [crossedCalls, Apart, owing]

/-- It goes on for the worker if it has ended for the manager before the worker was told. -/
theorem outdated_watch_goes_on :
    (¬ ∀ (config : TransportConfig) (life : Option Nat) (ids : List String) (events : List Event),
      Returned [] events → (run (start config life ids) events).commands = [] →
        (run (start config life ids) events).worker.watched =
          (run (start config life ids) events).watched) ∧
      let s := run (start {} none ["views"]) (crossedCalls true)
      s.commands = [] ∧ s.watched = ["views"] ∧ s.worker.watched = ["orders", "views"] ∧
        s.worker.phase = .opening ["orders", "views"] := by
  refine ⟨fun h => ?_, by decide, by decide, by decide, by decide⟩
  have heq := h {} none ["views"] _ (returned_crossedCalls true) (by decide)
  exact absurd heq (by decide)

end PipelineConsole.StatusSync
