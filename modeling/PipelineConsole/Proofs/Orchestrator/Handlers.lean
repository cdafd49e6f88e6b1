import PipelineConsole.Orchestrator.Perform

/-!
# What handlers do

A handler that refuses a call leaves the state as it was, if it does nothing but look as long as it
may still refuse, and nothing but change the state from then on. All handlers but one are of this
kind. The deletion of a notification refuses the call at the end; but then it has not found anything
to delete.

Two handlers, or a handler on two occasions, are compared state by state: what relates the states
before them relates the states after them, however the handlers are put together.

## Main definitions

* `Handler.Reads`, `Handler.Commits` — handlers that only look, and that never refuse
* `Handler.Atomic` — handlers whose refusals leave the state as it was
* `Handler.SameOutcome`, `Handler.Relates` — handlers that do the same in related states

## Main results

* `Handler.Reads.bind_atomic`, `Handler.Atomic.bind` — looking first, and changing last
* `Handler.SameOutcome.bind`, `Handler.Relates.bind` — the same, one after the other
* `atomic_perform` — every operation is atomic
* `perform_cases`, `perform_induction` — an operation has a reply, or it leaves the state as it was
-/

namespace PipelineConsole.Orchestrator

namespace Handler

variable {α β : Type} {x : Handler α} {f : α → Handler β}

/-- It leaves the state as it is, whatever it tells. -/
def Reads (x : Handler α) : Prop := ∀ s, (x s).2 = s

/-- It never refuses a call. -/
def Commits (x : Handler α) : Prop := ∀ s, ∃ a t, x s = (.ok a, t)

/-- If it refuses a call, it leaves the state as it was. -/
def Atomic (x : Handler α) : Prop := ∀ s t fault, x s = (.error fault, t) → t = s

theorem reads_look (f : Orchestrator → Except Fault α) : Reads (look f) := fun _ => rfl

theorem reads_ensure (condition : Bool) (otherwise : Fault) : Reads (ensure condition otherwise) :=
  reads_look _

theorem commits_pure (a : α) : Commits (pure a) := fun s => ⟨a, s, rfl⟩

theorem commits_commit (f : Orchestrator → α × Orchestrator) : Commits (commit f) :=
  fun s => ⟨(f s).1, (f s).2, rfl⟩

theorem commits_update (f : Orchestrator → Orchestrator) : Commits (update f) := commits_commit _

theorem Reads.atomic (h : Reads x) : Atomic x := by
  intro s t fault hx
  rw [← h s, hx]

theorem Commits.atomic (h : Commits x) : Atomic x := by
  intro s t fault hx
  obtain ⟨a, r, hok⟩ := h s
  nomatch hok.symm.trans hx

theorem Commits.bind (hx : Commits x) (hf : ∀ a, Commits (f a)) : Commits (x >>= f) := by
  intro s
  obtain ⟨a, r, hok⟩ := hx s
  rw [bind_apply, hok]
  exact hf a r

/-- Whoever has only looked so far may still refuse. -/
theorem Reads.bind_atomic (hx : Reads x) (hf : ∀ a, Atomic (f a)) : Atomic (x >>= f) := by
  intro s t fault h
  have hsame := hx s
  rw [bind_apply] at h
  rcases hlook : x s with ⟨_ | a, r⟩
  · rw [hlook] at h hsame
    exact (Prod.mk.inj h).2.symm.trans hsame
  · rw [hlook] at h hsame
    exact (hf a r t fault h).trans hsame

/-- Nothing is refused any more once the state is being changed. -/
theorem Atomic.bind (hx : Atomic x) (hf : ∀ a, Commits (f a)) : Atomic (x >>= f) := by
  intro s t fault h
  rw [bind_apply] at h
  rcases hfirst : x s with ⟨_ | a, r⟩
  · rw [hfirst] at h
    exact (Prod.mk.inj h).2 ▸ hx s r _ hfirst
  · rw [hfirst] at h
    obtain ⟨b, u, hok⟩ := hf a r
    nomatch hok.symm.trans h

/-! ### Two handlers side by side -/

/-- Two outcomes are the same answer, and states that are related. -/
structure SameOutcome (R : Orchestrator → Orchestrator → Prop)
    (outcome outcome' : Except Fault α × Orchestrator) : Prop where
  answer : outcome.1 = outcome'.1
  states : R outcome.2 outcome'.2

/-- In related states, two handlers have the same outcome. -/
def Relates (R : Orchestrator → Orchestrator → Prop) (x x' : Handler α) : Prop :=
  ∀ s s', R s s' → SameOutcome R (x s) (x' s')

section Relates

variable {R : Orchestrator → Orchestrator → Prop} {s s' : Orchestrator} {x' : Handler α}
  {f' : α → Handler β}

/-- What follows the same outcome is the same, if it is in related states. -/
theorem SameOutcome.bind (hx : SameOutcome R (x s) (x' s')) (hf : ∀ a, Relates R (f a) (f' a)) :
    SameOutcome R ((x >>= f) s) ((x' >>= f') s') := by
  obtain ⟨hanswer, hstates⟩ := hx
  rw [bind_apply, bind_apply]
  rcases hout : x s with ⟨answer, t⟩
  rcases hout' : x' s' with ⟨answer', t'⟩
  rw [hout, hout'] at hanswer hstates
  obtain rfl : answer = answer' := hanswer
  cases answer with
  | error fault => exact ⟨rfl, hstates⟩
  | ok a => exact hf a t t' hstates

theorem Relates.bind (hx : Relates R x x') (hf : ∀ a, Relates R (f a) (f' a)) :
    Relates R (x >>= f) (x' >>= f') :=
  fun s s' hs => (hx s s' hs).bind hf

theorem Relates.pure (a : α) : Relates R (pure a) (pure a) := fun _ _ hs => ⟨rfl, hs⟩

theorem Relates.look {f f' : Orchestrator → Except Fault α} (h : ∀ s s', R s s' → f s = f' s') :
    Relates R (look f) (look f') :=
  fun s s' hs => ⟨h s s' hs, hs⟩

theorem Relates.ensure (condition : Bool) (otherwise : Fault) :
    Relates R (ensure condition otherwise) (ensure condition otherwise) :=
  .look fun _ _ _ => rfl

theorem Relates.commit {f f' : Orchestrator → α × Orchestrator}
    (h : ∀ s s', R s s' → (f s).1 = (f' s').1 ∧ R (f s).2 (f' s').2) :
    Relates R (commit f) (commit f') :=
  fun s s' hs => ⟨congrArg Except.ok (h s s' hs).1, (h s s' hs).2⟩

theorem Relates.update {f f' : Orchestrator → Orchestrator} (h : ∀ s s', R s s' → R (f s) (f' s')) :
    Relates R (update f) (update f') :=
  fun s s' hs => ⟨rfl, h s s' hs⟩

end Relates

end Handler

open Handler

variable {s : Orchestrator} {rules : Rules} {o : Occasion} {op : Operation}

/-! ### The handlers -/

theorem atomic_accept (rules : Rules) (o : Occasion) (config : PipelineConfig) :
    Atomic (accept rules o config) :=
  (reads_look _).bind_atomic fun _ => (commits_update _).atomic

theorem atomic_create (rules : Rules) (o : Occasion) (config : PipelineConfig) :
    Atomic (create rules o config) := by
  refine (reads_look _).bind_atomic fun _ => (atomic_accept rules o _).bind fun _ => ?_
  exact (commits_update _).bind fun _ => (commits_update _).bind fun _ => commits_pure _

theorem atomic_rename (o : Occasion) (id name : String) : Atomic (rename o id name) := by
  refine (reads_ensure _ _).bind_atomic fun _ => (reads_look _).bind_atomic fun p => ?_
  exact (commits_update _).atomic

theorem atomic_edit (o : Occasion) (id : String) (config : PipelineConfig) :
    Atomic (edit o id config) := by
  refine (reads_look _).bind_atomic fun _ => (reads_look _).bind_atomic fun p => ?_
  exact (reads_ensure _ _).bind_atomic fun _ => (commits_update _).atomic

theorem atomic_withdraw (id : String) : Atomic (withdraw id) := by
  refine (reads_look _).bind_atomic fun p => (reads_ensure _ _).bind_atomic fun _ => ?_
  exact (commits_update _).atomic

theorem atomic_delete (id : String) : Atomic (delete id) :=
  (atomic_withdraw id).bind fun _ => commits_update _

theorem atomic_act (rules : Rules) (o : Occasion) (id : String) (action : Action) :
    Atomic (act rules o id action) := by
  refine (reads_look _).bind_atomic fun p => (reads_ensure _ _).bind_atomic fun _ => ?_
  refine ((commits_update _).bind fun _ => ?_).atomic
  exact (commits_update _).bind fun _ => commits_pure _

theorem atomic_consume (o : Occasion) (id : String) (size : Option UInt64) :
    Atomic (consume o id size) := by
  refine (reads_look _).bind_atomic fun size => (reads_look _).bind_atomic fun _ => ?_
  exact (commits_commit _).atomic

theorem atomic_purge (id : String) : Atomic (purge id) :=
  (reads_look _).bind_atomic fun _ => (commits_update _).atomic

/-- The notifications that are left tell whether there was one to be deleted. -/
theorem deleteNotification_apply (id : String) (s : Orchestrator) :
    deleteNotification id s =
      (if (s.notifications.filter (·.id ≠ id)).length ≠ s.notifications.length then .ok ()
        else .error (.unknownNotification id),
        { s with notifications := s.notifications.filter (·.id ≠ id) }) := by
  simp only [deleteNotification, bind_apply, look_apply, update_apply, ensure, decide_eq_true_eq]

theorem atomic_deleteNotification (id : String) : Atomic (deleteNotification id) := by
  intro s t fault h
  rw [deleteNotification_apply] at h
  obtain ⟨hanswer, rfl⟩ := Prod.mk.inj h
  split at hanswer
  · nomatch hanswer
  · next hlength =>
    -- As many are left as there were, so that the notification was none of them.
    have hall := List.length_filter_eq_length_iff.1 (Decidable.not_not.1 hlength)
    rw [List.filter_eq_self.2 hall]

/-- A refused operation leaves the state as it was. -/
theorem atomic_perform (rules : Rules) (o : Occasion) (op : Operation) :
    Atomic (perform rules o op) := by
  cases op with
  | create config => exact atomic_create rules o config
  | rename id name => exact atomic_rename o id name
  | edit id config => exact atomic_edit o id config
  | delete id => exact atomic_delete id
  | act id action => exact atomic_act rules o id action
  | consume id size => exact atomic_consume o id size
  | purge id => exact atomic_purge id
  | deleteNotification id => exact atomic_deleteNotification id
  | platform => exact (commits_pure _).atomic
  | terminateAll => exact Commits.atomic fun s => ⟨_, _, rfl⟩
  | markRead ids => exact Commits.atomic fun s => ⟨_, _, rfl⟩
  | list | get | health | deadLetters | checkFilter | evaluateTransform | listNotifications
  | getNotification => exact (reads_look _).atomic

/-- An operation has a reply, or it leaves the state as it was. -/
theorem perform_cases (rules : Rules) (o : Occasion) (op : Operation) (s : Orchestrator) :
    (∃ reply s', perform rules o op s = (.ok reply, s')) ∨
      ∃ fault, perform rules o op s = (.error fault, s) := by
  rcases hperform : perform rules o op s with ⟨fault | reply, s'⟩
  · obtain rfl := atomic_perform rules o op s s' fault hperform
    exact .inr ⟨fault, rfl⟩
  · exact .inl ⟨reply, s', rfl⟩

/-- What holds of a state holds after an operation, if it does where the operation has a reply. -/
theorem perform_induction {motive : Orchestrator → Prop} (h : motive s)
    (answered : ∀ reply s', perform rules o op s = (.ok reply, s') → motive s') :
    motive (perform rules o op s).2 := by
  rcases perform_cases rules o op s with ⟨reply, s', hop⟩ | ⟨fault, hop⟩
  · exact hop ▸ answered reply s' hop
  · exact hop ▸ h

end PipelineConsole.Orchestrator
