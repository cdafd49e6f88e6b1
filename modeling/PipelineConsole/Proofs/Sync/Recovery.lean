import PipelineConsole.Proofs.Sync.Delivery

/-!
# Recovery from a failure

A pipeline whose checks fail too often is given up: its failure is recorded, and it is not checked
any more until it is watched anew. The failure is forgotten when a status is confirmed. But the
worker sends a status only if it is not the one that it sent last, and giving a pipeline up does not
change what it remembers. If the pipeline is found as it was before it failed, then the failure
stays on record, unless the worker was made to forget the pipeline by a call to unwatch.

## Main definitions

* `StatusSync.prospect` — what is known once the queued updates have been applied
* `StatusSync.GivenUp` — a pipeline has been given up, and its failure is recorded
* `StatusSync.Unanswered`, `StatusSync.Forgets`, `StatusSync.Quiet` — what happens in a run
* `StatusSync.Recovered` — a status is confirmed, and the failure is forgotten

## Main results

* `prospect_step` — only what the worker sends changes the prospect
* `lastSeen_of_unanswered` — what the worker remembers of a pipeline while no check of it succeeds
* `recovers_iff` — when a pipeline recovers
* `unchanged_status_keeps_failure` — a run in which it does not
-/

namespace PipelineConsole

namespace Update

variable {id : String} {known : Option Status × Option ErrorBody} {updates : List Update}

/-- As long as no status is told, a pipeline with a failure keeps one, and a pipeline without a
confirmed status gets none. -/
theorem lacking_foldl_learn (hnone : lastStatus id updates = none)
    (h : known.2.isSome ∨ known.1 = none) :
    (updates.foldl (learn id) known).2.isSome ∨ (updates.foldl (learn id) known).1 = none := by
  induction updates generalizing known with
  | nil => exact h
  | cons u rest ih =>
    rw [List.foldl_cons]
    cases u with
    | status other st =>
      obtain ⟨hrest, hother⟩ := Option.or_eq_none_iff.1 hnone
      have hne : other ≠ id := fun heq => by simp [heq] at hother
      exact ih hrest (by rwa [learn, if_neg hne])
    | failed other error =>
      refine ih hnone ?_
      rw [learn]
      split
      · exact .inl rfl
      · exact h

end Update

namespace StatusSync

open Update (lastStatus lastStatus_append statuses learn)

/-- What is known of a pipeline once the queued updates have been applied. -/
def prospect (s : StatusSync) (id : String) : Option Status × Option ErrorBody :=
  s.updates.foldl (learn id) (s.known id)

/-- The worker has turned to checks and has given a pipeline up. Its failure is recorded, and
nothing of it is queued any more. -/
structure GivenUp (s : StatusSync) (id : String) : Prop where
  rounds : s.worker.InRounds
  exhausted : id ∈ s.worker.exhausted
  recorded : ∃ entry error, s.cache.get? id = some entry ∧ entry.error = some error
  drained : ∀ u ∈ s.updates, u.id ≠ id

/-- A status of the pipeline is confirmed, and no failure of it is on record. -/
def Recovered (s : StatusSync) (id : String) (st : Status) : Prop :=
  ∃ entry, s.cache.get? id = some entry ∧ entry.error = none ∧ entry.confirmed = some st

/-- The event is a check of the pipeline that succeeds. -/
def Answers (s : StatusSync) (id : String) : Event → Prop
  | .work (.health (.ok _)) => ∃ rest, s.worker.phase = .fetching id rest
  | _ => False

/-- No check of the pipeline succeeds in a run. -/
def Unanswered (s : StatusSync) (id : String) : List Event → Prop
  | [] => True
  | e :: rest => ¬ s.Answers id e ∧ (step s e).Unanswered id rest

/-- In a run, the worker carries out a command to forget the pipeline. -/
def Forgets (s : StatusSync) (id : String) : List Event → Prop
  | [] => False
  | e :: rest => s.carriesOut e = some (.unwatch id) ∨ (step s e).Forgets id rest

/-- In a run, the worker sends nothing of the pipeline, and the pipeline is not unwatched. -/
def Quiet (s : StatusSync) (id : String) : List Event → Prop
  | [] => True
  | e :: rest =>
    e ≠ .unwatch id ∧ (∀ u ∈ s.sends e, u.id ≠ id) ∧ (step s e).Quiet id rest

section Prospect

variable {s : StatusSync} {id : String} {st : Status} {e : Event} {events : List Event}

theorem recovered_iff : s.Recovered id st ↔ s.known id = (some st, none) := by
  unfold Recovered known
  cases s.cache.get? id with
  | none => simp
  | some entry => simp [and_comm]

/-- What an event applies was in the prospect already; only what the worker sends is new. -/
theorem prospect_step (hwatched : id ∈ s.watched) (hkept : e ≠ .unwatch id) :
    (step s e).prospect id = (s.sends e).foldl (learn id) (s.prospect id) := by
  rw [prospect, prospect, known_step hkept, applies, Update.foldl_learn_filter hwatched,
    updates_step, List.foldl_append, ← List.foldl_append (l := s.updates.take e.takes),
    List.take_append_drop]

theorem prospect_run (hwatched : id ∈ s.watched) (hquiet : s.Quiet id events) :
    (run s events).prospect id = s.prospect id := by
  induction events generalizing s with
  | nil => rfl
  | cons e rest ih =>
    obtain ⟨hkept, hsends, hrest⟩ := hquiet
    rw [run_cons, ih (watched_step hwatched hkept) hrest, prospect_step hwatched hkept,
      Update.foldl_learn_of_ne hsends]

/-- An answer is the new prospect, unless the worker has sent it last. -/
theorem prospect_answer {rest : List String} (hchecks : s.worker.ChecksWatched)
    (hwatched : id ∈ s.watched) (hphase : s.worker.phase = .fetching id rest) :
    (step s (.work (.health (.ok st)))).prospect id =
      if s.worker.lastSeen.get? id = some st then s.prospect id else (some st, none) := by
  have hsent : s.sends (.work (.health (.ok st))) =
      if s.worker.lastSeen.get? id = some st then [] else [.status id st] :=
    Worker.step_answer hphase (hchecks id rest hphase id (.head _))
  rw [prospect_step hwatched Event.noConfusion, hsent]
  split
  · rfl
  · exact if_pos rfl

end Prospect

/-! ### While no check succeeds -/

section Unanswered

variable {s : StatusSync} {id : String} {e : Event} {events : List Event}

/-- In the rounds, no status is sent without a check that succeeds. -/
theorem lastStatus_sends (hrounds : s.worker.InRounds) (h : ¬ s.Answers id e) :
    lastStatus id (s.sends e) = none := by
  cases e with
  | work input =>
    have hinput : lastStatus id (s.worker.step input).2 = none := by
      refine Worker.lastStatus_step_of_inRounds hrounds ?_
      rintro rest st hphase rfl
      exact h ⟨rest, hphase⟩
    cases input with
    | command c => rfl
    | _ => exact hinput
  | _ => rfl

/-- No status of the pipeline is queued, and either its failure is recorded or no status of it is
confirmed. -/
structure Lacking (s : StatusSync) (id : String) : Prop where
  silent : lastStatus id s.updates = none
  unknown : (s.known id).2.isSome ∨ (s.known id).1 = none

theorem GivenUp.lacking (h : s.GivenUp id) : s.Lacking id where
  silent := by
    rw [Update.lastStatus_eq_none_iff]
    exact fun st hst => h.drained _ hst rfl
  unknown := by
    obtain ⟨entry, error, hentry, herror⟩ := h.recorded
    left
    rw [known, hentry, Option.getD_some, herror]
    rfl

theorem Lacking.step (h : s.Lacking id) (hrounds : s.worker.InRounds) (he : ¬ s.Answers id e) :
    (step s e).Lacking id := by
  refine ⟨?_, ?_⟩
  · rw [updates_step, lastStatus_append, lastStatus_sends hrounds he,
      Update.lastStatus_drop_eq_none h.silent, Option.none_or]
  · by_cases hkept : e = .unwatch id
    · right
      rw [hkept, known, StatusSync.step, unwatch, Table.get?_erase, if_pos rfl]
      rfl
    · rw [known_step hkept]
      refine Update.lacking_foldl_learn ?_ h.unknown
      rw [Update.lastStatus_eq_none_iff]
      intro st hst
      have hqueued := List.mem_of_mem_take (List.mem_filter.1 hst).1
      exact Update.lastStatus_eq_none_iff.1 h.silent st hqueued

theorem lacking_run (h : s.Lacking id) (hrounds : s.worker.InRounds)
    (hun : s.Unanswered id events) : (run s events).Lacking id := by
  induction events generalizing s with
  | nil => exact h
  | cons e rest ih => exact ih (h.step hrounds hun.1) (inRounds_step hrounds e) hun.2

/-- A pipeline that lacks something has no prospect of being recovered. -/
theorem Lacking.prospect_ne (h : s.Lacking id) (st : Status) : s.prospect id ≠ (some st, none) := by
  intro heq
  have hlacks := Update.lacking_foldl_learn h.silent h.unknown
  rw [← prospect, heq] at hlacks
  simp at hlacks

/-- As long as no check of a pipeline succeeds, the worker forgets its status when it is told to,
and remembers it otherwise. -/
theorem lastSeen_step_of_unanswered (hrounds : s.worker.InRounds) (h : ¬ s.Answers id e) :
    (step s e).worker.lastSeen.get? id =
      if s.carriesOut e = some (.unwatch id) then none else s.worker.lastSeen.get? id := by
  rw [lastSeen_step, lastStatus_sends hrounds h, Option.none_or]

/-- Once it has forgotten the status of a pipeline, the worker does not remember one until a check
succeeds. -/
theorem lastSeen_run_of_none (hrounds : s.worker.InRounds) (hun : s.Unanswered id events)
    (hnone : s.worker.lastSeen.get? id = none) :
    (run s events).worker.lastSeen.get? id = none := by
  induction events generalizing s with
  | nil => exact hnone
  | cons e rest ih =>
    refine ih (inRounds_step hrounds e) hun.2 ?_
    rw [lastSeen_step_of_unanswered hrounds hun.1, hnone, ite_self]

theorem lastSeen_run_of_forgets (hrounds : s.worker.InRounds) (hun : s.Unanswered id events)
    (hforgets : s.Forgets id events) : (run s events).worker.lastSeen.get? id = none := by
  induction events generalizing s with
  | nil => exact hforgets.elim
  | cons e rest ih =>
    rw [run_cons]
    rcases hforgets with hnow | hlater
    · refine lastSeen_run_of_none (inRounds_step hrounds e) hun.2 ?_
      rw [lastSeen_step_of_unanswered hrounds hun.1, if_pos hnow]
    · exact ih (inRounds_step hrounds e) hun.2 hlater

theorem lastSeen_run_of_not_forgets (hrounds : s.worker.InRounds) (hun : s.Unanswered id events)
    (hkeeps : ¬ s.Forgets id events) :
    (run s events).worker.lastSeen.get? id = s.worker.lastSeen.get? id := by
  induction events generalizing s with
  | nil => rfl
  | cons e rest ih =>
    obtain ⟨hnow, hlater⟩ := not_or.1 hkeeps
    rw [run_cons, ih (inRounds_step hrounds e) hun.2 hlater,
      lastSeen_step_of_unanswered hrounds hun.1, if_neg hnow]

end Unanswered

/-! ### Recovery -/

section Recovery

/-- A pipeline has been given up; it is checked again, for the first time with success, and the
manager watches it. Then nothing more is sent of it, and the queue is drained. The answer is
confirmed and the failure is forgotten exactly when the answer is not the status that the worker
remembered when it gave the pipeline up, or the worker has been made to forget the pipeline in
between. -/
theorem recovers_iff (config : TransportConfig) (life : Option Nat) (ids : List String)
    (history between after : List Event) (id : String) (rest : List String) (st : Status) :
    let givenUp := run (start config life ids) history
    let before := run givenUp between
    let answered := step before (.work (.health (.ok st)))
    let drained := run answered after
    givenUp.GivenUp id → givenUp.Unanswered id between → before.worker.phase = .fetching id rest →
      id ∈ before.watched → answered.Quiet id after → (∀ u ∈ drained.updates, u.id ≠ id) →
      (drained.Recovered id st ↔
        givenUp.worker.lastSeen.get? id ≠ some st ∨ givenUp.Forgets id between) := by
  intro givenUp before answered drained hgiven hun hphase hwatched hquiet hdrained
  have hchecks : before.worker.ChecksWatched :=
    checksWatched_run
      (checksWatched_run (Worker.checksWatched_start config ids) history) between
  have hlacking : before.Lacking id := lacking_run hgiven.lacking hgiven.rounds hun
  -- What is known in the end is what was in prospect after the answer.
  have hknown : drained.known id = answered.prospect id := by
    rw [← prospect_run (watched_step hwatched Event.noConfusion) hquiet, prospect,
      Update.foldl_learn_of_ne hdrained]
  have hrecovers : drained.Recovered id st ↔ before.worker.lastSeen.get? id ≠ some st := by
    rw [recovered_iff, hknown, prospect_answer hchecks hwatched hphase]
    split
    · next hold => exact iff_of_false (hlacking.prospect_ne st) fun hnews => hnews hold
    · next hnews => exact iff_of_true rfl hnews
  rw [hrecovers]
  by_cases hforgets : givenUp.Forgets id between
  · rw [lastSeen_run_of_forgets hgiven.rounds hun hforgets]
    exact iff_of_true (by simp) (.inr hforgets)
  · rw [lastSeen_run_of_not_forgets hgiven.rounds hun hforgets]
    exact (or_iff_left hforgets).symm

end Recovery

/-! ### A failure that stays -/

/-- The failure of a check. -/
def unavailable : ErrorBody := { code := 503, message := "service unavailable" }

/-- The stream is refused, and checks take over: a pipeline runs, then its check fails. -/
def failedOnce : List Event :=
  [.work .refused, .work .roundDue, .work (.health (.ok .running)), .applyNext, .work .roundDue,
    .work (.health (.error unavailable)), .applyNext]

/-- It is watched anew and checked in the next round. -/
def watchedAnew : List Event :=
  [.enlist "orders", .announce "orders", .obey, .work .roundDue]

/-- A single failure is enough to give a pipeline up. -/
def strict : TransportConfig := { maxStreamFailures := 1, maxPollFailures := 1 }

theorem failedOnce_givesUp : (run (start strict none ["orders"]) failedOnce).GivenUp "orders" where
  rounds := .inl (by decide)
  exhausted := by decide
  recorded := ⟨⟨some .running, none, some unavailable⟩, unavailable, by decide, rfl⟩
  drained := by decide

/-- When the check answers another status, the pipeline recovers. -/
theorem new_status_ends_failure :
    let givenUp := run (start strict none ["orders"]) failedOnce
    let before := run givenUp watchedAnew
    let answered := step before (.work (.health (.ok .paused)))
    givenUp.GivenUp "orders" ∧ before.worker.phase = .fetching "orders" [] ∧
      (run answered [.applyNext]).Recovered "orders" .paused := by
  intro givenUp before answered
  have hphase : before.worker.phase = .fetching "orders" [] := by decide
  have hnews : givenUp.worker.lastSeen.get? "orders" ≠ some .paused := by decide
  have hrecovers := recovers_iff strict none ["orders"] failedOnce watchedAnew [.applyNext]
    "orders" [] .paused failedOnce_givesUp ⟨id, id, id, id, trivial⟩ hphase (by decide)
    ⟨Event.noConfusion, fun u hu => absurd hu List.not_mem_nil, trivial⟩ (by decide)
  exact ⟨failedOnce_givesUp, hphase, hrecovers.2 (.inl hnews)⟩

/-- When the check answers that the pipeline runs, as it did before it failed, the failure stays on
record. -/
theorem unchanged_status_keeps_failure :
    ¬ ∀ (config : TransportConfig) (life : Option Nat) (ids : List String)
        (history between after : List Event) (id : String) (rest : List String) (st : Status),
      let givenUp := run (start config life ids) history
      let before := run givenUp (.enlist id :: .announce id :: between)
      let answered := step before (.work (.health (.ok st)))
      let drained := run answered after
      givenUp.GivenUp id → givenUp.Unanswered id (.enlist id :: .announce id :: between) →
        before.worker.phase = .fetching id rest → id ∈ before.watched → answered.Quiet id after →
        (∀ u ∈ drained.updates, u.id ≠ id) → drained.Recovered id st := by
  intro h
  have hrecovered := h strict none ["orders"] failedOnce [.obey, .work .roundDue] [] "orders" []
    .running failedOnce_givesUp ⟨id, id, id, id, trivial⟩ (by decide) (by decide) trivial
    (by decide)
  rw [recovered_iff] at hrecovered
  exact absurd hrecovered (by decide)

end StatusSync

end PipelineConsole
