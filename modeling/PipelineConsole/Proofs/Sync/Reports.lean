import PipelineConsole.Sync.Worker

/-!
# What the worker reports

The worker remembers the status that it reported last for each pipeline. What it remembers and what
it sends go together: after any input it remembers the last status that it has sent on that input,
or else what it remembered before, unless it was told to forget the pipeline.

## Main definitions

* `Update.lastStatus` — the last status of a pipeline among updates
* `Worker.InRounds` — the worker has turned to checks
* `Worker.ChecksWatched` — the checks that are left in a round are of watched pipelines

## Main results

* `lastSeen_step` — what the worker remembers is what it sent last
* `inRounds_step`, `checksWatched_step` — what every input preserves
* `lastStatus_step_of_inRounds` — in the rounds, only a check that succeeds reports a status
-/

namespace PipelineConsole

/-- The last status of a pipeline among updates. -/
def Update.lastStatus (id : String) : List Update → Option Status
  | [] => none
  | .status i st :: rest => (lastStatus id rest).or (if i = id then some st else none)
  | .failed .. :: rest => lastStatus id rest

namespace Update

variable {id : String}

@[simp] theorem lastStatus_nil : lastStatus id [] = none := rfl

@[simp] theorem lastStatus_append (earlier later : List Update) :
    lastStatus id (earlier ++ later) = (lastStatus id later).or (lastStatus id earlier) := by
  induction earlier with
  | nil => simp
  | cons u rest ih =>
    cases u with
    | status i st => simp only [List.cons_append, lastStatus, ih, Option.or_assoc]
    | failed i error => exact ih

theorem lastStatus_eq_none_iff {updates : List Update} :
    lastStatus id updates = none ↔ ∀ status, Update.status id status ∉ updates := by
  induction updates with
  | nil => simp
  | cons u rest ih =>
    cases u with
    | status i st =>
      by_cases h : i = id
      · subst h
        exact iff_of_false (by simp [lastStatus]) fun hnone => hnone st (.head _)
      · have h' : id ≠ i := fun heq => h heq.symm
        simp [lastStatus, h, h', ih]
    | failed i error => simp [lastStatus, ih]

/-- The last status of all is told by what is left of the updates, if anything is. -/
theorem lastStatus_of_drop {updates : List Update} {n : Nat} {st : Status}
    (h : lastStatus id (updates.drop n) = some st) : lastStatus id updates = some st := by
  rw [← List.take_append_drop n updates, lastStatus_append, h, Option.some_or]

theorem lastStatus_drop_eq_none {updates : List Update} (h : lastStatus id updates = none)
    (n : Nat) : lastStatus id (updates.drop n) = none :=
  Option.eq_none_iff_forall_ne_some.2 fun _ hst => absurd (lastStatus_of_drop hst) (by simp [h])

end Update

namespace Worker

open Update (lastStatus lastStatus_append)

/-! ### The parts of a worker that a step leaves alone -/

section Frame

variable (w : Worker) (ids : List String) (id : String) (status : Status)

@[simp] theorem lastSeen_attempt : w.attempt.lastSeen = w.lastSeen := rfl

@[simp] theorem watched_attempt : w.attempt.watched = w.watched := rfl

@[simp] theorem lastSeen_attemptFailed : w.attemptFailed.lastSeen = w.lastSeen := by
  simp only [attemptFailed]
  split <;> rfl

@[simp] theorem watched_attemptFailed : w.attemptFailed.watched = w.watched := by
  simp only [attemptFailed]
  split <;> rfl

@[simp] theorem lastSeen_fetchNext : (w.fetchNext ids).lastSeen = w.lastSeen := by
  cases ids <;> rfl

@[simp] theorem watched_fetchNext : (w.fetchNext ids).watched = w.watched := by
  cases ids <;> rfl

@[simp] theorem watched_observe : (w.observe id status).1.watched = w.watched := by
  unfold observe
  split <;> rfl

@[simp] theorem phase_observe : (w.observe id status).1.phase = w.phase := by
  unfold observe
  split <;> rfl

@[simp] theorem watched_checked (result : Except ErrorBody Status) :
    (w.checked id result).1.watched = w.watched := by
  unfold checked
  split
  · exact watched_observe ..
  · dsimp only
    split <;> rfl

end Frame

/-! ### What the worker remembers -/

section LastSeen

variable {w : Worker} {id : String}

theorem lastSeen_observe (i : String) (status : Status) :
    (w.observe i status).1.lastSeen.get? id =
      (lastStatus id (w.observe i status).2).or (w.lastSeen.get? id) := by
  unfold observe
  split
  · rfl
  · by_cases h : id = i
    · subst h
      simp [Table.get?_insert, lastStatus]
    · have h' : i ≠ id := fun heq => h heq.symm
      simp [Table.get?_insert, lastStatus, h, h']

theorem lastSeen_observeAll (changes : List StatusChange) :
    (w.observeAll changes).1.lastSeen.get? id =
      (lastStatus id (w.observeAll changes).2).or (w.lastSeen.get? id) := by
  induction changes generalizing w with
  | nil => rfl
  | cons c rest ih =>
    simp only [observeAll, ih, lastSeen_observe, lastStatus_append, Option.or_assoc]

/-- A check that fails reports no status. -/
theorem checked_error (w : Worker) (id i : String) (error : ErrorBody) :
    lastStatus id (w.checked i (.error error)).2 = none ∧
      (w.checked i (.error error)).1.lastSeen = w.lastSeen := by
  simp only [checked]
  split
  · exact ⟨rfl, rfl⟩
  · exact ⟨rfl, rfl⟩

theorem lastSeen_checked (i : String) (result : Except ErrorBody Status) :
    (w.checked i result).1.lastSeen.get? id =
      (lastStatus id (w.checked i result).2).or (w.lastSeen.get? id) := by
  cases result with
  | ok status => exact lastSeen_observe i status
  | error error =>
    obtain ⟨hnone, hlast⟩ := checked_error w id i error
    rw [hnone, hlast, Option.none_or]

/-- A command changes nothing that is remembered, except that it may forget its pipeline. -/
theorem lastSeen_apply (c : Command) :
    (w.apply c).lastSeen.get? id = w.lastSeen.get? id ∨ (w.apply c).lastSeen.get? id = none := by
  cases c with
  | watch i => exact .inl rfl
  | unwatch i =>
    rw [apply, Table.get?_erase]
    split
    · exact .inr rfl
    · exact .inl rfl

/-- After an input, the worker remembers the last status of a pipeline that it has sent on it, or
what it remembered before, or nothing. -/
theorem lastSeen_step (w : Worker) (input : Input) (id : String) :
    (w.step input).1.lastSeen.get? id =
        (lastStatus id (w.step input).2).or (w.lastSeen.get? id) ∨
      (w.step input).1.lastSeen.get? id = none := by
  unfold step
  split
  case h_1 c _ => exact lastSeen_apply c
  case h_2 => exact .inl rfl
  case h_3 => exact .inl (by simp)
  case h_4 c _ =>
    dsimp only
    split
    · exact lastSeen_apply c
    · exact lastSeen_apply c
  case h_5 => exact .inl (lastSeen_observeAll ..)
  case h_6 => exact .inl (by simp)
  case h_7 => exact .inl rfl
  case h_8 => exact .inl (by simp)
  case h_9 c _ => exact lastSeen_apply c
  case h_10 => exact .inl rfl
  case h_11 c _ => exact lastSeen_apply (w := w.refresh c.id) c
  case h_12 => exact .inl (by simp)
  case h_13 i rest result _ =>
    left
    dsimp only
    rw [lastSeen_fetchNext]
    exact lastSeen_checked i result
  case h_14 => exact .inl rfl

end LastSeen

/-! ### The rounds of checks -/

section Rounds

variable {w : Worker} {id : String}

/-- The worker has turned to checks, and waits for a round or for an answer. -/
def InRounds (w : Worker) : Prop := w.phase = .polling ∨ ∃ id rest, w.phase = .fetching id rest

/-- The checks that are left in a round are of watched pipelines. -/
def ChecksWatched (w : Worker) : Prop :=
  ∀ id rest, w.phase = .fetching id rest → ∀ x ∈ id :: rest, x ∈ w.watched

theorem inRounds_fetchNext (w : Worker) (ids : List String) : (w.fetchNext ids).InRounds := by
  cases ids with
  | nil => exact .inl rfl
  | cons id rest => exact .inr ⟨id, rest, rfl⟩

theorem phase_apply (c : Command) : (w.apply c).phase = w.phase := by
  cases c <;> rfl

/-- The worker stays with its rounds. -/
theorem inRounds_step (h : w.InRounds) (input : Input) : (w.step input).1.InRounds := by
  rcases h with hphase | ⟨id, rest, hphase⟩
  · unfold step
    rw [hphase]
    cases input with
    | command c => exact .inl ((phase_apply c).trans hphase)
    | roundDue => exact inRounds_fetchNext ..
    | _ => exact .inl hphase
  · unfold step
    rw [hphase]
    cases input with
    | health result => exact inRounds_fetchNext ..
    | _ => exact .inr ⟨id, rest, hphase⟩

/-- In the rounds, only a check of the pipeline that succeeds reports a status. -/
theorem lastStatus_step_of_inRounds (h : w.InRounds) {input : Input}
    (hcheck : ∀ rest st, w.phase = .fetching id rest → input ≠ .health (.ok st)) :
    lastStatus id (w.step input).2 = none := by
  rcases h with hphase | ⟨i, rest, hphase⟩
  · unfold step
    rw [hphase]
    cases input <;> rfl
  · unfold step
    rw [hphase]
    cases input with
    | health result =>
      cases result with
      | error error => exact (checked_error w id i error).1
      | ok st =>
        have hne : i ≠ id := fun heq => hcheck rest st (heq ▸ hphase) rfl
        simp only [checked, observe]
        split
        · rfl
        · simp [lastStatus, hne]
    | _ => rfl

/-- An answer is sent unless it is what was sent last. -/
theorem step_answer {rest : List String} {st : Status} (hphase : w.phase = .fetching id rest)
    (hmem : id ∈ w.watched) :
    (w.step (.health (.ok st))).2 =
      if w.lastSeen.get? id = some st then [] else [.status id st] := by
  unfold step
  rw [hphase]
  simp only [checked, observe, hmem, not_true, false_or]
  split <;> rfl

theorem checksWatched_of_phase (h : ∀ id rest, w.phase ≠ .fetching id rest) : w.ChecksWatched :=
  fun id rest hphase => absurd hphase (h id rest)

theorem checksWatched_fetchNext {ids : List String} (h : ∀ x ∈ ids, x ∈ w.watched) :
    (w.fetchNext ids).ChecksWatched := by
  cases ids with
  | nil => exact checksWatched_of_phase fun id rest hphase => Phase.noConfusion hphase
  | cons id rest =>
    intro i others hphase
    obtain ⟨rfl, rfl⟩ := Phase.fetching.inj hphase
    exact h

theorem phase_observeAll (changes : List StatusChange) :
    (w.observeAll changes).1.phase = w.phase := by
  induction changes generalizing w with
  | nil => rfl
  | cons c rest ih => simp only [observeAll, ih, phase_observe]

theorem phase_attempt_ne (w : Worker) (rest : List String) :
    w.attempt.phase ≠ .fetching id rest := by
  unfold attempt
  split <;> exact Phase.noConfusion

theorem phase_attemptFailed_ne (w : Worker) (rest : List String) :
    w.attemptFailed.phase ≠ .fetching id rest := by
  simp only [attemptFailed, turnToPolling]
  split
  · split <;> exact Phase.noConfusion
  · exact Phase.noConfusion

/-- Only watched pipelines are checked, as no command is taken during a round. -/
theorem checksWatched_step (h : w.ChecksWatched) (input : Input) :
    (w.step input).1.ChecksWatched := by
  unfold step
  -- The cases are those of `step`, in their order; only a round and an answer start a check.
  split
  case h_1 => exact checksWatched_of_phase fun _ rest => phase_attempt_ne _ rest
  case h_2 => exact checksWatched_of_phase fun _ _ hphase => Phase.noConfusion hphase
  case h_3 => exact checksWatched_of_phase fun _ rest => phase_attemptFailed_ne _ rest
  case h_4 c hphase =>
    dsimp only
    split
    · exact checksWatched_of_phase fun _ rest => phase_attempt_ne _ rest
    · refine checksWatched_of_phase fun _ _ => ?_
      rw [phase_apply, hphase]
      exact Phase.noConfusion
  case h_5 =>
    refine checksWatched_of_phase fun _ _ => ?_
    rw [phase_observeAll]
    exact Phase.noConfusion
  case h_6 => exact checksWatched_of_phase fun _ rest => phase_attemptFailed_ne _ rest
  case h_7 => exact checksWatched_of_phase fun _ _ hphase => Phase.noConfusion hphase
  case h_8 => exact checksWatched_of_phase fun _ rest => phase_attemptFailed_ne _ rest
  case h_9 c hphase =>
    refine checksWatched_of_phase fun _ _ => ?_
    rw [phase_apply, hphase]
    exact Phase.noConfusion
  case h_10 => exact checksWatched_of_phase fun _ rest => phase_attempt_ne _ rest
  case h_11 c hphase =>
    refine checksWatched_of_phase fun _ _ => ?_
    rw [phase_apply]
    exact hphase ▸ Phase.noConfusion
  case h_12 => exact checksWatched_fetchNext fun x hx => (List.mem_filter.1 hx).1
  case h_13 id rest result hphase =>
    dsimp only
    refine checksWatched_fetchNext fun x hx => ?_
    rw [watched_checked]
    exact h id rest hphase x (.tail _ hx)
  case h_14 => exact h

theorem checksWatched_start (config : TransportConfig) (ids : List String) :
    (start config ids).ChecksWatched :=
  checksWatched_of_phase fun _ rest => phase_attempt_ne _ rest

end Rounds

end Worker

end PipelineConsole
