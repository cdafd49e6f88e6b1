import PipelineConsole.Proofs.StatusStream.Rounds
import PipelineConsole.Proofs.Sync.Agreement

/-!
# Reports of the rounds of checks

A worker that polls reports the statuses that its checks find. A check that fails is counted; as
long as the count of no pipeline reaches the bound, nothing else comes of it.

## Main definitions

* `Worker.failures` — how many checks of a pipeline have failed in a row
* `Worker.InBudget` — no pipeline fails so often in a row that it is given up
* `Worker.Polls` — what polling keeps in the budget

## Main results

* `checked_spared` — what a check does in the budget
* `run_checks`, `polls_round`, `run_rounds` — what the checks of a round do, a round, and many
-/

namespace PipelineConsole.Worker

open Feed (successes)
open TickingFeed (results)

variable {w v : Worker} {config : TransportConfig} {answers : String → CheckResult}
  {done rest : List (String → CheckResult)}

/-- How many checks of a pipeline have failed in a row. -/
def failures (w : Worker) (id : String) : Nat := (w.pollFailures.get? id).getD 0

/-- The count after one more check. -/
def countAfter (n : Nat) : CheckResult → Nat
  | .ok _ => 0
  | .error _ => n + 1

/-- What polling keeps: it waits for a round, has given no pipeline up, and counts for each pipeline
the last rounds in which its checks have failed. -/
structure Polls (config : TransportConfig) (done : List (String → CheckResult)) (w : Worker) :
    Prop where
  phase : w.phase = .polling
  config : w.config = config
  exhausted : w.exhausted = []
  streak : ∀ id ∈ w.watched, ∃ block, block <:+ done ∧
    (∀ answers ∈ block, ∃ error, answers id = .error error) ∧ w.failures id = block.length

/-- In no series of rounds do the checks of a watched pipeline fail so often in a row that it would
be given up. -/
def InBudget (config : TransportConfig) (watched : List String)
    (rounds : List (String → CheckResult)) : Prop :=
  ∀ id ∈ watched, ∀ block, block <:+: rounds →
    (∀ answers ∈ block, ∃ error, answers id = .error error) →
      block.length < max 1 config.maxPollFailures

/-- What the checks of a round leave alone, and what they count. -/
structure RoundOver (answers : String → CheckResult) (ids : List String) (w w' : Worker) :
    Prop where
  phase : w'.phase = .polling
  config : w'.config = w.config
  exhausted : w'.exhausted = w.exhausted
  failures : ∀ id, w'.failures id =
    if id ∈ ids then countAfter (w.failures id) (answers id) else w.failures id

/-- A check that succeeds reports the status and forgets the failures. -/
theorem checked_ok (w : Worker) (id : String) (status : Status) :
    w.checked id (.ok status) =
      { w with pollFailures := w.pollFailures.erase id }.observe id status := rfl

/-- A check that fails is counted; as long as the count is low it has no other effect. -/
theorem checked_error_of_lt {id : String} (h : w.failures id + 1 < w.config.maxPollFailures)
    (error : ErrorBody) : w.checked id (.error error) =
      ({ w with pollFailures := w.pollFailures.insert id (w.failures id + 1) }, []) :=
  if_neg (Nat.not_le.2 h)

/-- The parts of a worker that a report leaves alone. -/
theorem observe_frame (w : Worker) (id : String) (status : Status) :
    (w.observe id status).1.config = w.config ∧
      (w.observe id status).1.exhausted = w.exhausted ∧
      (w.observe id status).1.pollFailures = w.pollFailures := by
  unfold observe
  split
  · exact ⟨rfl, rfl, rfl⟩
  · exact ⟨rfl, rfl, rfl⟩

/-- What a check of a pipeline that is not given up does. -/
theorem checked_spared (h : Agree w v) {id : String} {result : CheckResult}
    (hspare : ∀ error, result = .error error → w.failures id + 1 < w.config.maxPollFailures) :
    (Agree (w.checked id result).1 (v.observeAll (successes [(id, result)])).1 ∧
      (w.checked id result).2 = (v.observeAll (successes [(id, result)])).2) ∧
      (w.checked id result).1.config = w.config ∧
      (w.checked id result).1.exhausted = w.exhausted ∧
      ∀ i, (w.checked id result).1.failures i =
        if i = id then countAfter (w.failures id) result else w.failures i := by
  cases result with
  | ok status =>
    have hsame : Agree { w with pollFailures := w.pollFailures.erase id } v :=
      ⟨h.watched, h.lastSeen⟩
    obtain ⟨hconfig, hexhausted, hfailures⟩ :=
      observe_frame { w with pollFailures := w.pollFailures.erase id } id status
    rw [checked_ok, Feed.successes_ok, Feed.successes_nil, observeAll_singleton]
    refine ⟨hsame.observe id status, hconfig, hexhausted, fun i => ?_⟩
    unfold failures
    rw [hfailures, Table.get?_erase]
    split
    · rfl
    · rfl
  | error error =>
    rw [checked_error_of_lt (hspare error rfl), Feed.successes_error, Feed.successes_nil]
    refine ⟨⟨⟨h.watched, h.lastSeen⟩, rfl⟩, rfl, rfl, fun i => ?_⟩
    unfold failures
    dsimp only
    rw [Table.get?_insert]
    split
    · rfl
    · rfl

/-- The answers to the checks of a round, one after another. -/
def healthInputs (ids : List String) (answers : String → CheckResult) : List Input :=
  ids.map fun id => .health (answers id)

theorem step_health {id : String} {ids : List String} (hphase : w.phase = .fetching id ids)
    (result : CheckResult) :
    w.step (.health result) = ((w.checked id result).1.fetchNext ids, (w.checked id result).2) := by
  unfold step
  rw [hphase]

/-- The checks of a round report the statuses that they find. -/
theorem run_checks {ids : List String} (hnodup : ids.Nodup) (h : Agree w v)
    (hspare : ∀ id ∈ ids, ∀ error, answers id = .error error →
      w.failures id + 1 < w.config.maxPollFailures) :
    (Agree ((w.fetchNext ids).run (healthInputs ids answers)).1
        (v.observeAll (successes (results ids answers))).1 ∧
      ((w.fetchNext ids).run (healthInputs ids answers)).2 =
        (v.observeAll (successes (results ids answers))).2) ∧
      RoundOver answers ids w ((w.fetchNext ids).run (healthInputs ids answers)).1 := by
  induction ids generalizing w v with
  | nil => exact ⟨⟨⟨h.watched, h.lastSeen⟩, rfl⟩, rfl, rfl, rfl, fun _ => rfl⟩
  | cons id ids ih =>
    obtain ⟨hnew, hrest⟩ := List.nodup_cons.1 hnodup
    have hsame : Agree (w.fetchNext (id :: ids)) v := ⟨h.watched, h.lastSeen⟩
    obtain ⟨⟨hnext, hnow⟩, hconfig, hexhausted, hfailures⟩ :=
      checked_spared hsame (hspare id List.mem_cons_self)
    have hstep : (w.fetchNext (id :: ids)).step (.health (answers id)) = _ :=
      step_health rfl (answers id)
    have hlater : ∀ i ∈ ids, ∀ error, answers i = .error error →
        ((w.fetchNext (id :: ids)).checked id (answers id)).1.failures i + 1 <
          ((w.fetchNext (id :: ids)).checked id (answers id)).1.config.maxPollFailures := by
      intro i hi error herror
      have hne : i ≠ id := fun heq => hnew (heq ▸ hi)
      rw [hfailures, if_neg hne, hconfig]
      exact hspare i (List.mem_cons_of_mem id hi) error herror
    obtain ⟨⟨hlast, hupdates⟩, hover⟩ := ih hrest hnext hlater
    have hfound : successes (results (id :: ids) answers) =
        successes [(id, answers id)] ++ successes (results ids answers) :=
      Feed.successes_append [(id, answers id)] (results ids answers)
    have hinputs : healthInputs (id :: ids) answers =
        .health (answers id) :: healthInputs ids answers := rfl
    rw [hinputs, run_cons, hstep, hfound, observeAll_append, hnow, hupdates]
    refine ⟨⟨hlast, rfl⟩, hover.phase, hover.config.trans hconfig,
      hover.exhausted.trans hexhausted, fun i => ?_⟩
    rw [hover.failures, hfailures]
    by_cases heq : i = id
    · subst heq
      rw [if_neg hnew, if_pos rfl, if_pos List.mem_cons_self]
      rfl
    · have hmem : i ∈ id :: ids ↔ i ∈ ids := by simp [heq]
      simp only [if_neg heq, hmem]
      rfl

/-- The inputs of a round of checks. -/
def roundInputs (ids : List String) (answers : String → CheckResult) : List Input :=
  .roundDue :: healthInputs ids answers

theorem step_roundDue (h : Polls config done w) :
    w.step .roundDue = (w.fetchNext w.watched, []) := by
  have hall : w.watched.filter (· ∉ w.exhausted) = w.watched := by
    refine List.filter_eq_self.2 fun id _ => ?_
    rw [h.exhausted]
    exact decide_eq_true List.not_mem_nil
  unfold step
  rw [h.phase, hall]

/-- A round that stays in the budget reports the statuses that it finds and gives no pipeline up. -/
theorem polls_round (hnodup : w.watched.Nodup) (hagree : Agree w v) (h : Polls config done w)
    (hbudget : InBudget config w.watched (done ++ answers :: rest)) :
    (Agree (w.run (roundInputs w.watched answers)).1
        (v.observeAll (successes (results w.watched answers))).1 ∧
      (w.run (roundInputs w.watched answers)).2 =
        (v.observeAll (successes (results w.watched answers))).2) ∧
      Polls config (done ++ [answers]) (w.run (roundInputs w.watched answers)).1 := by
  -- The failures up to now and one in this round would be a series of failures.
  have hspare : ∀ id ∈ w.watched, ∀ error, answers id = .error error →
      w.failures id + 1 < w.config.maxPollFailures := by
    intro id hid error herror
    obtain ⟨block, ⟨before, hblock⟩, hfails, hcount⟩ := h.streak id hid
    have hseries : block ++ [answers] <:+: done ++ answers :: rest :=
      ⟨before, rest, by simp [← hblock]⟩
    have hlength := hbudget id hid _ hseries fun answers' hmem => by
      rcases List.mem_append.1 hmem with hmem | hmem
      · exact hfails answers' hmem
      · exact List.mem_singleton.1 hmem ▸ ⟨error, herror⟩
    rw [List.length_append, List.length_singleton] at hlength
    rw [hcount, h.config]
    omega
  obtain ⟨⟨hlast, hupdates⟩, hover⟩ := run_checks hnodup hagree hspare
  have hwatched : ((w.fetchNext w.watched).run (healthInputs w.watched answers)).1.watched =
      w.watched := by
    rw [hlast.watched, watched_observeAll, hagree.watched]
  rw [roundInputs, run_cons, step_roundDue h]
  refine ⟨⟨hlast, (List.nil_append _).trans hupdates⟩, hover.phase, hover.config.trans h.config,
    hover.exhausted.trans h.exhausted, fun id hid => ?_⟩
  have hmem : id ∈ w.watched := hwatched ▸ hid
  obtain ⟨block, ⟨before, hblock⟩, hfails, hcount⟩ := h.streak id hmem
  have hfailures := hover.failures id
  rw [if_pos hmem] at hfailures
  cases hanswer : answers id with
  | ok status =>
    refine ⟨[], List.nil_suffix, fun _ hnil => absurd hnil List.not_mem_nil, ?_⟩
    rw [hfailures, hanswer]
    rfl
  | error error =>
    refine ⟨block ++ [answers], ⟨before, by rw [← List.append_assoc, hblock]⟩,
      fun answers' hmem' => ?_, ?_⟩
    · rcases List.mem_append.1 hmem' with hmem' | hmem'
      · exact hfails answers' hmem'
      · exact List.mem_singleton.1 hmem' ▸ ⟨error, hanswer⟩
    · rw [hfailures, hanswer, List.length_append, ← hcount]
      rfl

/-- Rounds that stay in the budget report the statuses that they find. -/
theorem run_rounds (hnodup : w.watched.Nodup) (hagree : Agree w v) (h : Polls config done w)
    (hbudget : InBudget config w.watched (done ++ rest)) :
    (w.run (rest.flatMap (roundInputs w.watched))).2 =
      (v.observeAll (successes (rest.flatMap (results w.watched)))).2 := by
  induction rest generalizing w v done with
  | nil => rfl
  | cons answers rest ih =>
    obtain ⟨⟨hnext, hnow⟩, hpolls⟩ := polls_round hnodup hagree h hbudget
    have hwatched : (w.run (roundInputs w.watched answers)).1.watched = w.watched := by
      rw [hnext.watched, watched_observeAll, hagree.watched]
    rw [List.append_cons] at hbudget
    have hlater := ih (by rwa [hwatched]) hnext hpolls (by rwa [hwatched])
    rw [hwatched] at hlater
    rw [List.flatMap_cons, List.flatMap_cons, run_append, Feed.successes_append, observeAll_append,
      hnow, hlater]

end PipelineConsole.Worker
