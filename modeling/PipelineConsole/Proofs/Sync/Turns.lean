import PipelineConsole.Proofs.Sync.Course
import PipelineConsole.Proofs.Sync.IdSet
import PipelineConsole.Proofs.Sync.Polling

/-!
# One pipeline among the polled ones

A worker that polls carries out commands and makes rounds of checks in turn. What it does for one
pipeline, and what it knows of it, comes from the commands about that pipeline and from the answers
to its checks; the other pipelines may be told of, may fail and may be given up in whatever way.

## Main definitions

* `Worker.due` — the pipelines that a round checks
* `Worker.Turn`, `Worker.turns` — a command or a round, and the inputs of turns one after another
* `Turn.own` — what a turn holds for one pipeline
* `Worker.Alike` — two workers know the same of one pipeline
* `Worker.alone` — what a worker does on what a turn holds for one pipeline
* `Worker.Same` — a worker does the same on two lists of inputs

## Main results

* `calls_round` — whom a round checks
* `run_alone` — among the others a pipeline fares as it does alone
* `turns_own` — what the worker does for a pipeline, its own part of the turns decides
* `exists_turns` — polling is a series of turns
-/

namespace PipelineConsole.Worker

open Tracking (Call)

/-- The pipelines that a round checks. -/
def due (w : Worker) : List String := w.watched.filter (· ∉ w.exhausted)

/-- What a worker that polls does next: it carries out a command, or it makes a round of checks, to
which there are answers for all pipelines. -/
inductive Turn where
  | command (c : Command)
  | round (answers : String → CheckResult)

/-- What a turn holds for one pipeline: a command about it, or the answer to its check. -/
def Turn.own (id : String) : Turn → Option (Command ⊕ CheckResult)
  | .command c => if c.id = id then some (.inl c) else none
  | .round answers => some (.inr (answers id))

/-- The inputs that make up a turn. -/
def Turn.inputs (w : Worker) : Turn → List Input
  | .command c => [.command c]
  | .round answers => roundInputs w.due answers

/-- The inputs of turns one after another. -/
def turns : Worker → List Turn → List Input
  | _, [] => []
  | w, turn :: rest => turn.inputs w ++ turns (w.run (turn.inputs w)).1 rest

/-- Two workers know the same of one pipeline. -/
structure Alike (id : String) (w v : Worker) : Prop where
  config : w.config = v.config
  watched : id ∈ w.watched ↔ id ∈ v.watched
  lastSeen : w.lastSeen.get? id = v.lastSeen.get? id
  failures : w.failures id = v.failures id
  exhausted : id ∈ w.exhausted ↔ id ∈ v.exhausted

/-- What a worker does, reports and asks for on what a turn holds for one pipeline. -/
def alone (id : String) (w : Worker) :
    Command ⊕ CheckResult → Worker × List Update × List Call
  | .inl c => ((w.refresh c.id).apply c, [], [])
  | .inr result =>
    if id ∈ w.due then ((w.checked id result).1, (w.checked id result).2, [.check id])
    else (w, [], [])

/-- The same for several turns. -/
def runAlone (id : String) : Worker → List (Command ⊕ CheckResult) →
    Worker × List Update × List Call
  | w, [] => (w, [], [])
  | w, own :: rest =>
    let (next, updates, calls) := w.alone id own
    let (last, more, later) := runAlone id next rest
    (last, updates ++ more, calls ++ later)

theorem sorted_apply {w : Worker} (h : w.watched.Pairwise (· < ·)) (c : Command) :
    (w.apply c).watched.Pairwise (· < ·) := by
  cases c with
  | watch id => exact IdSet.pairwise_insert h
  | unwatch id => exact IdSet.pairwise_erase h

theorem failures_refresh {w : Worker} {id i : String} :
    (w.refresh id).failures i = if i = id then 0 else w.failures i := by
  rw [failures, refresh, Table.get?_erase]
  split
  · rfl
  · rfl

theorem mem_exhausted_refresh {w : Worker} {id i : String} :
    i ∈ (w.refresh id).exhausted ↔ i ∈ w.exhausted ∧ i ≠ id := by
  simp [refresh]

theorem mem_due {w : Worker} {id : String} : id ∈ w.due ↔ id ∈ w.watched ∧ id ∉ w.exhausted := by
  simp [due]

/-! ### A check -/

section Check

variable {w : Worker} {id i : String} {result : CheckResult}

theorem failures_checked :
    (w.checked id result).1.failures i =
      if i = id then countAfter (w.failures id) result else w.failures i := by
  cases result with
  | ok status =>
    rw [checked_ok, failures, (observe_frame _ id status).2.2, Table.get?_erase]
    split <;> rfl
  | error error =>
    have hcounts : (w.checked id (.error error)).1.pollFailures =
        w.pollFailures.insert id (w.failures id + 1) := by
      simp only [checked]
      split <;> rfl
    rw [failures, hcounts, Table.get?_insert]
    split <;> rfl

theorem exhausted_checked_ok (status : Status) :
    (w.checked id (.ok status)).1.exhausted = w.exhausted :=
  (observe_frame _ id status).2.1

theorem exhausted_checked_error (error : ErrorBody) :
    (w.checked id (.error error)).1.exhausted =
      if w.config.maxPollFailures ≤ w.failures id + 1 then id :: w.exhausted
      else w.exhausted := by
  simp only [checked]
  rw [failures]
  split <;> rfl

/-- A check that fails is reported just when the budget is used up. -/
theorem updates_checked_error (error : ErrorBody) :
    (w.checked id (.error error)).2 =
      if w.config.maxPollFailures ≤ w.failures id + 1 then [.failed id error] else [] := by
  simp only [checked]
  rw [failures]
  split <;> rfl

/-- The updates on a check are about the pipeline that is checked. -/
theorem id_of_mem_checked {u : Update} (h : u ∈ (w.checked id result).2) : u.id = id := by
  cases result with
  | ok status =>
    rw [checked_ok, observe] at h
    split at h
    · cases h
    · rw [List.mem_singleton.1 h]
      rfl
  | error error =>
    rw [updates_checked_error] at h
    split at h
    · rw [List.mem_singleton.1 h]
      rfl
    · cases h

end Check

/-! ### Workers that know the same of a pipeline -/

section Alike

variable {id : String} {w v u : Worker}

theorem Alike.refl (id : String) (w : Worker) : Alike id w w := ⟨rfl, .rfl, rfl, rfl, .rfl⟩

theorem Alike.symm (h : Alike id w v) : Alike id v w :=
  ⟨h.config.symm, h.watched.symm, h.lastSeen.symm, h.failures.symm, h.exhausted.symm⟩

theorem Alike.trans (h : Alike id w v) (h' : Alike id v u) : Alike id w u :=
  ⟨h.config.trans h'.config, h.watched.trans h'.watched, h.lastSeen.trans h'.lastSeen,
    h.failures.trans h'.failures, h.exhausted.trans h'.exhausted⟩

theorem Alike.due (h : Alike id w v) : id ∈ w.due ↔ id ∈ v.due := by
  rw [mem_due, mem_due, h.watched, h.exhausted]

theorem Alike.updates_checked (h : Alike id w v) (result : CheckResult) :
    (w.checked id result).2 = (v.checked id result).2 := by
  cases result with
  | ok status =>
    rw [checked_ok, checked_ok, observe, observe]
    simp only [h.watched, h.lastSeen]
    split <;> rfl
  | error error => rw [updates_checked_error, updates_checked_error, h.config, h.failures]

/-- A check of the pipeline does the same for both. -/
theorem Alike.checked (h : Alike id w v) (result : CheckResult) :
    Alike id (w.checked id result).1 (v.checked id result).1 := by
  constructor
  case config =>
    obtain ⟨_, _, _, hw⟩ := w.checked_eq id result
    obtain ⟨_, _, _, hv⟩ := v.checked_eq id result
    rw [hw, hv]
    exact h.config
  case watched => rw [watched_checked, watched_checked, h.watched]
  case lastSeen => rw [lastSeen_checked, lastSeen_checked, h.updates_checked, h.lastSeen]
  case failures => rw [failures_checked, failures_checked, h.failures]
  case exhausted =>
    cases result with
    | ok status => rw [exhausted_checked_ok, exhausted_checked_ok, h.exhausted]
    | error error =>
      rw [exhausted_checked_error, exhausted_checked_error, h.config, h.failures]
      split
      · exact iff_of_true (.head _) (.head _)
      · exact h.exhausted

/-- A check of another pipeline makes no difference. -/
theorem alike_checked {other : String} (hne : id ≠ other) (result : CheckResult) :
    Alike id (w.checked other result).1 w := by
  have hnone : Update.lastStatus id (w.checked other result).2 = none :=
    Update.lastStatus_eq_none_iff.2 fun st hmem => hne (id_of_mem_checked hmem)
  constructor
  case config =>
    obtain ⟨_, _, _, heq⟩ := w.checked_eq other result
    rw [heq]
  case watched => rw [watched_checked]
  case lastSeen => rw [lastSeen_checked, hnone, Option.none_or]
  case failures => rw [failures_checked, if_neg hne]
  case exhausted =>
    cases result with
    | ok status => rw [exhausted_checked_ok]
    | error error =>
      rw [exhausted_checked_error]
      split
      · exact List.mem_cons.trans (or_iff_right hne)
      · exact .rfl

/-- A command does the same for both. -/
theorem Alike.told (h : Alike id w v) (c : Command) :
    Alike id ((w.refresh c.id).apply c) ((v.refresh c.id).apply c) := by
  have hfailures : (w.refresh c.id).failures id = (v.refresh c.id).failures id := by
    rw [failures_refresh, failures_refresh, h.failures]
  have hexhausted : id ∈ (w.refresh c.id).exhausted ↔ id ∈ (v.refresh c.id).exhausted := by
    rw [mem_exhausted_refresh, mem_exhausted_refresh, h.exhausted]
  cases c with
  | watch other =>
    refine ⟨h.config, ?_, h.lastSeen, hfailures, hexhausted⟩
    exact IdSet.mem_insert.trans ((or_congr_right h.watched).trans IdSet.mem_insert.symm)
  | unwatch other =>
    refine ⟨h.config, ?_, ?_, hfailures, hexhausted⟩
    · exact IdSet.mem_erase.trans ((and_congr_left' h.watched).trans IdSet.mem_erase.symm)
    · refine (Table.get?_erase ..).trans (Eq.trans ?_ (Table.get?_erase ..).symm)
      rw [refresh, refresh, h.lastSeen]

/-- A command about another pipeline makes no difference. -/
theorem alike_told {c : Command} (hne : c.id ≠ id) : Alike id ((w.refresh c.id).apply c) w := by
  have hfailures : (w.refresh c.id).failures id = w.failures id := by
    rw [failures_refresh, if_neg (Ne.symm hne)]
  have hexhausted : id ∈ (w.refresh c.id).exhausted ↔ id ∈ w.exhausted :=
    mem_exhausted_refresh.trans (and_iff_left (Ne.symm hne))
  cases c with
  | watch other =>
    refine ⟨rfl, ?_, rfl, hfailures, hexhausted⟩
    exact IdSet.mem_insert.trans (or_iff_right (Ne.symm hne))
  | unwatch other =>
    refine ⟨rfl, ?_, ?_, hfailures, hexhausted⟩
    · exact IdSet.mem_erase.trans (and_iff_left (Ne.symm hne))
    · exact (Table.get?_erase ..).trans (if_neg (Ne.symm hne))

theorem alike_fetchNext (ids : List String) : Alike id (w.fetchNext ids) w := by
  obtain ⟨phase, heq, -⟩ := w.fetchNext_eq ids
  rw [heq]
  exact ⟨rfl, .rfl, rfl, rfl, .rfl⟩

end Alike

/-! ### A round -/

section Round

variable {id : String} {w : Worker} {ids : List String} {answers : String → CheckResult}

theorem incident?_health {rest : List String} (hphase : w.phase = .fetching id rest)
    (result : CheckResult) : w.incident? (.health result) = some (.checked id result) := by
  rw [incident?, hphase]
  rfl

theorem calls_checks (w : Worker) (ids : List String) (answers : String → CheckResult) :
    (w.fetchNext ids).phase.call?.toList ++ (w.fetchNext ids).calls (healthInputs ids answers) =
      ids.map .check := by
  induction ids generalizing w with
  | nil => rfl
  | cons id ids ih =>
    have hinput : (w.fetchNext (id :: ids)).incident? (.health (answers id)) = _ :=
      incident?_health rfl (answers id)
    have hstep : (w.fetchNext (id :: ids)).step (.health (answers id)) = _ :=
      step_health rfl (answers id)
    have hinputs : healthInputs (id :: ids) answers =
        .health (answers id) :: healthInputs ids answers := rfl
    rw [hinputs, calls, call?_of_taken hinput, hstep, ih, List.map_cons]
    rfl

theorem step_round (hphase : w.phase = .polling) :
    w.step .roundDue = (w.fetchNext w.due, []) := by
  unfold step
  rw [hphase]
  rfl

/-- A round checks the pipelines that are due, in order. -/
theorem calls_round (hphase : w.phase = .polling) (answers : String → CheckResult) :
    w.calls (roundInputs w.due answers) = w.due.map .check := by
  have hinput : w.incident? .roundDue = some .round := by rw [incident?, hphase]; rfl
  rw [roundInputs, calls, call?_of_taken hinput, step_round hphase]
  exact calls_checks w w.due answers

/-- The checks of a round leave the worker as the check of the pipeline does, if there is one. -/
theorem run_checks_own (hnodup : ids.Nodup) (w : Worker) (id : String)
    (answers : String → CheckResult) :
    let result := (w.fetchNext ids).run (healthInputs ids answers)
    result.1.phase = .polling ∧ result.1.watched = w.watched ∧
      Alike id result.1 (if id ∈ ids then (w.checked id (answers id)).1 else w) ∧
      result.2.filter (·.id = id) = if id ∈ ids then (w.checked id (answers id)).2 else [] := by
  induction ids generalizing w with
  | nil => exact ⟨rfl, rfl, ⟨rfl, .rfl, rfl, rfl, .rfl⟩, rfl⟩
  | cons x ids ih =>
    obtain ⟨hnew, hrest⟩ := List.nodup_cons.1 hnodup
    have hstep : (w.fetchNext (x :: ids)).step (.health (answers x)) = _ :=
      step_health rfl (answers x)
    have hinputs : healthInputs (x :: ids) answers =
        .health (answers x) :: healthInputs ids answers := rfl
    have hsame : Alike x (w.fetchNext (x :: ids)) w := alike_fetchNext (x :: ids)
    obtain ⟨hphase, hwatched, hown, hupdates⟩ :=
      ih hrest ((w.fetchNext (x :: ids)).checked x (answers x)).1
    rw [hinputs, run_cons, hstep]
    dsimp only
    rw [watched_checked] at hwatched
    rw [List.filter_append, hupdates]
    refine ⟨hphase, hwatched, ?_⟩
    -- Either this check is of the pipeline and all later ones are of others, or it is of another.
    by_cases heq : id = x
    · subst heq
      have hall : ((w.fetchNext (id :: ids)).checked id (answers id)).2.filter (·.id = id) =
          (w.checked id (answers id)).2 := by
        rw [hsame.updates_checked]
        exact List.filter_eq_self.2 fun u hu => decide_eq_true (id_of_mem_checked hu)
      rw [if_neg hnew] at hown ⊢
      rw [if_pos (.head _), if_pos (.head _), hall, List.append_nil]
      exact ⟨hown.trans (hsame.checked (answers id)), rfl⟩
    · have hnone : ((w.fetchNext (x :: ids)).checked x (answers x)).2.filter (·.id = id) = [] :=
        List.filter_eq_nil_iff.2 fun u hu hid =>
          heq ((of_decide_eq_true hid).symm.trans (id_of_mem_checked hu))
      have hother : Alike id ((w.fetchNext (x :: ids)).checked x (answers x)).1 w :=
        (alike_checked heq (answers x)).trans (alike_fetchNext (x :: ids))
      have hmem : id ∈ x :: ids ↔ id ∈ ids := List.mem_cons.trans (or_iff_right heq)
      simp only [hnone, List.nil_append, hmem, hother.updates_checked, and_true]
      split at hown
      · next hid =>
        rw [if_pos hid]
        exact hown.trans (hother.checked (answers id))
      · next hid =>
        rw [if_neg hid]
        exact hown.trans hother

end Round

/-! ### Turns -/

section Turns

variable {id : String} {w v : Worker}

theorem Alike.alone (h : Alike id w v) (own : Command ⊕ CheckResult) :
    Alike id (w.alone id own).1 (v.alone id own).1 ∧ (w.alone id own).2 = (v.alone id own).2 := by
  cases own with
  | inl c => exact ⟨h.told c, rfl⟩
  | inr result =>
    rw [Worker.alone, Worker.alone, h.updates_checked]
    simp only [h.due]
    split
    · exact ⟨h.checked result, rfl⟩
    · exact ⟨h, rfl⟩

/-- A turn does for a pipeline what its own part of the turn does alone. -/
theorem run_turn (hphase : w.phase = .polling) (hsorted : w.watched.Pairwise (· < ·))
    (id : String) (turn : Turn) :
    let next := w.run (turn.inputs w)
    let own := ((turn.own id).map (w.alone id)).getD (w, [], [])
    (next.1.phase = .polling ∧ next.1.watched.Pairwise (· < ·)) ∧ Alike id next.1 own.1 ∧
      next.2.filter (·.id = id) = own.2.1 ∧
      (w.calls (turn.inputs w)).filter (· = .check id) = own.2.2 := by
  cases turn with
  | command c =>
    have hinput : w.incident? (.command c) = some (.told c) := by rw [incident?, hphase]; rfl
    have hstep : w.step (.command c) = ((w.refresh c.id).apply c, []) := by
      unfold step
      rw [hphase]
    have hnext : ((w.refresh c.id).apply c).phase = .polling := (phase_apply c).trans hphase
    have hcalls : w.calls [.command c] = [] := by
      rw [calls, call?_of_taken hinput, hstep, hnext]
      rfl
    have hsorted' : ((w.refresh c.id).apply c).watched.Pairwise (· < ·) :=
      sorted_apply (w := w.refresh c.id) hsorted c
    rw [Turn.inputs, run_cons, hstep, hcalls, Turn.own]
    refine ⟨⟨hnext, hsorted'⟩, ?_⟩
    split
    · exact ⟨.refl .., rfl, rfl⟩
    · next hne => exact ⟨alike_told hne, rfl, rfl⟩
  | round answers =>
    have hdue : w.due.Nodup := (IdSet.nodup_of_pairwise hsorted).filter _
    obtain ⟨hnext, hwatched, hown, hupdates⟩ := run_checks_own hdue w id answers
    have hcalls : (w.due.map Call.check).filter (· = .check id) =
        if id ∈ w.due then [.check id] else [] := by
      have hcheck : ((· = Call.check id) : Call → Bool) ∘ Call.check = (· = id) := by
        funext x
        simp
      rw [List.filter_map, hcheck, List.filter_eq, hdue.count]
      split <;> rfl
    rw [Turn.inputs, calls_round hphase, hcalls, roundInputs, run_cons, step_round hphase,
      Turn.own, Option.map_some, Option.getD_some, Worker.alone]
    refine ⟨⟨hnext, hwatched ▸ hsorted⟩, ?_⟩
    split at hown
    · next hid =>
      rw [if_pos hid] at hupdates ⊢
      exact ⟨hown, hupdates, if_pos hid⟩
    · next hid =>
      rw [if_neg hid] at hupdates ⊢
      exact ⟨hown, hupdates, if_neg hid⟩

/-- Among the others a pipeline fares as it does alone. -/
theorem run_alone (hphase : w.phase = .polling) (hsorted : w.watched.Pairwise (· < ·))
    (h : Alike id w v) (turns : List Turn) :
    let last := w.run (w.turns turns)
    let own := v.runAlone id (turns.filterMap (Turn.own id))
    Alike id last.1 own.1 ∧ last.2.filter (·.id = id) = own.2.1 ∧
      (w.calls (w.turns turns)).filter (· = .check id) = own.2.2 := by
  induction turns generalizing w v with
  | nil => exact ⟨h, rfl, rfl⟩
  | cons turn rest ih =>
    obtain ⟨⟨hnext, hsorted'⟩, hown, hupdates, hcalls⟩ := run_turn hphase hsorted id turn
    rw [Worker.turns, run_append, calls_append]
    dsimp only
    rw [List.filter_append, List.filter_append, List.filterMap_cons, hupdates, hcalls]
    cases hturn : turn.own id with
    | none =>
      rw [hturn] at hown
      exact ih hnext hsorted' (hown.trans h)
    | some own =>
      rw [hturn] at hown
      obtain ⟨hsame, houtputs⟩ := h.alone own
      obtain ⟨hlast, hmore, hlater⟩ := ih hnext hsorted' (hown.trans hsame)
      rw [hmore, hlater, Option.map_some, Option.getD_some, houtputs]
      exact ⟨hlast, rfl, rfl⟩

/-- What the worker knows of a pipeline, reports of it and asks for it depends on nothing but the
commands about it and the answers to its checks. -/
theorem turns_own (hphase : w.phase = .polling) (hsorted : w.watched.Pairwise (· < ·))
    {these those : List Turn}
    (h : these.filterMap (Turn.own id) = those.filterMap (Turn.own id)) :
    Alike id (w.run (w.turns these)).1 (w.run (w.turns those)).1 ∧
      (w.run (w.turns these)).2.filter (·.id = id) =
        (w.run (w.turns those)).2.filter (·.id = id) ∧
      (w.calls (w.turns these)).filter (· = .check id) =
        (w.calls (w.turns those)).filter (· = .check id) := by
  obtain ⟨hthese, hupdates, hcalls⟩ := run_alone hphase hsorted (.refl id w) these
  obtain ⟨hthose, hupdates', hcalls'⟩ := run_alone hphase hsorted (.refl id w) those
  rw [← h] at hthose hupdates' hcalls'
  exact ⟨hthese.trans hthose.symm, hupdates.trans hupdates'.symm, hcalls.trans hcalls'.symm⟩

/-- A worker does the same on two lists of inputs, and makes the same calls. -/
def Same (w : Worker) (these those : List Input) : Prop :=
  w.run these = w.run those ∧ w.calls these = w.calls those

theorem Same.cons {input : Input} {these those : List Input}
    (h : (w.step input).1.Same these those) : w.Same (input :: these) (input :: those) := by
  rw [Same, run_cons, run_cons, calls, calls, h.1, h.2]
  exact ⟨rfl, rfl⟩

theorem Same.cons_ignored {input : Input} {these those : List Input} (h : w.Same these those)
    (hinput : w.incident? input = none) : w.Same (input :: these) those := by
  rw [Same, run_cons, calls, step_of_ignored hinput, call?_of_ignored hinput]
  exact h

theorem fetchNext_nil (h : w.phase = .polling) : w.fetchNext [] = w := by
  rw [fetchNext, ← h]

/-- The answers to the checks that are left in a round, and turns after them. -/
theorem exists_turns_fetchNext {inputs : List Input} {ids : List String} (hnodup : ids.Nodup)
    (hsorted : w.watched.Pairwise (· < ·))
    (hlast : ((w.fetchNext ids).run inputs).1.phase = .polling) :
    ∃ answers turns, (w.fetchNext ids).Same inputs (healthInputs ids answers ++
      ((w.fetchNext ids).run (healthInputs ids answers)).1.turns turns) := by
  induction inputs generalizing w ids with
  | nil =>
    cases ids with
    | nil => exact ⟨fun _ => .ok .created, [], rfl, rfl⟩
    | cons id ids => cases hlast
  | cons input inputs ih =>
    rw [run_cons] at hlast
    cases hinput : (w.fetchNext ids).incident? input with
    | none =>
      rw [step_of_ignored hinput] at hlast
      obtain ⟨answers, turns, hsame⟩ := ih hnodup hsorted hlast
      exact ⟨answers, turns, hsame.cons_ignored hinput⟩
    | some i =>
      cases ids with
      | nil =>
        cases input with
        | command c =>
          have hnext : (((w.fetchNext []).refresh c.id).apply c).fetchNext [] =
              ((w.fetchNext []).step (.command c)).1 := fetchNext_nil (phase_apply c)
          obtain ⟨answers, turns, hsame⟩ := ih List.nodup_nil
            (sorted_apply (w := (w.fetchNext []).refresh c.id) hsorted c) (hnext ▸ hlast)
          exact ⟨answers, .command c :: turns, .cons (hnext ▸ hsame)⟩
        | roundDue =>
          have hdue : (w.fetchNext []).due.Nodup := (IdSet.nodup_of_pairwise hsorted).filter _
          obtain ⟨answers, turns, hsame⟩ := ih (w := w.fetchNext []) hdue hsorted hlast
          exact ⟨answers, .round answers :: turns, .cons hsame⟩
        | _ => cases hinput
      | cons id ids =>
        obtain ⟨hnew, hrest⟩ := List.nodup_cons.1 hnodup
        cases input with
        | health result =>
          obtain ⟨answers, turns, hsame⟩ := ih
            (w := ((w.fetchNext (id :: ids)).checked id result).1) hrest
            (by rw [watched_checked]; exact hsorted) hlast
          -- The pipeline is not checked again in this round, so that its answer can be put in.
          have hinputs : healthInputs (id :: ids) (Function.update answers id result) =
              .health result :: healthInputs ids answers := by
            rw [healthInputs, List.map_cons, Function.update_self]
            refine congrArg _ (List.map_congr_left fun x hx => ?_)
            have hne : x ≠ id := fun heq => hnew (heq ▸ hx)
            rw [Function.update_of_ne hne]
          refine ⟨Function.update answers id result, turns, ?_⟩
          rw [hinputs]
          exact .cons hsame
        | _ => cases hinput

/-- Whatever comes in between two times at which the worker waits for a round amounts to turns. -/
theorem exists_turns (hphase : w.phase = .polling) (hsorted : w.watched.Pairwise (· < ·))
    {inputs : List Input} (hlast : (w.run inputs).1.phase = .polling) :
    ∃ turns, w.Same inputs (w.turns turns) := by
  rw [← fetchNext_nil hphase] at hlast ⊢
  obtain ⟨_, turns, hsame⟩ := exists_turns_fetchNext List.nodup_nil hsorted hlast
  exact ⟨turns, hsame⟩

end Turns

end PipelineConsole.Worker
