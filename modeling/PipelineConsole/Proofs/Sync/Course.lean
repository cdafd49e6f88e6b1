import PipelineConsole.Proofs.Sync.Agreement
import PipelineConsole.Scenario.Tracking

/-!
# The course of a worker

What an input means depends on the phase in which the worker takes it, and an input that the worker
does not wait for is ignored. The incidents of a run are the inputs that it takes, each with its
meaning. They say nothing about the state of the worker; what the worker should have done by some
time can be told from them alone, by looking back.

## Main definitions

* `Worker.Incident`, `Worker.incident?` — what can happen, and what an input is for the worker
* `Worker.Reacts` — what the worker does when something happens
* `Worker.course` — the incidents of a run
* `Worker.call?`, `Worker.calls` — the calls that the worker makes to its source

## Main results

* `reacts`, `step_of_ignored` — a step is a reaction, or the input is ignored
* `run_induction` — what every reaction preserves holds after every run
-/

namespace PipelineConsole.Worker

/-- What can happen to a worker. -/
inductive Incident where
  /-- A command is carried out. -/
  | told (c : Command)
  /-- The stream that was asked for is open. -/
  | opened
  /-- The stream that was asked for is refused. -/
  | refused
  | event (e : StatusEvent)
  /-- The stream fails. -/
  | broken
  /-- The stream is over. -/
  | ended
  /-- The pause between two attempts is over. -/
  | rested
  /-- A round of checks begins. -/
  | round
  /-- A check is answered. -/
  | checked (id : String) (result : CheckResult)

/-- What an input is for a worker in a phase, if the worker takes it. -/
def Phase.incident? : Phase → Input → Option Incident
  | .idle, .command c | .reading _, .command c | .pausing, .command c | .polling, .command c =>
    some (.told c)
  | .opening _, .opened => some .opened
  | .opening _, .refused => some .refused
  | .reading _, .event e => some (.event e)
  | .reading _, .streamFault => some .broken
  | .reading _, .streamEnd => some .ended
  | .pausing, .pauseOver => some .rested
  | .polling, .roundDue => some .round
  | .fetching id _, .health result => some (.checked id result)
  | _, _ => none

/-- What an input is for a worker, if the worker takes it. -/
def incident? (w : Worker) (input : Input) : Option Incident := w.phase.incident? input

/-- The worker that has just read an event, before it looks at the changes. -/
def hears (w : Worker) (delivered : Bool) : Worker :=
  { w with phase := .reading true, streamFailures := if delivered then w.streamFailures else 0 }

/-- What the worker does when something happens to it: the worker afterwards, and its updates. -/
inductive Reacts (w : Worker) : Incident → Worker → List Update → Prop where
  | toldIdle (h : w.phase = .idle) (c : Command) : Reacts w (.told c) (w.apply c).attempt []
  | opened {ids : List String} (h : w.phase = .opening ids) :
      Reacts w .opened { w with phase := .reading false } []
  | refused {ids : List String} (h : w.phase = .opening ids) : Reacts w .refused w.attemptFailed []
  /-- A change of what is watched cuts the attempt short. -/
  | toldAnew {delivered : Bool} (h : w.phase = .reading delivered) (c : Command)
      (hchanges : w.changesWatched c = true) : Reacts w (.told c) (w.apply c).attempt []
  | toldReading {delivered : Bool} (h : w.phase = .reading delivered) (c : Command)
      (hchanges : ¬ w.changesWatched c = true) : Reacts w (.told c) (w.apply c) []
  | event {delivered : Bool} (h : w.phase = .reading delivered) (e : StatusEvent) :
      Reacts w (.event e) ((w.hears delivered).observeAll e.changes).1
        ((w.hears delivered).observeAll e.changes).2
  | broken {delivered : Bool} (h : w.phase = .reading delivered) :
      Reacts w .broken w.attemptFailed []
  | ended (h : w.phase = .reading true) : Reacts w .ended { w with phase := .pausing } []
  | endedEmpty (h : w.phase = .reading false) : Reacts w .ended w.attemptFailed []
  | toldPausing (h : w.phase = .pausing) (c : Command) : Reacts w (.told c) (w.apply c) []
  | rested (h : w.phase = .pausing) : Reacts w .rested w.attempt []
  | toldPolling (h : w.phase = .polling) (c : Command) :
      Reacts w (.told c) ((w.refresh c.id).apply c) []
  | round (h : w.phase = .polling) :
      Reacts w .round (w.fetchNext (w.watched.filter (· ∉ w.exhausted))) []
  | checked {id : String} {rest : List String} (h : w.phase = .fetching id rest)
      (result : CheckResult) :
      Reacts w (.checked id result) ((w.checked id result).1.fetchNext rest)
        (w.checked id result).2

section Step

variable {w : Worker} {input : Input} {i : Incident}

/-- A worker that takes an input does what it does when that happens. -/
theorem reacts (h : w.incident? input = some i) :
    w.Reacts i (w.step input).1 (w.step input).2 := by
  unfold incident? at h
  unfold step
  cases hphase : w.phase with
  | idle =>
    rw [hphase] at h
    cases input with
    | command c => cases h; exact .toldIdle hphase c
    | _ => cases h
  | opening ids =>
    rw [hphase] at h
    cases input with
    | opened => cases h; exact .opened hphase
    | refused => cases h; exact .refused hphase
    | _ => cases h
  | reading delivered =>
    rw [hphase] at h
    cases input with
    | command c =>
      cases h
      dsimp only
      split
      · next hchanges => exact .toldAnew hphase c hchanges
      · next hchanges => exact .toldReading hphase c hchanges
    | event e => cases h; exact .event hphase e
    | streamFault => cases h; exact .broken hphase
    | streamEnd =>
      cases h
      cases delivered with
      | true => exact .ended hphase
      | false => exact .endedEmpty hphase
    | _ => cases h
  | pausing =>
    rw [hphase] at h
    cases input with
    | command c => cases h; exact .toldPausing hphase c
    | pauseOver => cases h; exact .rested hphase
    | _ => cases h
  | polling =>
    rw [hphase] at h
    cases input with
    | command c => cases h; exact .toldPolling hphase c
    | roundDue => cases h; exact .round hphase
    | _ => cases h
  | fetching id rest =>
    rw [hphase] at h
    cases input with
    | health result => cases h; exact .checked hphase result
    | _ => cases h
  | stopped =>
    rw [hphase] at h
    cases h

/-- An input that the worker does not take changes nothing. -/
theorem step_of_ignored (h : w.incident? input = none) : w.step input = (w, []) := by
  unfold incident? at h
  unfold step
  cases hphase : w.phase with
  | stopped => rfl
  | _ =>
    rw [hphase] at h
    cases input <;> first | rfl | cases h

end Step

/-- Whether a worker in a phase follows the stream, or is between two attempts to. -/
def Phase.streams : Phase → Bool
  | .idle | .opening _ | .reading _ | .pausing => true
  | .polling | .fetching .. | .stopped => false

/-! ### What the parts of a step change -/

section Parts

variable (w : Worker) (id : String) (status : Status)

theorem observe_eq : ∃ seen, (w.observe id status).1 = { w with lastSeen := seen } := by
  unfold observe
  split
  · exact ⟨w.lastSeen, rfl⟩
  · exact ⟨w.lastSeen.insert id status, rfl⟩

/-- Reports change nothing but what has been reported. -/
theorem observeAll_eq (changes : List StatusChange) :
    ∃ seen, (w.observeAll changes).1 = { w with lastSeen := seen } := by
  induction changes generalizing w with
  | nil => exact ⟨w.lastSeen, rfl⟩
  | cons c rest ih =>
    obtain ⟨now, hnow⟩ := w.observe_eq c.id c.status
    obtain ⟨later, hlater⟩ := ih (w.observe c.id c.status).1
    rw [observeAll_cons, hlater, hnow]
    exact ⟨later, rfl⟩

theorem apply_eq (c : Command) :
    ∃ ids seen, w.apply c = { w with watched := ids, lastSeen := seen } := by
  cases c with
  | watch id => exact ⟨_, w.lastSeen, rfl⟩
  | unwatch id => exact ⟨_, _, rfl⟩

theorem attemptFailed_of_le (h : w.config.maxStreamFailures ≤ w.streamFailures + 1) :
    w.attemptFailed = { w with streamFailures := w.streamFailures + 1 }.turnToPolling :=
  if_pos h

theorem attemptFailed_of_lt (h : w.streamFailures + 1 < w.config.maxStreamFailures) :
    w.attemptFailed = { w with streamFailures := w.streamFailures + 1, phase := .pausing } :=
  if_neg (Nat.not_le.2 h)

theorem streams_attempt : w.attempt.phase.streams = true := by
  unfold attempt
  split <;> rfl

theorem fetchNext_eq (ids : List String) :
    ∃ phase, w.fetchNext ids = { w with phase } ∧ phase.streams = false := by
  cases ids with
  | nil => exact ⟨_, rfl, rfl⟩
  | cons id rest => exact ⟨_, rfl, rfl⟩

theorem checked_eq (result : CheckResult) : ∃ seen counts spent, (w.checked id result).1 =
    { w with lastSeen := seen, pollFailures := counts, exhausted := spent } := by
  cases result with
  | ok status =>
    obtain ⟨seen, heq⟩ :=
      ({ w with pollFailures := w.pollFailures.erase id } : Worker).observe_eq id status
    exact ⟨seen, _, _, heq⟩
  | error error =>
    simp only [checked]
    split
    · exact ⟨_, _, _, rfl⟩
    · exact ⟨_, _, _, rfl⟩

end Parts

/-! ### Runs -/

/-- What happens in a run, in its order. -/
def course : Worker → List Input → List Incident
  | _, [] => []
  | w, input :: inputs => (w.incident? input).toList ++ course (w.step input).1 inputs

/-- The call to the source whose answer the worker waits for in a phase. -/
def Phase.call? : Phase → Option Tracking.Call
  | .opening ids => some (.openStream ids)
  | .fetching id _ => some (.check id)
  | _ => none

/-- The call that the worker makes on an input, if it takes the input and comes to wait for an
answer. -/
def call? (w : Worker) (input : Input) : Option Tracking.Call :=
  (w.incident? input).bind fun _ => (w.step input).1.phase.call?

/-- The calls that the worker makes in a run, in their order. -/
def calls : Worker → List Input → List Tracking.Call
  | _, [] => []
  | w, input :: inputs => (w.call? input).toList ++ calls (w.step input).1 inputs

section Run

variable {w : Worker} {input : Input} {inputs more : List Input}

theorem calls_append :
    w.calls (inputs ++ more) = w.calls inputs ++ (w.run inputs).1.calls more := by
  induction inputs generalizing w with
  | nil => rfl
  | cons input inputs ih => rw [List.cons_append, calls, calls, ih, List.append_assoc]; rfl

theorem eq_command_of_told {c : Command} (h : w.incident? input = some (.told c)) :
    input = .command c := by
  unfold incident? at h
  cases hphase : w.phase <;> cases input <;> simp_all [Phase.incident?]

/-- What the worker is told in a run is among the inputs. -/
theorem command_mem_of_told {c : Command} (h : .told c ∈ w.course inputs) :
    .command c ∈ inputs := by
  induction inputs generalizing w with
  | nil => cases h
  | cons input inputs ih =>
    rcases List.mem_append.1 h with hnow | hlater
    · rw [eq_command_of_told (Option.mem_toList.1 hnow)]
      exact .head _
    · exact .tail _ (ih hlater)

theorem call?_of_taken {i : Incident} (h : w.incident? input = some i) :
    w.call? input = (w.step input).1.phase.call? := by
  rw [call?, h]
  rfl

theorem call?_of_ignored (h : w.incident? input = none) : w.call? input = none := by
  rw [call?, h]
  rfl

/-- What holds of a worker and of what has happened to it, last first, holds after a run if every
reaction preserves it. -/
theorem run_induction {P : List Incident → Worker → Prop} {past : List Incident} (h : P past w)
    (hreacts : ∀ {past w i w' updates}, P past w → Reacts w i w' updates → P (i :: past) w')
    (inputs : List Input) : P ((w.course inputs).reverse ++ past) (w.run inputs).1 := by
  induction inputs generalizing w past with
  | nil => exact h
  | cons input inputs ih =>
    rw [course, run_cons]
    cases hinput : w.incident? input with
    | none =>
      rw [step_of_ignored hinput]
      exact ih h
    | some i =>
      have hnext := ih (hreacts h (reacts hinput))
      simpa using hnext

end Run

end PipelineConsole.Worker
