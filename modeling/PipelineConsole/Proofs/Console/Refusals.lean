import PipelineConsole.Console.Routes
import PipelineConsole.Orchestrator.Routes
import PipelineConsole.Proofs.Orchestrator.Run

/-!
# Refused requests

A request may be refused at many places: its path or method may be unknown, its parameters or its
body unreadable, its caller unknown, the operation impossible. The orchestrator's interface and the
console's over the in-memory orchestrator have one thing in common: a request whose answer does not
tell of success has changed nothing.

Operations that are refused leave the state as it was; this is shown handler by handler. What is
left to be shown is that no answer turns into a refusal after the operation has been performed. The
answers that show a changed pipeline are the ones where this could happen, as the pipeline is looked
up a second time.

## Main definitions

* `Http.Response.isSuccess`, `Console.Answer.isSuccess` — answers that tell of success

## Main results

* `Orchestrator.isSuccess_respond`, `Console.isSuccess_answerOperation` — performed operations are
  answered with success
* `Console.refusal_changes_nothing` — a refused request changes nothing
-/

namespace PipelineConsole

open Http (Request Response Route)

/-! ### Answers that tell of success -/

/-- Whether the status tells of success. -/
def Http.Response.isSuccess (r : Response) : Bool := 200 ≤ r.status && r.status < 300

/-- Whether the answer tells of success. A stream does. -/
def Console.Answer.isSuccess : Answer → Bool
  | response r => r.isSuccess
  | stream _ => true

/-- The answer to `HEAD` tells of success if the answer to `GET` does. -/
@[simp] theorem Console.Answer.isSuccess_headOnly (a : Answer) :
    a.headOnly.isSuccess = a.isSuccess := by
  cases a <;> rfl

/-- The response that tells a reply tells of success, whatever the reply. -/
theorem Operation.isSuccess_response (op : Operation) (reply : op.Reply) :
    (op.response reply).isSuccess = true := by
  cases op <;> rfl

namespace Orchestrator

variable {s s' : Orchestrator} {rules : Rules} {o : Occasion} {id : String} {op : Operation}

/-! ### Performed operations are answered with success -/

/-- The pipeline that a performed operation shows is there. -/
theorem get?_of_shown {reply : op.Reply} (h : perform rules o op s = (.ok reply, s'))
    (hshown : op.shown? = some id) : ∃ p, s'.pipelines.get? id = some p := by
  -- Renaming and editing are the only operations that show a pipeline afterwards.
  cases op with
  | rename other name =>
    obtain rfl := Option.some.inj hshown
    obtain ⟨p, -, rfl⟩ := rename_eq_ok h
    exact ⟨_, by rw [pipelines_put, Table.get?_insert, if_pos rfl]⟩
  | edit other config =>
    obtain rfl := Option.some.inj hshown
    obtain ⟨p, -, -, rfl⟩ := edit_eq_ok h
    exact ⟨_, by rw [pipelines_put, Table.get?_insert, if_pos rfl]⟩
  | _ => cases hshown

/-- So is a new pipeline. -/
theorem get?_of_create {config : PipelineConfig}
    (h : perform rules o (.create config) s = (.ok id, s')) :
    ∃ p, s'.pipelines.get? id = some p := by
  obtain ⟨-, -, hpipelines, -⟩ := create_eq_ok h
  exact ⟨_, by rw [hpipelines, Table.get?_insert, if_pos rfl]⟩

/-- A pipeline that is there is shown with the given status. -/
theorem status_shown {p : Pipeline} (h : s.pipelines.get? id = some p) (status : UInt16) :
    (s.shown status id).status = status := by
  rw [shown, get_eq_ok.2 h]
  rfl

/-- The orchestrator answers a performed operation with success. -/
theorem isSuccess_respond {reply : op.Reply} (h : perform rules o op s = (.ok reply, s')) :
    (s'.respond op reply).isSuccess = true := by
  cases op with
  | create config =>
    obtain ⟨p, hp⟩ := get?_of_create h
    rw [respond, Response.isSuccess, status_shown hp]
    rfl
  | rename | edit =>
    obtain ⟨p, hp⟩ := get?_of_shown h rfl
    rw [respond, Response.isSuccess, status_shown hp]
    rfl
  | consume => cases reply <;> rfl
  | _ => exact Operation.isSuccess_response _ reply

/-- A refused operation has not been performed. -/
theorem answer_of_refused (h : (s.answer rules o op).1.isSuccess = false) :
    (s.answer rules o op).2 = s := by
  rcases perform_cases rules o op s with ⟨reply, s', hperform⟩ | ⟨f, hperform⟩
  · rw [answer, hperform] at h
    exact absurd (isSuccess_respond hperform) (ne_true_of_eq_false h)
  · rw [answer, hperform]

/-- A request that the orchestrator refuses changes nothing. -/
theorem handle_of_refused {r : Request} (h : (s.handle rules o r).1.isSuccess = false) :
    (s.handle rules o r).2 = s := by
  unfold handle at h ⊢
  cases hdispatch : Route.dispatch routes r.method r.path with
  | unknownPath | unknownMethod known => rfl
  | endpoint kind parameters =>
    cases hread : kind.read r parameters (.ok ()) with
    | error response => simp only [hread]
    | ok op =>
      simp only [hdispatch, hread] at h ⊢
      refine answer_of_refused ?_
      split at h <;> exact h

end Orchestrator

/-! ### The same for a console over the orchestrator -/

namespace Backend

variable {rules : Orchestrator.Rules} {token : Option String} {o : Occasion} {op : Operation}
  {s s' : Orchestrator}

theorem inMemory_of_ok {reply : op.Reply}
    (h : Orchestrator.perform rules o op s = (.ok reply, s')) :
    (inMemory rules).perform token o op s = (.ok reply, s') := by
  simp only [inMemory, h]
  rfl

theorem inMemory_of_error {f : Orchestrator.Fault}
    (h : Orchestrator.perform rules o op s = (.error f, s')) :
    (inMemory rules).perform token o op s = (.error f.toErrorBody, s') := by
  simp only [inMemory, h]
  rfl

end Backend

namespace Console

open Orchestrator (Rules)

variable {settings : Settings} {rules : Rules} {s s' : Orchestrator} {o : Occasion}
  {token : Option String} {op : Operation}

/-- A performed operation is answered with success by the console, too. -/
theorem isSuccess_answerOperation {reply : op.Reply}
    (h : Orchestrator.perform rules o op s = (.ok reply, s')) :
    ((inMemory settings rules).answerOperation token o op s).1.isSuccess = true := by
  simp only [answerOperation, inMemory, Backend.inMemory_of_ok h]
  cases hshown : op.shown? with
  | none => exact Operation.isSuccess_response op reply
  | some id =>
    obtain ⟨p, hp⟩ := Orchestrator.get?_of_shown h hshown
    have hget : Orchestrator.perform rules o (.get id) s' = (.ok p, s') :=
      Prod.ext (Orchestrator.get_eq_ok.2 hp) rfl
    simp only [Backend.inMemory_of_ok hget]
    exact Operation.isSuccess_response (.get id) p

/-- A refused operation has not been performed. -/
theorem answerOperation_of_refused
    (h : ((inMemory settings rules).answerOperation token o op s).1.isSuccess = false) :
    ((inMemory settings rules).answerOperation token o op s).2 = s := by
  rcases Orchestrator.perform_cases rules o op s with ⟨reply, s', hperform⟩ | ⟨f, hperform⟩
  · exact absurd (isSuccess_answerOperation hperform) (ne_true_of_eq_false h)
  · simp only [answerOperation, inMemory, Backend.inMemory_of_error hperform]

/-- A call that the console refuses changes nothing. Probes do not touch the orchestrator. -/
theorem answer_of_refused {call : Call}
    (h : ((inMemory settings rules).answer token o call s).1.isSuccess = false) :
    ((inMemory settings rules).answer token o call s).2 = s := by
  cases call with
  | operation op => exact answerOperation_of_refused h
  | _ => rfl

/-- A request that is refused, by the orchestrator or by the console over it, changes nothing. -/
theorem refusal_changes_nothing (settings : Settings) (rules : Rules) (o : Occasion)
    (s : Orchestrator) (r : Request) :
    ((s.handle rules o r).1.isSuccess = false → (s.handle rules o r).2 = s) ∧
      (((inMemory settings rules).handle o r s).1.isSuccess = false →
        ((inMemory settings rules).handle o r s).2 = s) := by
  refine ⟨Orchestrator.handle_of_refused, fun h => ?_⟩
  unfold handle at h ⊢
  cases hdispatch : Route.dispatch routes r.method r.path with
  | unknownPath | unknownMethod known => rfl
  | endpoint e parameters =>
    cases hread : read (inMemory settings rules).settings e r parameters with
    | error response => simp only [hread]
    | ok call =>
      simp only [hdispatch, hread] at h ⊢
      refine answer_of_refused ?_
      split at h
      · rwa [Answer.isSuccess_headOnly] at h
      · exact h

/-- An orchestrator with one pipeline, which runs. -/
def oneRunning : Orchestrator where
  pipelines :=
    ({} : Table Pipeline).insert "orders"
      (.ofConfig { id := "orders", name := "Orders", source := .null, sink := .null } .running
        ⟨⟨2025, 2, 10, by decide⟩, 28800, 0, by decide⟩)

/-- A pipeline that runs is not deleted, and neither is a notification that is not there, although
the notifications have been gone through by then. -/
theorem deletions_refused :
    let o : Occasion := ⟨0, ⟨⟨2025, 2, 11, by decide⟩, 28800, 0, by decide⟩, "fresh", []⟩
    let pipeline (base : String) : Request :=
      { method := .delete, path := base ++ "/pipeline/orders" }
    let notification (base : String) : Request :=
      { method := .delete, path := base ++ "/notifications/ghost" }
    (oneRunning.handle {} o (pipeline "/api/v1")).1.status = 400 ∧
      (oneRunning.handle {} o (pipeline "/api/v1")).2 = oneRunning ∧
      ((inMemory {} {}).handle o (pipeline "/api") oneRunning).2 = oneRunning ∧
      (oneRunning.handle {} o (notification "")).1.status = 404 ∧
      (oneRunning.handle {} o (notification "")).2 = oneRunning ∧
      ((inMemory {} {}).handle o (notification "/api") oneRunning).2 = oneRunning := by
  intro o pipeline notification
  have hrefused (r : Request) := refusal_changes_nothing {} {} o oneRunning r
  refine ⟨by decide +kernel, ?_, ?_, by decide +kernel, ?_, ?_⟩
  · exact (hrefused (pipeline "/api/v1")).1 (by decide +kernel)
  · exact (hrefused (pipeline "/api")).2 (by decide +kernel)
  · exact (hrefused (notification "")).1 (by decide +kernel)
  · exact (hrefused (notification "/api")).2 (by decide +kernel)

end Console

end PipelineConsole
