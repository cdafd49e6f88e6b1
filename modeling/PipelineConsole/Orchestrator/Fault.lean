import PipelineConsole.Expression.Filter
import PipelineConsole.Expression.Transform
import PipelineConsole.Orchestrator.Basic

/-!
# Why the orchestrator refuses a call

A call that cannot be carried out is refused, with a fault that says why.

## Main definitions

* `Orchestrator.Fault` — the causes, with `Fault.message`, `Fault.code` and `Fault.status`
* `Fault.toBackendFault`, `Fault.toErrorBody` — what the orchestrator and the console answer
-/

namespace PipelineConsole.Orchestrator

/-- Why a call is refused. -/
inductive Fault where
  | unknownPipeline (id : String)
  | unknownNotification (id : String)
  | alreadyRunning (id : String)
  | idTaken (id : String)
  | invalidConfig (cause : ConfigError)
  | blankName
  | notEditable (status : Status)
  | notDeletable (status : Status)
  | notAllowed (id : String) (refusal : Refusal)
  | batchTooLarge
  | invalidFilter (cause : FilterError)
  | unsupportedTransform
  | failedTransform (cause : TransformError)

namespace Fault

/-- The wording of a cause. -/
def message : Fault → String
  | unknownPipeline id => "pipeline with id " ++ Text.quoted id ++ " does not exist"
  | unknownNotification id => "notification with id " ++ Text.quoted id ++ " does not exist"
  | alreadyRunning id =>
    "pipeline already running: " ++ id ++ ", only a single active pipeline is allowed"
  | idTaken id => "pipeline with id " ++ Text.quoted id ++ " already exists"
  | invalidConfig cause => "invalid pipeline config: " ++ cause.message
  | blankName => "pipeline name must not be empty"
  | notEditable status =>
    "pipeline can only be edited if it's stopped, current status: " ++ status.name
  | notDeletable status =>
    "pipeline can only be deleted if it's stopped, current status: " ++ status.name
  | notAllowed _ refusal => refusal.message
  | batchTooLarge => DeadLetter.batchTooLarge
  | invalidFilter cause => "Filter expression validation failed: " ++ cause.message
  | unsupportedTransform => "only expr_lang_transform is supported"
  | failedTransform cause => "Failed to evaluate transformation: " ++ cause.message

/-- The status code of the answer. -/
def status : Fault → UInt16
  | unknownPipeline _ | unknownNotification _ => 404
  | alreadyRunning _ | idTaken _ => 403
  | invalidConfig _ => 422
  | notAllowed .. => Refusal.httpStatus
  | blankName | notEditable _ | notDeletable _ | batchTooLarge | invalidFilter _
  | unsupportedTransform | failedTransform _ => 400

/-- The code in the answer of the orchestrator. -/
def code : Fault → String
  | unknownPipeline _ | unknownNotification _ => "not_found"
  | alreadyRunning _ | idTaken _ => "forbidden"
  | invalidConfig _ => "unprocessable_entity"
  | notAllowed .. => "invalid_status_transition"
  | blankName | notEditable _ | notDeletable _ | batchTooLarge => "bad_request"
  | invalidFilter _ => "validation_error"
  | unsupportedTransform => "invalid_transformation_type"
  | failedTransform _ => "transformation_error"

/-- The answer of the orchestrator. -/
def toBackendFault (f : Fault) : BackendFault :=
  let plain : BackendFault :=
    { status := some f.status, code := some f.code, message := some f.message }
  match f with
  | notAllowed id refusal => refusal.toFault id
  | unknownPipeline id | alreadyRunning id | idTaken id =>
    plain.withDetail "pipeline_id" (.string id)
  | _ => plain

/-- The answer of the console. -/
def toErrorBody (f : Fault) : ErrorBody := ⟨f.status, f.message⟩

end Fault

end PipelineConsole.Orchestrator
