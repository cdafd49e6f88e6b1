import PipelineConsole.Backend.Operation
import PipelineConsole.Fault.ErrorBody
import PipelineConsole.Http.Message

/-!
# Answers to operations

## Main definitions

* `Operation.response` — the response that tells the reply to an operation
* `Operation.shown?` — the pipeline that is shown instead of an empty reply
* `ErrorBody.response`, `BackendFault.response` — the responses that tell of errors
-/

namespace PipelineConsole

open Http (Response)

/-- The response that tells of an error. -/
def ErrorBody.response (e : ErrorBody) : Response := .ofJson e.code (ErrorBody.codec.encode e)

/-- The response that tells of a fault. -/
def BackendFault.response (f : BackendFault) : Response :=
  .ofJson (f.status.getD 500) (BackendFault.codec.encode f)

namespace Operation

/-- The response with a document. -/
def document {α : Type} (codec : Json.Codec α) (a : α) : Response := .ofJson 200 (codec.encode a)

/-- The response that tells the reply to an operation. Where there is nothing to tell, the status
says it all. -/
def response : (op : Operation) → op.Reply → Response
  | create _, id => document CreateReply.codec { id }
  | list, items => document (.list Pipeline.ListItem.codec) items
  | get _, p => document Pipeline.codec p
  | rename .., () | edit .., () | delete _, () | purge _, () | deleteNotification _, () =>
    { status := 204 }
  | act id _, status => document ActionReply.codec { id, status }
  | terminateAll, ids => document TerminateAllReply.codec { terminated := ids }
  | health _, h => document Pipeline.Health.codec h
  | deadLetters _, state => document DeadLetter.State.codec state
  | consume .., batch => document (.list DeadLetter.Message.codec) batch
  | platform, info => document PlatformInfo.codec info
  | checkFilter _, () => .ofJson 200 (.object [("valid", .bool true)])
  | evaluateTransform _, value => .ofJson 200 value
  | listNotifications _, ns => document (.list Notification.codec) ns
  | getNotification _, n => document Notification.codec n
  | markRead _, count => document MarkReadReply.codec { updated := count }

/-- The pipeline that a changing operation answers with, as it is after the change. -/
def shown? : Operation → Option String
  | rename id _ | edit id _ => some id
  | _ => none

end Operation

end PipelineConsole
