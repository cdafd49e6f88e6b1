import PipelineConsole.Orchestrator.Network
import PipelineConsole.Proofs.Backend.Calls
import PipelineConsole.Proofs.Console.Refusals

/-!
# Answers are understood

The orchestrator answers an operation with a response, and a remote backend understands it as the
reply that the operation has, or as the error of the fault with which it was refused. So a remote
backend in front of the orchestrator performs an operation as the orchestrator does.

## Main definitions

* `Remote.Delivers` — the request for a call comes in at the orchestrator

## Main results

* `Remote.refused_response` — a fault is understood as its error
* `Remote.ask_eq_perform` — a call that is understood performs its operation
* `Remote.perform_eq` — so does a remote backend
-/

namespace PipelineConsole

open Http (Incoming Request Response)
open Json (Codec)

/-! ### Faults -/

namespace Orchestrator.Fault

theorem ne_empty_of_append {s t : String} (h : s ≠ "") : s ++ t ≠ "" := fun heq =>
  h (String.append_eq_empty_iff.1 heq).1

/-- Every fault says something. -/
theorem message_ne_empty (f : Fault) : f.message ≠ "" := by
  cases f with
  | unknownPipeline | unknownNotification | alreadyRunning | idTaken =>
    exact ne_empty_of_append (ne_empty_of_append (by decide))
  | invalidConfig | notEditable | notDeletable | batchTooLarge | invalidFilter | failedTransform =>
    exact ne_empty_of_append (by decide)
  | notAllowed => exact ne_empty_of_append (ne_empty_of_append (ne_empty_of_append (by decide)))
  | blankName | unsupportedTransform => decide

/-- The status of a fault is that of an error, but not of an internal one. -/
theorem status_cases (f : Fault) :
    f.status = 400 ∨ f.status = 403 ∨ f.status = 404 ∨ f.status = 422 := by
  cases f <;> simp [status, Refusal.httpStatus]

theorem toBackendFault_status (f : Fault) : f.toBackendFault.status = some f.status := by
  cases f <;> rfl

theorem toBackendFault_message (f : Fault) : f.toBackendFault.message = some f.message := by
  cases f <;> rfl

theorem toBackendFault_toErrorBody (f : Fault) :
    (f.toBackendFault.toErrorBody f.status).asAnswer = f.toErrorBody := by
  have hinternal : f.status ≠ 500 ∧ (100 ≤ f.status ∧ f.status ≤ 999) := by
    rcases f.status_cases with h | h | h | h <;> rw [h] <;> decide
  rw [BackendFault.toErrorBody, if_neg hinternal.1, toBackendFault_message]
  split
  · next h => exact absurd (Option.some.inj h) f.message_ne_empty
  · next h => cases h
  · next h =>
    obtain rfl := Option.some.inj h
    exact if_pos hinternal.2

end Orchestrator.Fault

namespace Remote

/-! ### Documents of answers -/

section Document

variable {α : Type} {codec : Codec α} {depth : Nat} {a : α}

/-- The document of a response is read as it was written. -/
theorem document?_ofJson {v : Json.Value} (status : UInt16)
    (h : codec.read (Text.Utf8.encode v.text) = .ok a) :
    (Incoming.ofResponse (.ofJson status v)).document? codec = some a := by
  simp only [Incoming.document?, Incoming.body, Incoming.ofResponse, Response.ofJson,
    List.flatten_singleton, Except.toOption, Option.bind_some, h]

theorem document?_encode (h : codec.ReadsBack depth a) (status : UInt16)
    (hdepth : depth ≤ Json.maxDepth := by decide) :
    (Incoming.ofResponse (.ofJson status (codec.encode a))).document? codec = some a :=
  document?_ofJson status (h.read_write hdepth)

theorem document_encode (h : codec.ReadsBack depth a) (status : UInt16)
    (hdepth : depth ≤ Json.maxDepth := by decide) :
    document codec (Incoming.ofResponse (.ofJson status (codec.encode a))) = .ok a := by
  simp only [document, document?_encode h status hdepth]

end Document

/-- A fault is understood as its error from any document in which it is read. -/
theorem refused_of_read (f : Orchestrator.Fault) {told : BackendFault}
    (hstatus : told.status = f.toBackendFault.status)
    (hread : BackendFault.codec.read (Text.Utf8.encode (BackendFault.codec.write told)) =
      .ok f.toBackendFault) :
    refused (.ofResponse told.response) = f.toErrorBody := by
  have hcode : (Incoming.ofResponse told.response).status = f.status := by
    show told.status.getD 500 = f.status
    rw [hstatus, f.toBackendFault_status, Option.getD_some]
  have hdocument : (Incoming.ofResponse told.response).document? BackendFault.codec =
      some f.toBackendFault := document?_ofJson _ hread
  rw [refused, hdocument, hcode, Option.getD_some, f.toBackendFault_toErrorBody]

/-- A fault is understood as its error. -/
theorem refused_response (f : Orchestrator.Fault) :
    refused (.ofResponse f.toBackendFault.response) = f.toErrorBody :=
  refused_of_read f rfl (f.readsBack.read_write (by decide))

/-! ### Calls that are understood -/

/-- The request for a call comes in at the orchestrator: no segment of the call stands for a place
or loses a character, the request can be sent, and its body is not too long. -/
structure Delivers (r : Remote) (token : Option String) (c : Call) : Prop where
  plain : ∀ s ∈ c.segments, Url.PlainSegment s
  sent : ∀ out, r.outgoing token c = .ok out →
    out.isSendable = true ∧ out.body.length ≤ Request.maxBodyLength

instance (r : Remote) (token : Option String) (c : Call) : Decidable (r.Delivers token c) :=
  decidable_of_iff ((∀ s ∈ c.segments, Url.PlainSegment s) ∧
      ∀ out ∈ (r.outgoing token c).toOption,
        out.isSendable = true ∧ out.body.length ≤ Request.maxBodyLength)
    ⟨fun h => ⟨h.1, fun out hout => h.2 out (by rw [hout]; rfl)⟩,
      fun h => ⟨h.plain, fun out hout => h.sent out (by
        cases hcall : r.outgoing token c with
        | error e =>
          rw [hcall] at hout
          cases hout
        | ok request =>
          rw [hcall] at hout
          exact congrArg Except.ok (Option.some.inj hout))⟩⟩

section Ask

variable {r : Remote} {token : Option String} {rules : Orchestrator.Rules} {o : Occasion}
  {s : Orchestrator} {op : Operation}

/-- The answer to an operation is understood as its reply or its error. -/
theorem understood_answer {understand : Incoming → Except ErrorBody op.Reply}
    (h : ∀ reply s', Orchestrator.perform rules o op s = (.ok reply, s') →
      understand (.ofResponse (s'.respond op reply)) = .ok reply) (token : Option String) :
    (understood understand (.ok (.ofResponse (s.answer rules o op).1)), (s.answer rules o op).2) =
      (Backend.inMemory rules).perform token o op s := by
  simp only [Orchestrator.answer, Backend.inMemory]
  rcases hperform : Orchestrator.perform rules o op s with ⟨f | reply, s'⟩
  · -- No status of a fault is one of success, so that the fault is not taken for a reply.
    have hfailure : (Incoming.ofResponse f.toBackendFault.response).isSuccess = false := by
      show (200 ≤ f.toBackendFault.status.getD 500 &&
        f.toBackendFault.status.getD 500 < 300) = false
      rw [f.toBackendFault_status]
      rcases f.status_cases with h | h | h | h <;> rw [h] <;> rfl
    simp only [understood, hfailure, refused_response]
    rfl
  · have hsuccess : (Incoming.ofResponse (s'.respond op reply)).isSuccess = true :=
      Orchestrator.isSuccess_respond hperform
    simp only [understood, hsuccess, h reply s' hperform]
    rfl

/-- A call that is understood performs its operation. -/
theorem ask_eq_perform {understand : Incoming → Except ErrorBody op.Reply} (hpoints : r.Points)
    (hdelivers : r.Delivers token (callFor op)) (hone : op ≠ .terminateAll)
    (hop : op.Addressable) (hreadable : op.Readable)
    (h : ∀ reply s', Orchestrator.perform rules o op s = (.ok reply, s') →
      understand (.ofResponse (s'.respond op reply)) = .ok reply) :
    r.ask (Orchestrator.network rules) token o (callFor op) understand s =
      (Backend.inMemory rules).perform token o op s := by
  obtain ⟨out, special, hout, hbrings⟩ := brings_of_outgoing hpoints hdelivers.plain token
  obtain ⟨hsendable, hshort⟩ := hdelivers.sent out hout
  rw [ask, hout]
  simp only [Http.Network.send, if_pos hsendable, Orchestrator.network,
    handle_of_brings hone hop hreadable hshort hbrings]
  exact understood_answer h token

/-! ### Replies -/

/-- The values of transforms are kept. -/
theorem kept_of_evaluateTransform {request : TransformRequest} {v : Json.Value}
    (hkept : request.sample.Kept TransformRequest.sampleDepth)
    (h : Orchestrator.evaluateTransform request = .ok v) : v.Kept Json.maxDepth := by
  unfold Orchestrator.evaluateTransform at h
  split at h
  · exact Transform.kept_evalAll hkept (mapError_eq_ok.1 h)
  · cases h

/-- The pipeline that is shown is read back. -/
theorem readsBack_shown {p : Pipeline} {id : String} (hs : s.Readable)
    (hp : s.pipelines.get? id = some p) : Pipeline.codec.ReadsBack Json.maxDepth p :=
  Pipeline.readsBack (hs id p hp).2.2

/-- The id of a new pipeline is found where the pipeline is shown. -/
theorem createdId_shown {p : Pipeline} {id : String} (hs : s.Readable)
    (hp : s.pipelines.get? id = some p) (requested : String) :
    createdId requested (.ofResponse (s.shown 201 id)) = .ok id := by
  obtain ⟨hne, rfl, hconfig⟩ := hs id p hp
  obtain ⟨v, hread, hid⟩ := Pipeline.read_id hconfig
  have hshown : s.shown 201 p.id = .ofJson 201 (Pipeline.codec.encode p) := by
    rw [Orchestrator.shown, Orchestrator.get_eq_ok.2 hp]
  have hdocument := document?_ofJson 201 hread
  have hfilled : p.id.isEmpty = false := by simpa using hne
  rw [hshown]
  simp only [createdId, bind, hdocument, Option.bind_some, hid, Json.Value.asString?,
    Option.getD_some, hfilled]
  rfl

/-- A remote backend in front of the orchestrator performs an operation as the orchestrator does. -/
theorem perform_eq (hpoints : r.Points) (hs : s.Readable) (hfresh : o.freshId ≠ "")
    (hdelivers : r.Delivers token (callFor op)) (hone : op ≠ .terminateAll)
    (hop : op.Addressable) (hreadable : op.Readable) :
    r.perform (Orchestrator.network rules) token o op s =
      (Backend.inMemory rules).perform token o op s := by
  cases op with
  | terminateAll => exact absurd rfl hone
  | create config =>
    refine ask_eq_perform hpoints hdelivers hone hop hreadable fun reply s' h => ?_
    obtain ⟨p, hp⟩ := Orchestrator.get?_of_create h
    exact createdId_shown (hs.perform hfresh hreadable h) hp config.id
  | list =>
    refine ask_eq_perform hpoints hdelivers hone hop hreadable fun reply s' _ => ?_
    exact document_encode ((Codec.lawful_list (Pipeline.ListItem.lawful_codec 0)).readsBack reply) _
  | get id =>
    refine ask_eq_perform hpoints hdelivers hone hop hreadable fun p s' h => ?_
    have hp := Orchestrator.get_eq_ok.1 (congrArg Prod.fst h)
    exact document_encode (readsBack_shown hs hp) _
  | rename | edit | delete | purge | checkFilter | deleteNotification =>
    exact ask_eq_perform hpoints hdelivers hone hop hreadable fun _ _ _ => rfl
  | act id action =>
    refine ask_eq_perform hpoints hdelivers hone hop hreadable fun status s' _ => ?_
    have hdocument := document?_encode ((ActionReply.lawful_codec 0).readsBack { id, status }) 200
    show statusAfter action (.ofResponse (.ofJson 200 _)) = _
    rw [statusAfter, hdocument]
    rfl
  | health id =>
    refine ask_eq_perform hpoints hdelivers hone hop hreadable fun reply s' _ => ?_
    exact document_encode ((Pipeline.Health.lawful_codec 0).readsBack reply) _
  | deadLetters id =>
    refine ask_eq_perform hpoints hdelivers hone hop hreadable fun reply s' _ => ?_
    exact document_encode ((DeadLetter.State.lawful_codec 0).readsBack reply) _
  | consume id size =>
    refine ask_eq_perform hpoints hdelivers hone hop hreadable fun reply s' _ => ?_
    cases reply with
    | nil => rfl
    | cons m rest =>
      have hlist := Codec.lawful_list (DeadLetter.Message.lawful_codec 0)
      have hcontent : (200 : UInt16) ≠ 204 := by decide
      exact (if_neg hcontent).trans (document_encode (hlist.readsBack (m :: rest)) 200)
  | platform =>
    refine ask_eq_perform hpoints hdelivers hone hop hreadable fun reply s' _ => ?_
    exact document_encode ((PlatformInfo.lawful_codec 0).readsBack reply) _
  | evaluateTransform request =>
    refine ask_eq_perform hpoints hdelivers hone hop hreadable fun v s' h => ?_
    have hv : Orchestrator.evaluateTransform request = .ok v := congrArg Prod.fst h
    have hkept := kept_of_evaluateTransform hreadable.kept hv
    exact document_encode (Codec.readsBack_opaqueValue hkept (hreadable.answer v hv)) 200
  | listNotifications query =>
    refine ask_eq_perform hpoints hdelivers hone hop hreadable fun reply s' _ => ?_
    exact document_encode ((Codec.lawful_list (Notification.lawful_codec 0)).readsBack reply) _
  | getNotification id =>
    refine ask_eq_perform hpoints hdelivers hone hop hreadable fun reply s' _ => ?_
    exact document_encode ((Notification.lawful_codec 0).readsBack reply) _
  | markRead ids =>
    refine ask_eq_perform hpoints hdelivers hone hop hreadable fun count s' _ => ?_
    have hdocument :=
      document_encode ((MarkReadReply.lawful_codec 0).readsBack { updated := count }) 200
    exact congrArg (Except.map MarkReadReply.updated) hdocument

end Ask

end Remote

end PipelineConsole
