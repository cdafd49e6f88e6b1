import PipelineConsole.Proofs.Backend.Answers
import PipelineConsole.Proofs.Json.Objects

/-!
# Messages of services

Of an error answer the console tells the message that the service has put into the body. The body is
read as a whole, though: if any member that the console knows does not fit, the message is lost with
it, and a default for the status stands in its place.

## Main definitions

* `BackendFault.Fits` — the members of a body that is read as a fault
* `Json.AtMostOne` — there is one thing of a kind, or nothing

## Main results

* `BackendFault.decode_iff` — the fault that an object is read as
* `Remote.refused_of_perm` — the details of a refusal may come in any order
* `Remote.perform_of_refused` — an operation that is refused at its first call has failed
* `Remote.message_reaches_caller_iff` — when the message of a service reaches the caller
* `Remote.message_lost_for_details` — a message that does not
-/

namespace PipelineConsole

open Http (Incoming Network Outgoing)
open Json (Fields Members Source Tree membersNamed membersOther)

/-! ### Members that fit -/

/-- There is one thing that has a property, or nothing. -/
def Json.AtMostOne (P : Tree → Prop) : List Tree → Prop
  | [] => True
  | [t] => P t
  | _ :: _ :: _ => False

theorem Json.AtMostOne.congr {P Q : Tree → Prop} (h : ∀ t, P t ↔ Q t) (trees : List Tree) :
    AtMostOne P trees ↔ AtMostOne Q trees := by
  match trees with
  | [] => exact Iff.rfl
  | [t] => exact h t
  | _ :: _ :: _ => exact Iff.rfl

/-- An empty slot can be filled if there is at most one member, and it fits. -/
theorem Json.Field.exists_fills_iff {α : Type} {source : Source} {field : Json.Field α}
    {trees : List Tree} :
    (∃ last, field.Fills source none trees last) ↔
      AtMostOne (fun t => ∃ a, field.codec.decode source t = .ok a) trees := by
  rcases trees with _ | ⟨t, _ | ⟨next, rest⟩⟩
  · simp [Json.Field.Fills, AtMostOne]
  · simp only [Json.Field.Fills, AtMostOne, true_and]
    constructor
    · rintro ⟨last, a, h, -⟩
      exact ⟨a, h⟩
    · rintro ⟨a, h⟩
      exact ⟨some a, a, h, rfl⟩
  · simp [Json.Field.Fills, AtMostOne]

namespace BackendFault

/-- The members of an object that is read as a fault: their names can be read, none of those that
are known comes twice, and each of these is of its kind. An own status and an own code may be
`null`, details may not. -/
structure Fits (members : Members) : Prop where
  names : ∀ m ∈ members, m.1 ≠ none
  status : Json.AtMostOne (fun t => t = .null ∨ ∃ n : UInt16, t = .number (some (.int n.toNat)))
    (membersNamed "status" members)
  code : Json.AtMostOne (fun t => t = .null ∨ ∃ s, t = .string (some s))
    (membersNamed "code" members)
  details : Json.AtMostOne
    (fun t => (∃ inner ending, t = .object inner ending) ∧ (t.value? (.text 126)).isSome)
    (membersNamed "details" members)

variable {levels : Nat} {members : Members} {fault : BackendFault}

/-- The details among the members. -/
def detailsField : Json.Field (List (String × Json.Value)) :=
  ⟨"details", .table, .fallback [], List.isEmpty⟩

/-- The members that a fault is read from. -/
def fields : Fields (Option UInt16 × Option String × Option String ×
    List (String × Json.Value) × Unit) :=
  .cons (.optional "status" .uint16) <| .cons (.optional "code" .text) <|
    .cons (.optional "message" .text) <| .cons detailsField .done

/-- A fault may lack any of them. -/
theorem complete_fields (status : Option (Option UInt16)) (code message : Option (Option String))
    (details : Option (List (String × Json.Value))) :
    fields.complete (status, code, message, details, ()) =
      .ok (status.getD none, code.getD none, message.getD none, details.getD [], ()) := by
  cases status <;> cases code <;> cases message <;> cases details <;> rfl

/-- The members that no field of a fault is called. -/
def unknown (members : Members) : Members :=
  membersOther "details"
    (membersOther "message" (membersOther "code" (membersOther "status" members)))

/-- The slots of a fault are filled each for itself. -/
theorem putAll_fields_iff {status : Option (Option UInt16)} {code message : Option (Option String)}
    {details : Option (List (String × Json.Value))} :
    fields.putAll (.text levels) fields.noSlots members =
        .ok (status, code, message, details, ()) ↔
      (Json.Field.optional "status" .uint16).Fills (.text levels) none
          (membersNamed "status" members) status ∧
        (Json.Field.optional "code" .text).Fills (.text levels) none
          (membersNamed "code" members) code ∧
        (Json.Field.optional "message" .text).Fills (.text levels) none
          (membersNamed "message" members) message ∧
        detailsField.Fills (.text levels) none (membersNamed "details" members) details ∧
        ∀ m ∈ unknown members, m.1 ≠ none ∧ m.2.isComplete = true := by
  -- Leaving out the members of one field does not touch those of the next.
  have hcode : membersNamed "code" (membersOther "status" members) =
      membersNamed "code" members := Json.membersNamed_membersOther (by decide)
  have hmessage : membersNamed "message" (membersOther "code" (membersOther "status" members)) =
      membersNamed "message" members := by
    rw [Json.membersNamed_membersOther (by decide), Json.membersNamed_membersOther (by decide)]
  have hdetails : membersNamed "details"
      (membersOther "message" (membersOther "code" (membersOther "status" members))) =
      membersNamed "details" members := by
    rw [Json.membersNamed_membersOther (by decide), Json.membersNamed_membersOther (by decide),
      Json.membersNamed_membersOther (by decide)]
  rw [← hcode, ← hmessage, ← hdetails]
  refine Fields.putAll_slots_iff.trans (and_congr_right fun _ => ?_)
  refine Fields.putAll_slots_iff.trans (and_congr_right fun _ => ?_)
  refine Fields.putAll_slots_iff.trans (and_congr_right fun _ => ?_)
  refine Fields.putAll_slots_iff.trans (and_congr_right fun _ => ?_)
  exact Fields.putAll_done_iff

/-- The fault that an object is read as. -/
theorem decode_iff :
    codec.decode (.text (levels + 1)) (.object members .closed) = .ok fault ↔
      ∃ status code message details,
        fields.putAll (.text levels) fields.noSlots members =
          .ok (status, code, message, details, ()) ∧
        fault = ⟨status.getD none, code.getD none, message.getD none, details.getD []⟩ := by
  have hcodec : codec.decode (.text (levels + 1)) (.object members .closed) =
      ((Json.Codec.record "BackendErrorDetail" fields).decode (.text (levels + 1))
        (.object members .closed)).map
          fun x => ⟨x.1, x.2.1, x.2.2.1, x.2.2.2.1⟩ := rfl
  rw [hcodec, map_eq_ok]
  constructor
  · rintro ⟨x, hx, rfl⟩
    obtain ⟨⟨status, code, message, details, _⟩, hput, hcomplete⟩ :=
      Json.Codec.record_object_iff.1 hx
    obtain rfl := Except.ok.inj ((complete_fields status code message details).symm.trans hcomplete)
    exact ⟨status, code, message, details, hput, rfl⟩
  · rintro ⟨status, code, message, details, hput, rfl⟩
    exact ⟨_, Json.Codec.record_object_iff.2 ⟨_, hput, complete_fields _ _ _ _⟩, rfl⟩

theorem mem_unknown {m : Option String × Tree} :
    m ∈ unknown members ↔ m ∈ members ∧ m.1 ≠ some "status" ∧ m.1 ≠ some "code" ∧
      m.1 ≠ some "message" ∧ m.1 ≠ some "details" := by
  simp only [unknown, Json.mem_membersOther, and_assoc]

/-- Of members that keep the grammar those that no field is called need nothing but names. -/
theorem unknown_iff (hcomplete : ∀ m ∈ members, m.2.isComplete = true) :
    (∀ m ∈ unknown members, m.1 ≠ none ∧ m.2.isComplete = true) ↔ ∀ m ∈ members, m.1 ≠ none := by
  constructor
  · intro h m hm hnone
    have hunknown : m ∈ unknown members := by
      rw [mem_unknown, hnone]
      exact ⟨hm, nofun, nofun, nofun, nofun⟩
    exact (h m hunknown).1 hnone
  · intro h m hm
    have hmem := (mem_unknown.1 hm).1
    exact ⟨h m hmem, hcomplete m hmem⟩

section Message

variable {message : String}

/-- A member with a text is what the slot of the message takes. -/
theorem fills_message (hmessage : membersNamed "message" members = [.string (some message)])
    {last : Option (Option String)} :
    (Json.Field.optional "message" .text).Fills (.text levels) none (membersNamed "message" members)
      last ↔ last = some (some message) := by
  rw [hmessage, Json.Field.fills_none_iff]
  constructor
  · rintro (⟨h, -⟩ | ⟨t, a, h, ha, rfl⟩)
    · cases h
    · obtain ⟨rfl, -⟩ := List.cons.inj h
      exact congrArg some (Except.ok.inj ha).symm
  · rintro rfl
    exact .inr ⟨_, _, rfl, rfl, rfl⟩

/-- The fault has the message of the object. -/
theorem message_of_decode (hmessage : membersNamed "message" members = [.string (some message)])
    (h : codec.decode (.text (levels + 1)) (.object members .closed) = .ok fault) :
    fault.message = some message := by
  obtain ⟨status, code, last, details, hput, rfl⟩ := decode_iff.1 h
  obtain ⟨-, -, hlast, -⟩ := putAll_fields_iff.1 hput
  rw [(fills_message hmessage).1 hlast]
  rfl

/-- An object with a message is read as a fault if its members fit. -/
theorem exists_decode_iff (hmessage : membersNamed "message" members = [.string (some message)])
    (hcomplete : ∀ m ∈ members, m.2.isComplete = true) :
    (∃ fault, codec.decode (.text Json.maxDepth) (.object members .closed) = .ok fault) ↔
      Fits members := by
  have hstatus (t : Tree) :
      (∃ n, (Json.Field.optional "status" .uint16).codec.decode (.text 126) t = .ok n) ↔
        t = .null ∨ ∃ n : UInt16, t = .number (some (.int n.toNat)) :=
    Json.Codec.exists_option_iff.trans
      (or_congr_right (exists_congr fun _ => Json.Codec.uint16_iff))
  have hcode (t : Tree) :
      (∃ s, (Json.Field.optional "code" .text).codec.decode (.text 126) t = .ok s) ↔
        t = .null ∨ ∃ s, t = .string (some s) :=
    Json.Codec.exists_option_iff.trans (or_congr_right (exists_congr fun _ => Json.Codec.text_iff))
  have hdetails (t : Tree) : (∃ d, detailsField.codec.decode (.text 126) t = .ok d) ↔
      (∃ inner ending, t = .object inner ending) ∧ (t.value? (.text 126)).isSome :=
    Json.Codec.table_iff
  constructor
  · rintro ⟨fault, h⟩
    obtain ⟨status, code, last, details, hput, -⟩ := decode_iff.1 h
    obtain ⟨hs, hc, -, hd, hunknown⟩ := putAll_fields_iff.1 hput
    exact
      { names := (unknown_iff hcomplete).1 hunknown
        status := (Json.AtMostOne.congr hstatus _).1 (Json.Field.exists_fills_iff.1 ⟨status, hs⟩)
        code := (Json.AtMostOne.congr hcode _).1 (Json.Field.exists_fills_iff.1 ⟨code, hc⟩)
        details :=
          (Json.AtMostOne.congr hdetails _).1 (Json.Field.exists_fills_iff.1 ⟨details, hd⟩) }
  · intro h
    obtain ⟨status, hs⟩ :=
      Json.Field.exists_fills_iff.2 ((Json.AtMostOne.congr hstatus _).2 h.status)
    obtain ⟨code, hc⟩ := Json.Field.exists_fills_iff.2 ((Json.AtMostOne.congr hcode _).2 h.code)
    obtain ⟨details, hd⟩ :=
      Json.Field.exists_fills_iff.2 ((Json.AtMostOne.congr hdetails _).2 h.details)
    have hput := putAll_fields_iff.2
      ⟨hs, hc, (fills_message hmessage).2 rfl, hd, (unknown_iff hcomplete).2 h.names⟩
    exact ⟨_, decode_iff.2 ⟨_, _, _, _, hput, rfl⟩⟩

end Message

/-! ### Details in any order -/

section Details

variable {f : BackendFault} {details : List (String × Json.Value)}

/-- The members that a fault with details is written as. -/
theorem encode_of_details (h : f.details ≠ []) :
    codec.encode f =
      .object [("status", (Json.Codec.option .uint16).encode f.status),
        ("code", (Json.Codec.option .text).encode f.code),
        ("message", (Json.Codec.option .text).encode f.message),
        ("details", .object f.details)] := by
  obtain ⟨status, code, message, details⟩ := f
  cases details with
  | nil => exact absurd rfl h
  | cons => rfl

/-- In whatever order the details of a fault are written, it is read as the fault. -/
theorem Tidy.read_of_perm (h : f.Tidy) (hperm : details.Perm f.details) :
    codec.read (Text.Utf8.encode (codec.write { f with details })) = .ok f := by
  by_cases hdetails : details = []
  · obtain rfl : details = f.details := hdetails ▸ (List.nil_perm.1 (hdetails ▸ hperm)).symm
    exact h.readsBack.read_write (Nat.le_refl _)
  have hallows : Source.Allows 126 (.text 126) := Nat.le_refl _
  have hstatus : (Json.Codec.option .uint16).ReadsBack 126 f.status :=
    (Json.Codec.lawful_option Json.Codec.lawful_uint16 fun _ => Tree.noConfusion).readsBack _
  have htext (text : Option String) : (Json.Codec.option .text).ReadsBack 126 text :=
    Json.Codec.lawful_optionText.readsBack text
  have htable := Json.Codec.decode_table_of_perm h.sorted
    (fun m hm => (h.kept m hm).mono (by decide : 1 ≤ 125)) hperm hallows
  refine Json.Codec.read_text ?_ ?_
  · rw [encode_of_details hdetails]
    exact ⟨hstatus.legible, (htext _).legible, (htext _).legible,
      Json.Codec.legible_members.2 fun m hm => h.legible m (hperm.mem_iff.1 hm), trivial⟩
  · rw [encode_of_details hdetails, Tree.ofValue, Tree.ofMembers_eq_map]
    refine decode_iff.2 ⟨_, _, _, _, putAll_fields_iff.2
      ⟨⟨rfl, _, hstatus.decode_encode _ hallows, rfl⟩,
        ⟨rfl, _, (htext f.code).decode_encode _ hallows, rfl⟩,
        ⟨rfl, _, (htext f.message).decode_encode _ hallows, rfl⟩,
        ⟨rfl, _, htable, rfl⟩, ?_⟩, rfl⟩
    exact fun m hm => absurd hm List.not_mem_nil

end Details

end BackendFault

/-! ### Answers of services -/

/-- An answer says a message: its body is an object that keeps the grammar, and of its members just
one is called `message`, which is a text. -/
structure Http.Incoming.Says (a : Incoming) (members : Members) (message : String) : Prop where
  body : ∃ bytes, a.body = .ok bytes ∧ Tree.ofBytes bytes = (.object members .closed, false)
  complete : ∀ m ∈ members, m.2.isComplete = true
  message : membersNamed "message" members = [.string (some message)]

namespace Remote

variable {σ : Type} {r : Remote} {n : Network σ} {token : Option String} {o : Occasion}
  {op : Operation} {s t : σ} {out : Outgoing} {a : Incoming} {members : Members} {message : String}

/-- The fault in an answer that says a message. -/
theorem document?_of_message (h : a.Says members message) :
    a.document? BackendFault.codec =
      (BackendFault.codec.decode (.text Json.maxDepth) (.object members .closed)).toOption := by
  obtain ⟨bytes, hbody, htree⟩ := h.body
  rw [Incoming.document?, hbody]
  show (BackendFault.codec.read bytes).toOption = _
  rw [Json.Codec.read, htree]
  dsimp only
  cases BackendFault.codec.decode (.text Json.maxDepth) (.object members .closed) <;> rfl

/-- In whatever order the orchestrator writes the details of a refusal, it is understood. -/
theorem refused_of_perm (f : Orchestrator.Fault) {details : List (String × Json.Value)}
    (hperm : details.Perm f.toBackendFault.details) :
    refused (.ofResponse { f.toBackendFault with details }.response) = f.toErrorBody :=
  refused_of_read f rfl (f.tidy.read_of_perm hperm)

/-- If the members fit, the message is told. -/
theorem refused_of_fits (hstatus : 100 ≤ a.status ∧ a.status ≤ 999) (hinternal : a.status ≠ 500)
    (hwhy : a.Says members message) (hne : message ≠ "") (h : BackendFault.Fits members) :
    refused a = ⟨a.status, message⟩ := by
  obtain ⟨fault, hfault⟩ :=
    (BackendFault.exists_decode_iff hwhy.message hwhy.complete).2 h
  have hmessage := BackendFault.message_of_decode hwhy.message hfault
  rw [refused, document?_of_message hwhy, hfault]
  show (fault.toErrorBody a.status).asAnswer = _
  rw [BackendFault.toErrorBody, if_neg hinternal, hmessage]
  split
  · next hempty => exact absurd (Option.some.inj hempty) hne
  · next hnone => cases hnone
  · next told _ htold =>
    obtain rfl := Option.some.inj htold
    exact if_pos hstatus

/-- If they do not, a default for the status is. -/
theorem refused_of_not_fits (hstatus : 100 ≤ a.status ∧ a.status ≤ 999) (hinternal : a.status ≠ 500)
    (hwhy : a.Says members message) (h : ¬BackendFault.Fits members) :
    refused a = ⟨a.status, BackendFault.defaultMessage a.status⟩ := by
  rw [← BackendFault.exists_decode_iff hwhy.message hwhy.complete] at h
  have hnone : a.document? BackendFault.codec = none := by
    rw [document?_of_message hwhy]
    cases hdecode : BackendFault.codec.decode (.text Json.maxDepth) (.object members .closed) with
    | error e => rfl
    | ok fault => exact absurd ⟨fault, hdecode⟩ h
  rw [refused, hnone]
  show (BackendFault.toErrorBody {} a.status).asAnswer = _
  rw [BackendFault.toErrorBody, if_neg hinternal]
  exact if_pos hstatus

/-- An operation whose first call is refused has failed. -/
theorem perform_of_refused (hout : r.outgoing token (callFor op) = .ok out)
    (hanswer : n.send o out s = (.ok a, t)) (h : a.isSuccess = false) :
    r.perform n token o op s = (.error (refused a), t) := by
  have hask {α : Type} {c : Call} (hc : callFor op = c)
      (understand : Incoming → Except ErrorBody α) :
      r.ask n token o c understand s = (.error (refused a), t) := by
    subst hc
    simp only [ask, hout, hanswer, understood, h]
    rfl
  cases op with
  | terminateAll =>
    simp only [perform, Termination.all, hask (c := listCall) rfl]
  | _ =>
    simp only [perform]
    exact hask rfl _

/-- A service refuses an operation, for no internal error of its own, and says why. The caller is
told the status. He is told what the service says just when the other members of the body fit, or
when the service says what is told by default anyway. -/
theorem message_reaches_caller_iff (hout : r.outgoing token (callFor op) = .ok out)
    (hanswer : n.send o out s = (.ok a, t)) (hstatus : 100 ≤ a.status ∧ a.status ≤ 999)
    (hrefused : a.isSuccess = false) (hinternal : a.status ≠ 500)
    (hwhy : a.Says members message) (hne : message ≠ "") :
    ∃ told, r.perform n token o op s = (.error ⟨a.status, told⟩, t) ∧
      (told = message ↔
        BackendFault.Fits members ∨ message = BackendFault.defaultMessage a.status) := by
  have hperform := perform_of_refused hout hanswer hrefused
  -- If the members do not fit, the message is right only where it is the default itself.
  by_cases h : BackendFault.Fits members
  · rw [refused_of_fits hstatus hinternal hwhy hne h] at hperform
    exact ⟨message, hperform, iff_of_true rfl (.inl h)⟩
  · rw [refused_of_not_fits hstatus hinternal hwhy h] at hperform
    refine ⟨_, hperform, ?_⟩
    rw [or_iff_right h, eq_comm]

end Remote

/-! ### Two answers -/

namespace Remote

/-- A network where every request has one answer. -/
def answering (a : Incoming) : Network Unit where
  exchange _ _ s := (.ok a, s)

/-- The answer that a pipeline is not there, with one more member. -/
def missing (name : String) (v : Json.Value) : Incoming :=
  .ofResponse (.ofJson 404 (.object [("message", .string "no such pipeline"), (name, v)]))

theorem says_missing {name : String} {v : Json.Value} (hname : name ≠ "message")
    (hlegible : v.Legible) (hcomplete : (Tree.ofValue v).isComplete = true) :
    (missing name v).Says
      [(some "message", .string (some "no such pipeline")), (some name, Tree.ofValue v)]
      "no such pipeline" where
  body := by
    let document : Json.Value := .object [("message", .string "no such pipeline"), (name, v)]
    have hdocument : document.Legible := ⟨trivial, hlegible, trivial⟩
    refine ⟨Text.Utf8.encode document.text, congrArg Except.ok (List.flatten_singleton ..), ?_⟩
    rw [Tree.ofBytes_text hdocument]
    simp only [document, Tree.ofValue, Tree.ofMembers]
  complete := by
    intro m hm
    simp only [List.mem_cons, List.not_mem_nil, or_false] at hm
    rcases hm with rfl | rfl
    · rfl
    · exact hcomplete
  message := by
    rw [Json.membersNamed_cons_self, Json.membersNamed_cons_of_ne]
    · rfl
    · exact fun heq => hname (Option.some.inj heq)

/-- A question for a pipeline is sent, and comes back with the answer. -/
theorem exists_answered (a : Incoming) (o : Occasion) :
    ∃ out, (ofSettings {}).outgoing none (callFor (.get "orders")) = .ok out ∧
      (answering a).send o out () = (.ok a, ()) := by
  have hsendable : ((ofSettings {}).outgoing none (callFor (.get "orders"))).toOption.any
      Outgoing.isSendable = true := by decide +kernel
  cases hout : (ofSettings {}).outgoing none (callFor (.get "orders")) with
  | error e =>
    rw [hout] at hsendable
    cases hsendable
  | ok out =>
    rw [hout] at hsendable
    exact ⟨out, rfl, if_pos hsendable⟩

/-- The message is told if the service has a code of its own besides, as a text. -/
theorem message_told_with_code :
    let o : Occasion := ⟨0, ⟨⟨2025, 3, 6, by decide⟩, 36000, 0, by decide⟩, "fresh", []⟩
    let a := missing "code" (.string "not_found")
    (ofSettings {}).perform (answering a) none o (.get "orders") () =
      (.error ⟨404, "no such pipeline"⟩, ()) := by
  intro o a
  have hwhy : a.Says _ _ := says_missing (by decide) trivial rfl
  obtain ⟨out, hout, hsend⟩ := exists_answered a o
  obtain ⟨told, htold, hiff⟩ := message_reaches_caller_iff hout hsend (by decide) (by decide)
    (by decide) hwhy (by decide)
  have hfits : BackendFault.Fits
      [(some "message", .string (some "no such pipeline")),
        (some "code", Tree.ofValue (.string "not_found"))] :=
    { names := by simp
      status := trivial
      code := .inr ⟨_, rfl⟩
      details := trivial }
  rw [htold, hiff.2 (.inl hfits)]
  rfl

/-- The message is lost if the details are `null`: a default is told in its place. So a message does
not reach the caller whatever comes with it. -/
theorem message_lost_for_details :
    let o : Occasion := ⟨0, ⟨⟨2025, 3, 6, by decide⟩, 36000, 0, by decide⟩, "fresh", []⟩
    let a := missing "details" .null
    a.Says [(some "message", .string (some "no such pipeline")), (some "details", .null)]
        "no such pipeline" ∧
      (ofSettings {}).perform (answering a) none o (.get "orders") () =
        (.error ⟨404, "not found"⟩, ()) ∧
      ¬ ∀ (out : Outgoing) (a : Incoming) (members : Members) (message : String),
        (ofSettings {}).outgoing none (callFor (.get "orders")) = .ok out →
        (answering a).send o out () = (.ok a, ()) → 100 ≤ a.status ∧ a.status ≤ 999 →
        a.isSuccess = false → a.status ≠ 500 → a.Says members message → message ≠ "" →
        (ofSettings {}).perform (answering a) none o (.get "orders") () =
          (.error ⟨a.status, message⟩, ()) := by
  intro o a
  have hwhy : a.Says
      [(some "message", .string (some "no such pipeline")), (some "details", .null)]
      "no such pipeline" := says_missing (by decide) trivial rfl
  have hnot : ¬BackendFault.Fits
      [(some "message", .string (some "no such pipeline")), (some "details", .null)] := by
    intro h
    obtain ⟨⟨_, _, hobject⟩, -⟩ := h.details
    cases hobject
  obtain ⟨out, hout, hsend⟩ := exists_answered a o
  have hperform : (ofSettings {}).perform (answering a) none o (.get "orders") () =
      (.error ⟨404, "not found"⟩, ()) := by
    rw [perform_of_refused hout hsend (by decide),
      refused_of_not_fits (by decide) (by decide) hwhy hnot]
    rfl
  refine ⟨hwhy, hperform, fun h => ?_⟩
  have htold := h out a _ _ hout hsend (by decide) (by decide) (by decide) hwhy (by decide)
  rw [hperform] at htold
  have hmessage := congrArg ErrorBody.message (Except.error.inj (congrArg Prod.fst htold))
  exact absurd hmessage (by decide)

end Remote

end PipelineConsole
