import PipelineConsole.Backend.Kind
import PipelineConsole.Proofs.Http.Route
import PipelineConsole.Proofs.Orchestrator.Readable

/-!
# Operations as they are read

What is known of the parts of a request is known of the operation that is read from it: a document
that was read is read back, and an id at the end of a path is not empty.

## Main definitions

* `Operation.kind` — the kind of an operation
* `Operation.From` — what an operation is read from
* `Operation.Legible` — the numbers in the documents of an operation are read as themselves

## Main results

* `Operation.Kind.from_of_read` — an operation that was read is of its kind and comes from its parts
* `Operation.readable_of_from` — what it asks for is read back
-/

namespace PipelineConsole.Operation

open Http (Request Response)

/-- The kind of an operation. -/
def kind : Operation → Kind
  | create _ => .create
  | list => .list
  | get _ => .get
  | rename .. => .rename
  | edit .. => .edit
  | delete _ => .delete
  | act _ action => .act action
  | terminateAll => .terminateAll
  | health _ => .health
  | deadLetters _ => .deadLetters
  | consume .. => .consume
  | purge _ => .purge
  | platform => .platform
  | checkFilter _ => .checkFilter
  | evaluateTransform _ => .evaluateTransform
  | listNotifications _ => .listNotifications
  | getNotification _ => .getNotification
  | deleteNotification _ => .deleteNotification
  | markRead _ => .markRead

/-- What an operation with an id at the end of its path, or with documents of a user, is read
from. -/
def From (r : Request) (parameters : List String) : Operation → Prop
  | get id | rename id _ | delete id | getNotification id | deleteNotification id =>
    Kind.readId parameters = .ok id
  | create config | edit _ config => Kind.readBody r PipelineConfig.codec = .ok config
  | evaluateTransform request => Kind.readBody r TransformRequest.codec = .ok request
  | _ => True

section Read

variable {kind : Kind} {op : Operation} {r : Request} {parameters : List String}
  {authorized : Except Response Unit}

/-- An operation that was read is of its kind and comes from its parts. -/
theorem Kind.from_of_read (h : kind.read r parameters authorized = .ok op) :
    op.kind = kind ∧ op.From r parameters := by
  -- The kinds are grouped by what is read for them, and in which order.
  cases kind with
  | list | terminateAll | platform =>
    obtain ⟨_, -, h⟩ := bind_eq_ok.1 h
    obtain rfl := Except.ok.inj h
    exact ⟨rfl, trivial⟩
  | get | delete | getNotification | deleteNotification =>
    obtain ⟨id, hid, h⟩ := bind_eq_ok.1 h
    obtain ⟨_, -, h⟩ := bind_eq_ok.1 h
    obtain rfl := Except.ok.inj h
    exact ⟨rfl, hid⟩
  | act | health | deadLetters | purge | listNotifications =>
    obtain ⟨_, -, h⟩ := bind_eq_ok.1 h
    obtain ⟨_, -, h⟩ := bind_eq_ok.1 h
    obtain rfl := Except.ok.inj h
    exact ⟨rfl, trivial⟩
  | consume =>
    obtain ⟨_, -, h⟩ := bind_eq_ok.1 h
    obtain ⟨_, -, h⟩ := bind_eq_ok.1 h
    obtain ⟨_, -, h⟩ := bind_eq_ok.1 h
    obtain rfl := Except.ok.inj h
    exact ⟨rfl, trivial⟩
  | create | evaluateTransform =>
    obtain ⟨_, -, h⟩ := bind_eq_ok.1 h
    obtain ⟨_, hbody, h⟩ := bind_eq_ok.1 h
    obtain rfl := Except.ok.inj h
    exact ⟨rfl, hbody⟩
  | checkFilter | markRead =>
    obtain ⟨_, -, h⟩ := bind_eq_ok.1 h
    obtain ⟨_, -, h⟩ := bind_eq_ok.1 h
    obtain rfl := Except.ok.inj h
    exact ⟨rfl, trivial⟩
  | rename =>
    obtain ⟨id, hid, h⟩ := bind_eq_ok.1 h
    obtain ⟨_, -, h⟩ := bind_eq_ok.1 h
    obtain ⟨_, -, h⟩ := bind_eq_ok.1 h
    obtain rfl := Except.ok.inj h
    exact ⟨rfl, hid⟩
  | edit =>
    obtain ⟨_, -, h⟩ := bind_eq_ok.1 h
    obtain ⟨_, -, h⟩ := bind_eq_ok.1 h
    obtain ⟨_, hbody, h⟩ := bind_eq_ok.1 h
    obtain rfl := Except.ok.inj h
    exact ⟨rfl, hbody⟩

/-- A document in a body comes from a tree that its codec reads. -/
theorem Kind.decode_of_readBody {α : Type} {codec : Json.Codec α} {a : α}
    (h : readBody r codec = .ok a) : ∃ t, codec.decode (.text Json.maxDepth) t = .ok a := by
  have hdocument := mapError_eq_ok.1 h
  unfold Request.document at hdocument
  split at hdocument
  · cases hdocument
  · split at hdocument
    · cases hdocument
    · split at hdocument
      · next hread =>
        obtain rfl := Except.ok.inj hdocument
        exact ⟨_, hread⟩
      · cases hdocument
      · cases hdocument

/-- The numbers in the documents of an operation are read as themselves. -/
def Legible : Operation → Prop
  | create config | edit _ config => (PipelineConfig.codec.encode config).Legible
  | evaluateTransform request =>
    (TransformRequest.codec.encode request).Legible ∧
      ∀ v, Orchestrator.evaluateTransform request = .ok v → v.Legible
  | _ => True

/-- What an operation that was read asks for is read back. -/
theorem readable_of_from (h : op.From r parameters) (hlegible : op.Legible) : op.Readable := by
  cases op with
  | create config | edit _ config =>
    obtain ⟨t, ht⟩ := Kind.decode_of_readBody h
    exact PipelineConfig.readable_of_decode ht hlegible
  | evaluateTransform request =>
    obtain ⟨t, ht⟩ := Kind.decode_of_readBody h
    exact ⟨TransformRequest.kept_of_decode ht, hlegible.1, hlegible.2⟩
  | _ => trivial

end Read

end PipelineConsole.Operation
