import PipelineConsole.Json.Record

/-!
# Dead letters

Messages that a pipeline could not process are kept in a queue of dead letters until they are
consumed in batches or purged.

## Main definitions

* `DeadLetter.Message`, `DeadLetter.State` — a message, and what is told about a queue
* `DeadLetter.batchSize` — the size of a batch that was asked for
-/

namespace PipelineConsole.DeadLetter

/-- A message that could not be processed. -/
structure Message where
  component : String
  error : String
  body : String
  deriving DecidableEq, Repr

/-- The form in documents. -/
def Message.codec : Json.Codec Message :=
  (Json.Codec.record "DlqMessage"
    (.cons (.required "component" .text) <|
      .cons (.required "error" .text) <|
      .cons (.required "original_message" .text) .done)).iso
    (fun (component, error, body, _) => ⟨component, error, body⟩)
    (fun m => (m.component, m.error, m.body, ()))

/-- The counters of a queue, and when a message last came in or was consumed. -/
structure State where
  receivedAt : Option Timestamp := none
  consumedAt : Option Timestamp := none
  total : UInt64 := 0
  unconsumed : UInt64 := 0
  deriving DecidableEq, Repr

/-- The form in documents. -/
def State.codec : Json.Codec State :=
  (Json.Codec.record "DlqState"
    (.cons (.nullable "last_received_at" .timestamp) <|
      .cons (.nullable "last_consumed_at" .timestamp) <|
      .cons (.required "total_messages" .uint64) <|
      .cons (.required "unconsumed_messages" .uint64) .done)).iso
    (fun (receivedAt, consumedAt, total, unconsumed, _) =>
      ⟨receivedAt, consumedAt, total, unconsumed⟩)
    (fun s => (s.receivedAt, s.consumedAt, s.total, s.unconsumed, ()))

/-- The size asked for, as a document. -/
def batchSizeCodec : Json.Codec (Option UInt64) :=
  (Json.Codec.record "DlqConsumeQuery" (.cons (.optional "batch_size" .count) .done)).iso
    (fun (size, _) => size) (fun size => (size, ()))

/-- The greatest size of a batch. -/
def maxBatchSize : Nat := 100

/-- The size of a batch: as many as allowed if none or zero is asked for; `none` if more than that
is asked for. -/
def batchSize (requested : Option Nat) : Option Nat :=
  match requested with
  | none | some 0 => some maxBatchSize
  | some n => if maxBatchSize < n then none else some n

/-- The message for a size that is too great. -/
def batchTooLarge : String := "batch size cannot be greater than " ++ toString maxBatchSize

end PipelineConsole.DeadLetter
