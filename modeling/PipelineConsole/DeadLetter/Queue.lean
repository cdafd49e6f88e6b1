import PipelineConsole.DeadLetter.Message

/-!
# Queues of dead letters

A queue starts with some messages, hands them out in batches from the front and can be purged. Its
counters are kept beside the messages.

## Main definitions

* `DeadLetter.Queue`, `Queue.seeded`, `Queue.consume`, `Queue.purge` — queues and their operations
-/

namespace PipelineConsole.DeadLetter

/-- A queue of messages, oldest first, with its counters. -/
structure Queue where
  messages : List Message := []
  state : State := {}
  deriving DecidableEq, Repr

namespace Queue

/-- A queue that has just received some messages. -/
def seeded (messages : List Message) (now : Timestamp) : Queue where
  messages
  state :=
    { receivedAt := if messages.isEmpty then none else some now
      consumedAt := none
      total := .ofNat messages.length
      unconsumed := .ofNat messages.length }

/-- Takes a batch of at most `size` messages from the front. An empty batch changes nothing. -/
def consume (q : Queue) (size : Nat) (now : Timestamp) : List Message × Queue :=
  let batch := q.messages.take size
  if batch.isEmpty then (batch, q)
  else
    let rest := q.messages.drop size
    (batch, ⟨rest, { q.state with consumedAt := some now, unconsumed := .ofNat rest.length }⟩)

/-- Drops all messages. -/
def purge (q : Queue) : Queue := ⟨[], { q.state with unconsumed := 0 }⟩

end Queue

end PipelineConsole.DeadLetter
