import PipelineConsole.Proofs.Console.IdList
import PipelineConsole.Proofs.StatusStream.Wire
import PipelineConsole.Proofs.Sync.Polling
import PipelineConsole.Proofs.Sync.Streaming

/-!
# Streaming and polling report the same

A worker learns of the same rounds of checks in two ways: through a stream, on which only changes
are told, and by checking every pipeline itself. Either way its reports are those of a worker that
is told every status that a round finds, as long as no pipeline fails so often in a row that polling
gives it up.

## Main definitions

* `Worker.streamed`, `Worker.polled` — the updates on a stream and on rounds of checks

## Main results

* `streaming_matches_polling` — the updates are the same
-/

namespace PipelineConsole.Worker

open Feed (successes)
open TickingFeed (Tick results)
open Text.Utf8 (Bytes)

/-- What comes in to the worker as a stream is read. -/
def Input.ofRead : Except SourceError StatusEvent → Input
  | .ok e => .event e
  | .error _ => .streamFault

/-- The updates of a worker that opens a stream, whose octets come in chunks. -/
def streamed (config : TransportConfig) (lastSeen : Table Status) (watched : List String)
    (chunks : List Bytes) : List Update :=
  (run (attempt { config, watched, lastSeen, phase := .idle })
    (.opened :: (StatusEvent.ofChunks {} chunks).map Input.ofRead)).2

/-- The updates of a worker that has turned to polling, on some rounds of checks. -/
def polled (config : TransportConfig) (lastSeen : Table Status) (watched : List String)
    (rounds : List (String → CheckResult)) : List Update :=
  (run { config, watched, lastSeen, phase := .polling, mode := .polling }
    (rounds.flatMap (roundInputs watched))).2

/-- Streaming and polling report the same. A stream is asked for with the list of the watched ids,
and told the rounds of its feed with any heartbeats in between; polling makes the same rounds
itself. If no watched pipeline fails so often in a row that polling gives it up, the updates are the
same, whatever has been reported before. -/
theorem streaming_matches_polling (config : TransportConfig) (lastSeen : Table Status)
    {watched : List String} (hne : watched ≠ []) (hnodup : watched.Nodup)
    (hplain : ∀ id ∈ watched, IdList.Plain id) (pollPeriod heartbeatPeriod now : Nat)
    (ticks : List Tick) {chunks : List Bytes}
    (hchunks : chunks.flatten = StatusEvent.wire
      ((TickingFeed.start (IdList.read (String.intercalate "," watched)) pollPeriod heartbeatPeriod
        now).tells ticks))
    (hbudget : InBudget config watched (Tick.rounds ticks)) :
    streamed config lastSeen watched chunks =
      polled config lastSeen watched (Tick.rounds ticks) := by
  have hread := StatusEvent.ofChunks_wire hchunks
  rw [IdList.read_intercalate hplain hnodup] at hread
  -- The reference is a worker that is told all statuses that the rounds have found.
  let reference : Worker := { config, watched, lastSeen, phase := .idle }
  have hstreamed : streamed config lastSeen watched chunks = (reference.observeAll
      (successes ((Tick.rounds ticks).flatMap (results watched)))).2 := by
    have hopening : reference.attempt.phase = .opening watched :=
      if_neg fun hempty => hne (List.isEmpty_iff.1 hempty)
    have hopened : reference.attempt.step .opened =
        ({ reference.attempt with phase := .reading false }, []) := by
      unfold step
      rw [hopening]
    have hsame : Agree { reference.attempt with phase := .reading false } reference := ⟨rfl, rfl⟩
    have htold := observeAll_tells (TickingFeed.start watched pollPeriod heartbeatPeriod now)
      (reported_empty reference) ticks
    unfold streamed
    rw [hread, List.map_map, run_cons, hopened]
    exact (run_events hsame rfl _).trans (congrArg Prod.snd htold)
  have hpolls : Polls config []
      { config, watched, lastSeen, phase := .polling, mode := .polling } :=
    ⟨rfl, rfl, rfl, fun id _ => ⟨[], List.nil_suffix, fun _ h => absurd h List.not_mem_nil, rfl⟩⟩
  have hpolled : polled config lastSeen watched (Tick.rounds ticks) = (reference.observeAll
      (successes ((Tick.rounds ticks).flatMap (results watched)))).2 :=
    run_rounds hnodup ⟨rfl, rfl⟩ hpolls hbudget
  exact hstreamed.trans hpolled.symm

/-- Three rounds with a heartbeat in between; a check fails in the second one. -/
def threeRounds : List Tick :=
  let clock (n : Nat) : Timestamp := ⟨⟨2025, 6, 2, by decide⟩, 45000, n % 1000, by omega⟩
  [.round (fun _ => .ok .running) clock,
    .heartbeat 1500 (clock 1),
    .round (fun id => if id = "orders" then .error ⟨503, "down"⟩ else .ok .pausing)
      fun n => clock (n + 2),
    .round (fun _ => .ok .paused) fun n => clock (n + 4)]

/-- A status that was reported before the rounds is not reported again, on either way. -/
theorem threeRounds_reported :
    let octets := StatusEvent.wire
      ((TickingFeed.start (IdList.read (String.intercalate "," ["orders", "users"])) 1000 1500
        0).tells threeRounds)
    let before := Table.empty.insert "orders" .running
    let updates : List Update := [.status "users" .running, .status "users" .pausing,
      .status "orders" .paused, .status "users" .paused]
    polled {} before ["orders", "users"] (Tick.rounds threeRounds) = updates ∧
      streamed {} before ["orders", "users"] [octets.take 40, [], octets.drop 40] = updates := by
  intro octets before updates
  have hplain : ∀ id ∈ ["orders", "users"], IdList.Plain id := by
    intro id hid
    rcases List.mem_cons.1 hid with rfl | hid
    · exact ⟨by decide, by decide, by decide⟩
    · obtain rfl := List.mem_singleton.1 hid
      exact ⟨by decide, by decide, by decide⟩
  have hchunks : [octets.take 40, [], octets.drop 40].flatten = octets := by simp
  have hbudget : InBudget {} ["orders", "users"] (Tick.rounds threeRounds) :=
    fun id _ block hblock _ => Nat.lt_of_le_of_lt hblock.sublist.length_le (by decide)
  have hpolled : polled {} before ["orders", "users"] (Tick.rounds threeRounds) = updates := by
    decide
  exact ⟨hpolled, (streaming_matches_polling {} before (by decide) (by decide) hplain 1000 1500 0
    threeRounds hchunks hbudget).trans hpolled⟩

end PipelineConsole.Worker
