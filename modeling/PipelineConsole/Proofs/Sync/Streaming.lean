import PipelineConsole.Proofs.StatusStream.Rounds
import PipelineConsole.Proofs.Sync.Agreement

/-!
# Reports on a stream

A stream tells changes only, and the worker reports changes only. What the stream has told already,
the worker has reported already; so the changes make it report what it would report if it were told
every status that the rounds of the feed have found.

## Main definitions

* `Worker.Reported` — the worker has reported all that the stream has told

## Main results

* `observeAll_observe`, `observeAll_tells` — what a round tells, and what a stream tells, amounts to
  the statuses that were found
* `run_events` — a worker that reads a stream reports the changes that the events carry
-/

namespace PipelineConsole.Worker

open Feed (Seen successes)
open TickingFeed (Tick results)

variable {w v : Worker} {seen : Seen}

/-- What the listener of a stream has been told of a watched pipeline, the worker has reported. -/
def Reported (seen : Seen) (w : Worker) : Prop :=
  ∀ id ∈ w.watched, ∀ status, seen.statuses.get? id = some status →
    w.lastSeen.get? id = some status

theorem reported_empty (w : Worker) : Reported {} w :=
  fun _ _ _ h => absurd h (by simp)

/-- After a status has come in, the worker has reported it. -/
theorem get?_lastSeen_observe {id : String} (hid : id ∈ w.watched) (status : Status) :
    (w.observe id status).1.lastSeen.get? id = some status := by
  unfold observe
  split
  · next h => exact h.resolve_left fun hnot => hnot hid
  · exact (Table.get?_insert ..).trans (if_pos rfl)

theorem get?_lastSeen_observe_of_ne {id i : String} (hne : i ≠ id) (status : Status) :
    (w.observe id status).1.lastSeen.get? i = w.lastSeen.get? i := by
  unfold observe
  split
  · rfl
  · exact (Table.get?_insert ..).trans (if_neg hne)

/-- A status that the listener has been told already is nothing new for the worker. -/
theorem observe_of_reported (h : Reported seen w) {id : String} {status : Status}
    (hseen : seen.statuses.get? id = some status) : w.observe id status = (w, []) := by
  refine if_pos ?_
  by_cases hid : id ∈ w.watched
  · exact .inr (h id hid status hseen)
  · exact .inl hid

theorem Reported.observe (h : Reported seen w) (id : String) (status : Status)
    (errors : Table ErrorBody) :
    Reported ⟨seen.statuses.insert id status, errors⟩ (w.observe id status).1 := by
  intro i hi st hst
  rw [watched_observe] at hi
  rw [Table.get?_insert] at hst
  by_cases heq : i = id
  · subst heq
    rw [if_pos rfl] at hst
    rw [get?_lastSeen_observe hi, hst]
  · rw [if_neg heq] at hst
    rw [get?_lastSeen_observe_of_ne heq]
    exact h i hi st hst

/-- The changes that a round tells make the worker report what it would report on all statuses that
the round has found. -/
theorem observeAll_observe (h : Reported seen w) (found : List (String × CheckResult)) :
    w.observeAll (seen.observe found).2.1 = w.observeAll (successes found) ∧
      Reported (seen.observe found).1 (w.observeAll (successes found)).1 := by
  induction found generalizing seen w with
  | nil => exact ⟨rfl, h⟩
  | cons first found ih =>
    obtain ⟨id, result⟩ := first
    cases result with
    | error error =>
      obtain ⟨hnone, hstatuses⟩ := Feed.observeOne_error seen id error
      have hreported : Reported (seen.observeOne id (.error error)).1 w := by
        unfold Reported
        rw [hstatuses]
        exact h
      obtain ⟨hlater, hlast⟩ := ih hreported
      rw [Seen.observe]
      dsimp only
      rw [hnone, List.nil_append, Feed.successes_error]
      exact ⟨hlater, hlast⟩
    | ok status =>
      have hreported := h.observe id status (seen.errors.erase id)
      obtain ⟨hlater, hlast⟩ := ih hreported
      rw [Seen.observe]
      dsimp only [Seen.observeOne]
      rw [Feed.successes_ok, observeAll_cons]
      refine ⟨?_, hlast⟩
      split
      · next hseen =>
        rw [List.nil_append]
        rw [observe_of_reported h hseen] at hlater ⊢
        rw [hlater, List.nil_append]
      · rw [List.singleton_append, observeAll_cons, hlater]

/-- What a stream tells makes the worker report what it would report on all statuses that the rounds
have found. -/
theorem observeAll_tells (t : TickingFeed) (h : Reported t.feed.seen w) (ticks : List Tick) :
    w.observeAll ((t.tells ticks).flatMap StatusEvent.changes) =
      w.observeAll (successes ((Tick.rounds ticks).flatMap (results t.ids))) := by
  induction ticks generalizing t w with
  | nil => rfl
  | cons tick ticks ih =>
    rw [TickingFeed.tells, List.flatMap_append]
    cases tick with
    | heartbeat now time => exact ih (t.beat now time).1 h
    | round answers clock =>
      obtain ⟨hround, hreported⟩ := observeAll_observe h (results t.ids answers)
      have hlater := ih (t.finish (results t.ids answers) clock).1 hreported
      have hchanges := Feed.changes_round t.feed (results t.ids answers) clock
      have hfound : (Tick.rounds (.round answers clock :: ticks)).flatMap (results t.ids) =
          results t.ids answers ++ (Tick.rounds ticks).flatMap (results t.ids) := rfl
      show w.observeAll ((t.feed.round (results t.ids answers) clock).2.flatMap _ ++ _) = _
      rw [hfound, hchanges, observeAll_append, hround, Feed.successes_append, observeAll_append]
      exact congrArg (fun last => (last.1, _ ++ last.2)) hlater

theorem step_event {delivered : Bool} (hphase : w.phase = .reading delivered) (e : StatusEvent) :
    w.step (.event e) =
      { w with
        phase := .reading true
        streamFailures := if delivered then w.streamFailures else 0 }.observeAll e.changes := by
  unfold step
  rw [hphase]

/-- A worker that reads a stream reports the changes that the events carry. -/
theorem run_events (h : Agree w v) {delivered : Bool} (hphase : w.phase = .reading delivered)
    (events : List StatusEvent) :
    (w.run (events.map .event)).2 = (v.observeAll (events.flatMap StatusEvent.changes)).2 := by
  induction events generalizing w v delivered with
  | nil => rfl
  | cons e events ih =>
    rw [List.map_cons, run_cons, step_event hphase, List.flatMap_cons, observeAll_append]
    -- An event changes the phase and the count of failures, which no report looks at.
    have hsame : Agree { w with
        phase := .reading true
        streamFailures := if delivered then w.streamFailures else 0 } v := ⟨h.watched, h.lastSeen⟩
    obtain ⟨hnext, hnow⟩ := hsame.observeAll e.changes
    have hlater := ih hnext ((phase_observeAll e.changes).trans rfl)
    dsimp only
    rw [hnow, hlater]

end PipelineConsole.Worker
