import PipelineConsole.StatusStream.Feed

/-!
# Scripted sources of statuses

A scripted source does what a script tells: each attempt to open a stream takes the next entry of a
list, and each health check of a pipeline the next of its answers. Times are in milliseconds.

## Main definitions

* `ScriptedSource` — the script; `ScriptedSource.nextAttempt`, `ScriptedSource.nextCheck` consume it
-/

namespace PipelineConsole

/-- A step of a scripted stream, some time after the one before: an event, or a failure. -/
structure ScriptedEvent where
  after : Nat
  event : Option StatusEvent
  deriving DecidableEq, Repr

/-- What an attempt to open a stream comes to, after some time: a refusal, or a stream that stays
open or is closed after its events. -/
inductive ScriptedAttempt where
  | refuse (after : Nat)
  | serve (after : Nat) (events : List ScriptedEvent) (staysOpen : Bool)
  deriving DecidableEq, Repr

/-- The answer to a health check, after some time. -/
structure ScriptedCheck where
  after : Nat
  result : CheckResult

/-- A source that follows a script. -/
structure ScriptedSource where
  attempts : List ScriptedAttempt
  fallback : ScriptedAttempt
  checks : Table (List ScriptedCheck)

namespace ScriptedSource

/-- The next attempt; the fallback when the list is used up. -/
def nextAttempt (s : ScriptedSource) : ScriptedAttempt × ScriptedSource :=
  match s.attempts with
  | [] => (s.fallback, s)
  | a :: rest => (a, { s with attempts := rest })

/-- The answer for a pipeline that the script does not know. -/
def unknown : ScriptedCheck := ⟨0, .error ⟨404, "not found"⟩⟩

/-- The next answer for a pipeline; its last answer is repeated. -/
def nextCheck (s : ScriptedSource) (id : String) : ScriptedCheck × ScriptedSource :=
  match s.checks.get? id with
  | none | some [] => (unknown, s)
  | some [c] => (c, s)
  | some (c :: rest) => (c, { s with checks := s.checks.insert id rest })

/-- The next answers for some pipelines. -/
def nextChecks (s : ScriptedSource) :
    List String → List (String × ScriptedCheck) × ScriptedSource
  | [] => ([], s)
  | id :: rest =>
    let (c, s) := s.nextCheck id
    let (later, s) := nextChecks s rest
    ((id, c) :: later, s)

end ScriptedSource

end PipelineConsole
