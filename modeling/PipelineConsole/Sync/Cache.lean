import PipelineConsole.Fault.ErrorBody
import PipelineConsole.Pipeline.Lifecycle
import PipelineConsole.Table

/-!
# The status cache

The cache keeps the last known status of every pipeline. A status is confirmed by the orchestrator
or assumed after a user's action; an assumed status overrides the confirmed one until a
confirmation, a revert or the end of its life time. Whenever what a user sees of a pipeline changes,
the cache sends a notice.

A change of the cache is made in two steps: the entry is changed and the notice is drawn up, and
then the notice is sent. `Cache.change` is the first step; the operations return the notices in the
order in which they are sent.

## Main definitions

* `Override`, `CacheEntry`, `Cache` — the cache
* `CacheEntry.View` — what a user sees of a pipeline
* `CacheNotice` — what subscribers are told
* `Cache.change` — the change of an entry, with the notice that is due
* `Cache.assume`, `Cache.revert`, `Cache.confirm`, `Cache.fail`, `Cache.expire` — the operations
* `Subscription` — the notices that wait for a subscriber
-/

namespace PipelineConsole

/-- A status assumed after an action, with the time in milliseconds at which it was assumed. -/
structure Override where
  status : Status
  since : Nat
  deriving DecidableEq, Repr

/-- What is known about a pipeline. -/
structure CacheEntry where
  confirmed : Option Status := none
  override : Option Override := none
  error : Option ErrorBody := none
  deriving DecidableEq, Repr

namespace CacheEntry

/-- What a user sees: a status, and whether it is an assumed one. -/
structure View where
  status : Option Status
  isAssumed : Bool
  deriving DecidableEq, Repr

/-- The status to show: the override while there is one, the confirmed status otherwise. -/
def effective (e : CacheEntry) : Option Status :=
  match e.override with
  | some o => some o.status
  | none => e.confirmed

/-- What a user sees of the pipeline. -/
def view (e : CacheEntry) : View := ⟨e.effective, e.override.isSome⟩

/-- Whether there is an override that is at least `life` old. -/
def isStale (now life : Nat) (e : CacheEntry) : Bool :=
  match e.override with
  | some o => life ≤ now - o.since
  | none => false

end CacheEntry

/-- What subscribers are told. -/
inductive CacheNotice where
  | changed (id : String) (view : CacheEntry.View)
  | failed (id : String) (error : ErrorBody)
  deriving DecidableEq, Repr

/-- The cache: an entry for each pipeline that something is known about. -/
abbrev Cache := Table CacheEntry

namespace Cache

/-- Changes the entry of a pipeline, which is made if it is missing, and draws up the notice that is
due when the view has changed. -/
def change (c : Cache) (id : String) (f : CacheEntry → CacheEntry) : Cache × List CacheNotice :=
  let before := (c.get? id).getD {}
  let after := f before
  (c.insert id after, if before.view = after.view then [] else [.changed id after.view])

/-- Shows a status from now on, until something is confirmed. -/
def assume (c : Cache) (now : Nat) (id : String) (status : Status) : Cache × List CacheNotice :=
  c.change id fun e => { e with override := some ⟨status, now⟩ }

/-- Drops the override. -/
def revert (c : Cache) (id : String) : Cache × List CacheNotice :=
  c.change id fun e => { e with override := none }

/-- Takes over a confirmed status, which ends the override and any failure. -/
def confirm (c : Cache) (id : String) (status : Status) : Cache × List CacheNotice :=
  c.change id fun _ => ⟨some status, none, none⟩

/-- Records that the status of a pipeline cannot be had. -/
def fail (c : Cache) (id : String) (error : ErrorBody) : Cache × List CacheNotice :=
  let (c, notices) := c.change id fun e => { e with error := some error }
  (c, notices ++ [.failed id error])

/-- The pipelines whose override is at least `life` old. -/
def stale (c : Cache) (now life : Nat) : List String :=
  (c.entries.filter fun e => e.2.isStale now life).map Prod.fst

/-- Drops the overrides of the given pipelines that are at least `life` old. -/
def dropStale (c : Cache) (now life : Nat) : List String → Cache × List CacheNotice
  | [] => (c, [])
  | id :: rest =>
    let (c, notices) :=
      c.change id fun e => if e.isStale now life then { e with override := none } else e
    let (c, later) := dropStale c now life rest
    (c, notices ++ later)

/-- Drops the overrides that have reached their life time, and tells whose they were. Without a life
time none ever does. -/
def expire (c : Cache) (now : Nat) (life : Option Nat) :
    Cache × List CacheNotice × List String :=
  match life with
  | none => (c, [], [])
  | some life =>
    let ids := c.stale now life
    let (c, notices) := c.dropStale now life ids
    (c, notices, ids)

/-- The status to show for a pipeline. -/
def status (c : Cache) (id : String) : Option Status := (c.get? id) >>= CacheEntry.effective

/-- The statuses to show, for all pipelines that have one. -/
def snapshot (c : Cache) : List (String × Status) :=
  c.entries.filterMap fun (id, e) => e.effective.map (id, ·)

end Cache

/-- The notices that a subscriber has not taken yet. Only the newest are kept; how many older ones
are gone is counted. -/
structure Subscription where
  pending : List CacheNotice := []
  missed : Nat := 0
  deriving DecidableEq, Repr

namespace Subscription

/-- How many notices are kept for a subscriber. -/
def capacity : Nat := 256

/-- Adds notices for the subscriber. -/
def add (s : Subscription) (notices : List CacheNotice) : Subscription :=
  let all := s.pending ++ notices
  let excess := all.length - capacity
  ⟨all.drop excess, s.missed + excess⟩

end Subscription

end PipelineConsole
