import PipelineConsole.Proofs.Sync.Delivery

/-!
# Updates that are left over when a pipeline is unwatched

When a pipeline is unwatched, updates of it may be queued, and the worker sends more of them until
it carries out the command that tells it. All of these are left over from the watch that has ended.
They are discarded as long as the pipeline is not watched. Whether an update is applied is decided
by what is watched when its turn comes, however, and not by when it was sent: if the pipeline is
watched again before then, a leftover counts as news.

Both queues are first in, first out. The leftovers are therefore the first updates of the queue, and
it is enough to count them.

## Main definitions

* `StatusSync.Leftover` — the commands up to the one that ends the watch, and the leftovers
* `StatusSync.appliedLeft` — the leftovers of a pipeline that a run applies
* `StatusSync.relisted` — whether a pipeline is watched again, from the calls alone

## Main results

* `Leftover.fits_run` — what is counted is what it should be
* `mem_watched_run` — the calls decide what is watched
* `leftovers_discarded_iff` — when the leftovers are discarded for good
* `rewatched_leftover_applied` — they are not when the pipeline is soon watched again
-/

namespace PipelineConsole.StatusSync

/-! ### Counting what is left over -/

/-- What is left of the time before the worker carries out a command that is queued: the commands
that it carries out up to this one, and the updates at the front of the queue that it has sent
before. -/
structure Leftover where
  commands : Nat
  updates : Nat
  deriving DecidableEq, Repr

namespace Leftover

/-- What is left over when a command has just been queued. -/
def behind (s : StatusSync) : Leftover := ⟨s.commands.length, s.updates.length⟩

/-- What is left over after an event. Once the command is carried out, nothing is added. -/
def step (l : Leftover) (s : StatusSync) (e : Event) : Leftover where
  commands := l.commands - (s.carriesOut e).toList.length
  updates := l.updates - e.takes + if l.commands = 0 then 0 else (s.sends e).length

/-- What is left over after a run. -/
def run (l : Leftover) (s : StatusSync) : List Event → Leftover
  | [] => l
  | e :: rest => run (l.step s e) (StatusSync.step s e) rest

/-- What is counted is what it should be: the last of the commands is the one in question, and until
it is carried out, all that is queued was sent before. -/
structure Fits (l : Leftover) (s : StatusSync) (c : Command) : Prop where
  last : ∀ n, l.commands = n + 1 → s.commands[n]? = some c
  all : l.commands ≠ 0 → l.updates = s.updates.length
  le : l.updates ≤ s.updates.length

section Fits

variable {s : StatusSync} {c : Command} {l : Leftover} {e : Event}

/-- The worker carries out the first of the commands; others may be queued behind them. -/
theorem commands_step (s : StatusSync) (e : Event) :
    ∃ more, (StatusSync.step s e).commands =
      s.commands.drop (s.carriesOut e).toList.length ++ more := by
  cases e with
  | announce id => exact ⟨[.watch id], rfl⟩
  | unwatch id => exact ⟨[.unwatch id], rfl⟩
  | obey =>
    refine ⟨[], ?_⟩
    rw [StatusSync.step, obey, carriesOut, List.append_nil]
    split
    · next hnone => simp [hnone]
    · next c rest hcommands =>
      rw [hcommands]
      split <;> simp_all [StatusSync.work]
  | work input =>
    refine ⟨[], ?_⟩
    cases input <;> exact (List.append_nil _).symm
  | applyNext =>
    refine ⟨[], ?_⟩
    rw [StatusSync.step, commands_applyNext, List.append_nil]
    rfl
  | _ => exact ⟨[], (List.append_nil _).symm⟩

/-- How many updates are queued after an event. -/
theorem length_updates_step (s : StatusSync) (e : Event) :
    (StatusSync.step s e).updates.length = s.updates.length - e.takes + (s.sends e).length := by
  rw [updates_step, List.length_append, List.length_drop]

theorem Fits.step (h : l.Fits s c) (e : Event) : (l.step s e).Fits (StatusSync.step s e) c where
  last n hn := by
    obtain ⟨more, hmore⟩ := commands_step s e
    have hbefore : l.commands = n + (s.carriesOut e).toList.length + 1 := by
      have hn : l.commands - (s.carriesOut e).toList.length = n + 1 := hn
      omega
    have hlast := h.last _ hbefore
    have hlt := (List.getElem?_eq_some_iff.1 hlast).1
    rw [hmore, List.getElem?_append_left (by rw [List.length_drop]; omega), List.getElem?_drop,
      Nat.add_comm, hlast]
  all hn := by
    have hbefore : l.commands ≠ 0 := fun hzero => hn (by simp [Leftover.step, hzero])
    rw [length_updates_step, Leftover.step, if_neg hbefore, h.all hbefore]
  le := by
    have hle := h.le
    rw [length_updates_step, Leftover.step]
    dsimp only
    split <;> omega

/-- Along every run, the count fits. -/
theorem fits_run (h : l.Fits s c) (events : List Event) :
    (l.run s events).Fits (StatusSync.run s events) c := by
  induction events generalizing s l with
  | nil => exact h
  | cons e rest ih => exact ih (h.step e)

end Fits

end Leftover

/-- The leftovers of a pipeline that an event applies to the cache. -/
def appliesLeft (s : StatusSync) (l : Leftover) (id : String) (e : Event) : List Update :=
  if l.updates = 0 then [] else (s.applies e).filter (·.id = id)

/-- The leftovers of a pipeline that a run applies to the cache. -/
def appliedLeft (s : StatusSync) (l : Leftover) (id : String) : List Event → List Update
  | [] => []
  | e :: rest => s.appliesLeft l id e ++ (step s e).appliedLeft (l.step s e) id rest

/-! ### What the calls say -/

/-- Whether a pipeline is watched after an event, from the event alone. -/
def listedAfter (id : String) (listed : Bool) : Event → Bool
  | .enlist other => listed || other = id
  | .unwatch other => listed && other ≠ id
  | _ => listed

/-- Whether a pipeline that is not watched is watched after a run: the last call about it
decides. -/
def relisted (id : String) (events : List Event) : Bool := events.foldl (listedAfter id) false

section Calls

variable {s : StatusSync} {id : String}

theorem watched_obey (s : StatusSync) : s.obey.watched = s.watched := by
  rw [obey]
  split
  · rfl
  · split <;> rfl

theorem mem_watched_step (s : StatusSync) (id : String) (e : Event) :
    decide (id ∈ (step s e).watched) = listedAfter id (decide (id ∈ s.watched)) e := by
  cases e with
  | enlist other =>
    simp only [step, enlist, IdSet.mem_insert, listedAfter, Bool.decide_or, eq_comm (a := id)]
    exact Bool.or_comm ..
  | unwatch other =>
    simp only [step, unwatch, IdSet.mem_erase, listedAfter, Bool.decide_and, ne_eq, eq_comm]
  | applyNext => simp only [step, watched_applyNext, listedAfter]
  | obey => simp only [step, watched_obey, listedAfter]
  | work input => cases input <;> rfl
  | _ => rfl

/-- The calls of a run decide what is watched after it. -/
theorem mem_watched_run (s : StatusSync) (id : String) (events : List Event) :
    decide (id ∈ (run s events).watched) =
      events.foldl (listedAfter id) (decide (id ∈ s.watched)) := by
  induction events generalizing s with
  | nil => rfl
  | cons e rest ih => rw [run_cons, ih, mem_watched_step, List.foldl_cons]

/-- A pipeline that is not watched is watched after a run if it is watched again. -/
theorem mem_watched_run_iff (h : id ∉ s.watched) (events : List Event) :
    id ∈ (run s events).watched ↔ relisted id events = true := by
  rw [relisted, ← decide_eq_false h, ← mem_watched_run, decide_eq_true_iff]

end Calls

/-! ### When leftovers are discarded -/

section Discarded

variable {s : StatusSync} {l : Leftover} {id : String}

/-- An event applies no leftover of a pipeline unless one is next and the pipeline is watched. -/
theorem appliesLeft_eq_nil_iff (e : Event) :
    s.appliesLeft l id e = [] ↔ (e = .applyNext → ∀ u, s.updates.head? = some u → u.id = id →
      l.updates ≠ 0 → id ∉ s.watched) := by
  have htaken (h : e.takes = 0) : s.appliesLeft l id e = [] := by
    rw [appliesLeft, applies, h]
    exact ite_self _
  -- Nothing but taking an update from the queue applies one.
  cases e with
  | applyNext =>
    rw [appliesLeft, applies, Event.takes]
    cases hqueue : s.updates with
    | nil => simp
    | cons u rest =>
      by_cases hid : u.id = id
      · subst hid
        simp
      · simp [hid]
  | _ => exact iff_of_true (htaken rfl) fun h => Event.noConfusion h

/-- A run applies no leftover of a pipeline unless the pipeline is watched when its turn comes. -/
theorem appliedLeft_eq_nil_iff (events : List Event) :
    s.appliedLeft l id events = [] ↔ ∀ earlier later, events = earlier ++ .applyNext :: later →
      ∀ u, (run s earlier).updates.head? = some u → u.id = id →
        (l.run s earlier).updates ≠ 0 → id ∉ (run s earlier).watched := by
  induction events generalizing s l with
  | nil => exact iff_of_true rfl fun earlier later h => by simp at h
  | cons e rest ih =>
    rw [appliedLeft, List.append_eq_nil_iff, appliesLeft_eq_nil_iff, ih]
    -- The update is taken by the first event, where nothing is earlier, or by one of the others.
    constructor
    · rintro ⟨hnow, hthen⟩ earlier later hsplit
      cases earlier with
      | nil =>
        obtain ⟨rfl, rfl⟩ := List.cons.inj hsplit
        exact hnow rfl
      | cons first earlier =>
        obtain ⟨rfl, hrest⟩ := List.cons.inj hsplit
        exact hthen earlier later hrest
    · intro h
      refine ⟨?_, fun earlier later hsplit => ?_⟩
      · rintro rfl
        exact h [] rest rfl
      · exact h (e :: earlier) later (congrArg (e :: ·) hsplit)

/-- After a pipeline has been unwatched, no update of it that the worker sent before it heard of
this is applied, if and only if the pipeline is not watched again, at each time at which such an
update is next. -/
theorem leftovers_discarded_iff (config : TransportConfig) (life : Option Nat) (ids : List String)
    (before : List Event) (id : String) (events : List Event) :
    let s := run (start config life ids) (before ++ [.unwatch id])
    s.appliedLeft (.behind s) id events = [] ↔
      ∀ earlier later, events = earlier ++ .applyNext :: later →
        ∀ u, (run s earlier).updates.head? = some u → u.id = id →
          ((Leftover.behind s).run s earlier).updates ≠ 0 → relisted id earlier = false := by
  intro s
  have hunwatched : id ∉ s.watched := by
    have hs : s = (run (start config life ids) before).unwatch id := run_append
    rw [hs]
    exact fun hmem => (IdSet.mem_erase.1 hmem).2 rfl
  rw [appliedLeft_eq_nil_iff]
  simp only [mem_watched_run_iff hunwatched, Bool.not_eq_true]

/-- The stream tells of a pipeline, which is then unwatched and watched again at once. -/
def quickReturn : List Event :=
  let time : Timestamp := ⟨⟨2025, 11, 20, by decide⟩, 52200, 0, by decide⟩
  [.work .opened, .work (.event (.statusUpdate ⟨"orders", .running, none⟩ time))]

/-- What the stream told is applied all the same. -/
theorem rewatched_leftover_applied :
    let s := run (start {} none ["orders"]) (quickReturn ++ [.unwatch "orders"])
    s.appliedLeft (.behind s) "orders" [.enlist "orders", .announce "orders", .applyNext] =
      [.status "orders" .running] := by
  decide

end Discarded

end PipelineConsole.StatusSync
