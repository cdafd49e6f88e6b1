import PipelineConsole.Proofs.Sync.Expiry
import PipelineConsole.Scenario.Tracking

/-!
# Scripted runs keep to the clock

A run against a scripted source jumps from one time at which something is due to the next. This is
one of the ways in which things can happen on a clock: no jump goes past a sweep, and when there is
nothing left to do, no sweep is due.

## Main definitions

* `Tracking.Deed` — what can be done to a run from outside
* `Tracking.Reached` — the states that runs of a script go through
* `Tracking.Mirrors` — a scripted run and a manager on a clock that have come equally far

## Main results

* `advance?_cases` — what the next thing can be
* `Mirrors.advance` — the next thing is done on the clock
* `reached_on_clock` — a scripted run keeps to the clock
* `Reached.settle` — to settle leads to a state in which nothing is left to do
* `override_age_lt` — how old overrides get in a run of a script
-/

namespace PipelineConsole

namespace StatusSync

open Clocked (Suits)

/-- To apply an update does not depend on what waits behind it. -/
theorem apply_with_updates (s : StatusSync) (u : Update) (waiting : List Update) :
    (apply { s with updates := waiting } u).1 = { (s.apply u).1 with updates := waiting } := by
  by_cases h : u.id ∈ s.watched
  · simp only [apply, h, if_true]
  · simp only [apply, h, if_false]

/-- To apply all updates is to apply one after the other. -/
theorem applyAll_eq_run (s : StatusSync) :
    s.applyAll.1 = s.run (List.replicate s.updates.length .applyNext) := by
  suffices hfold : ∀ (updates : List Update) (s : StatusSync) (notices : List CacheNotice),
      (updates.foldl (fun done u => ((done.1.apply u).1, done.2 ++ (done.1.apply u).2))
        ({ s with updates := [] }, notices)).1 =
      run { s with updates } (List.replicate updates.length .applyNext) from
    hfold s.updates s []
  intro updates
  -- The queue is emptied at the start of one side and step by step on the other.
  induction updates with
  | nil => exact fun _ _ => rfl
  | cons u rest ih =>
    intro s notices
    rw [List.foldl_cons, List.length_cons, List.replicate_succ, run_cons, step, applyNext]
    simp only [apply_with_updates]
    exact ih (s.apply u).1 _

namespace Clocked

variable {c : Clocked} {events : List Event} {happenings more : List Happening}

theorem onClock_append :
    c.OnClock (happenings ++ more) ↔ c.OnClock happenings ∧ (c.run happenings).OnClock more := by
  induction happenings generalizing c with
  | nil => exact (and_iff_right trivial).symm
  | cons h rest ih => exact (and_congr_right fun _ => ih).trans and_assoc.symm

theorem run_append : c.run (happenings ++ more) = (c.run happenings).run more := List.foldl_append

/-- Events that suit the time are on the clock. -/
theorem onClock_events (h : ∀ e ∈ events, Suits c.now e) : c.OnClock (events.map .event) := by
  induction events generalizing c with
  | nil => trivial
  | cons e rest ih =>
    exact ⟨h e List.mem_cons_self, ih fun e he => h e (List.mem_cons_of_mem _ he)⟩

theorem sync_run_events : (c.run (events.map .event)).sync = c.sync.run events := by
  induction events generalizing c with
  | nil => rfl
  | cons e rest ih => exact ih (c := c.step (.event e))

theorem now_run_events : (c.run (events.map .event)).now = c.now := by
  induction events generalizing c with
  | nil => rfl
  | cons e rest ih => exact ih (c := c.step (.event e))

/-- A worker that has not ended in the end has not ended before. -/
theorem running_of_run {s : StatusSync} (h : (s.run events).worker.phase ≠ .stopped) :
    s.worker.phase ≠ .stopped := by
  induction events generalizing s with
  | nil => exact h
  | cons e rest ih => exact running_of_step (ih h)

theorem sweeps_run_events : (c.run (events.map .event)).sweeps = c.sweeps := by
  induction events generalizing c with
  | nil => rfl
  | cons e rest ih => exact ih (c := c.step (.event e))

end Clocked

end StatusSync

namespace Tracking

open StatusSync (Clocked Event)
open StatusSync.Clocked (Suits)

/-! ### The parts of a run that a step leaves alone -/

section Frame

variable {t : Tracking} {before : Worker.Phase} {input : Worker.Input}

@[simp] theorem sync_arrange : (t.arrange before).sync = t.sync := by
  unfold arrange
  split <;> first | rfl | (split <;> rfl)

@[simp] theorem now_arrange : (t.arrange before).now = t.now := by
  unfold arrange
  split <;> first | rfl | (split <;> rfl)

@[simp] theorem appliesUpdates_arrange :
    (t.arrange before).appliesUpdates = t.appliesUpdates := by
  unfold arrange
  split <;> first | rfl | (split <;> rfl)

/-- The sweeps end with the worker. -/
theorem sweeps_arrange :
    (t.arrange before).sweeps = if t.sync.worker.phase = .stopped then none else t.sweeps := by
  unfold arrange
  split <;> simp_all [close] <;> split <;> rfl

theorem sync_deliver (h : t.appliesUpdates = true) : t.deliver.sync = t.sync.applyAll.1 := by
  rw [deliver, if_pos h]

theorem now_deliver (h : t.appliesUpdates = true) : t.deliver.now = t.now := by
  rw [deliver, if_pos h]

theorem sweeps_deliver (h : t.appliesUpdates = true) : t.deliver.sweeps = t.sweeps := by
  rw [deliver, if_pos h]

theorem appliesUpdates_deliver (h : t.appliesUpdates = true) : t.deliver.appliesUpdates = true := by
  rw [deliver, if_pos h]
  exact h

/-- What an input is taken from is the script or the rounds. -/
theorem consume_eq (input : Worker.Input) :
    ∃ owed ticker, t.consume input = { t with owed, ticker } := by
  unfold consume
  split <;> exact ⟨_, _, rfl⟩

end Frame

/-! ### The next thing -/

section Next

variable {t t' : Tracking} {limit time k : Nat} {input : Worker.Input}

theorem nextSweep_eq_some_iff :
    t.nextSweep = some (time, k) ↔
      ∃ life, t.sync.life = some life ∧ t.sweeps = some k ∧ StatusSync.sweepTime life k = time := by
  cases hlife : t.sync.life with
  | none => simp [nextSweep, hlife]
  | some life =>
    cases hsweeps : t.sweeps with
    | none => simp [nextSweep, hlife, hsweeps]
    | some l =>
      simp only [nextSweep, hlife, hsweeps, Option.pure_def, Option.bind_eq_bind, Option.bind_some,
        Option.some.injEq, Prod.mk.injEq, exists_eq_left']
      constructor
      · rintro ⟨rfl, rfl⟩
        exact ⟨rfl, rfl⟩
      · rintro ⟨rfl, rfl⟩
        exact ⟨rfl, rfl⟩

/-- Neither source nor clock gives commands. -/
theorem due_ne_command (h : t.due = some (time, input)) (c : Command) : input ≠ .command c := by
  rintro rfl
  unfold due at h
  split at h <;> simp only [Option.some.injEq, Prod.mk.injEq, reduceCtorEq, and_false] at h
  obtain ⟨-, h⟩ := h
  split at h <;> cases h

/-- What the next thing can be: the worker takes a command, or there is a sweep, or the worker takes
an input that is due before the next sweep. -/
theorem advance?_cases (h : t.advance? limit = some t') :
    t' = t.obey ∨
    (∃ time k, t.nextSweep = some (time, k) ∧ t' = { t with now := max t.now time }.sweep k) ∨
    (∃ time input, t.due = some (time, input) ∧
      (∀ next k, t.nextSweep = some (next, k) → time ≤ next) ∧
      t' = { t with now := max t.now time }.work input) := by
  unfold advance? at h
  split at h
  · exact .inl (Option.some.inj h).symm
  · split at h
    · next time k time' input hsweep hdue =>
      split at h
      · split at h
        · exact .inr (.inl ⟨time, k, hsweep, (Option.some.inj h).symm⟩)
        · cases h
      · next hlater =>
        split at h
        · refine .inr (.inr ⟨time', input, hdue, fun next l hnext => ?_, (Option.some.inj h).symm⟩)
          obtain ⟨rfl, -⟩ := Prod.mk.inj (Option.some.inj (hsweep.symm.trans hnext))
          exact Nat.le_of_not_le hlater
        · cases h
    · next time k hsweep hdue =>
      split at h
      · exact .inr (.inl ⟨time, k, hsweep, (Option.some.inj h).symm⟩)
      · cases h
    · next time input hsweep hdue =>
      split at h
      · refine .inr (.inr ⟨time, input, hdue, fun next l hnext => ?_, (Option.some.inj h).symm⟩)
        cases hsweep.symm.trans hnext
      · cases h
    · cases h

/-- Nothing is left to do up to a time if the worker takes no command and nothing is due by then. -/
theorem advance?_eq_none_iff :
    t.advance? limit = none ↔
      (t.sync.worker.takesCommands && !t.sync.commands.isEmpty) = false ∧
      (∀ time k, t.nextSweep = some (time, k) → limit < time) ∧
      (∀ time input, t.due = some (time, input) → limit < time) := by
  unfold advance?
  cases t.sync.worker.takesCommands && !t.sync.commands.isEmpty with
  | true => simp
  | false =>
    rcases t.nextSweep with _ | ⟨next, k⟩
    · rcases t.due with _ | ⟨time, input⟩ <;> simp
    · rcases t.due with _ | ⟨time, input⟩
      · simp
      · have hnone : ∀ swept worked : Tracking,
            (if next ≤ time then if next ≤ limit then some swept else none
              else if time ≤ limit then some worked else none) = none ↔
            limit < next ∧ limit < time := by
          intro swept worked
          split <;> simp only [ite_eq_right_iff, reduceCtorEq, imp_false, Nat.not_le] <;> omega
        simp [hnone]

/-- When there is nothing left to do up to a time, the next sweep is due later. -/
theorem lt_nextSweep_of_advance?_eq_none (h : t.advance? limit = none)
    (hnext : t.nextSweep = some (time, k)) : limit < time :=
  (advance?_eq_none_iff.1 h).2.1 time k hnext

/-- Whether there is anything left to do does not depend on the time that has passed. -/
theorem advance?_with_now (now : Nat) (h : t.advance? limit = none) :
    advance? { t with now } limit = none := by
  have hrest := advance?_eq_none_iff.1 h
  exact advance?_eq_none_iff.2 hrest

end Next

/-! ### Runs of a script -/

/-- What can be done to a run from outside. -/
inductive Deed where
  | watch (id : String)
  | unwatch (id : String)
  | assume (id : String) (status : Status)
  | act (id : String) (action : Action)
  | revert (id : String)
  | shutdown

/-- Does something to a run. -/
def perform (t : Tracking) : Deed → Tracking
  | .watch id => t.call fun s _ => (s.watch id, [])
  | .unwatch id => t.call fun s _ => (s.unwatch id, [])
  | .assume id status => t.call fun s now => s.assume now id status
  | .act id action => t.call fun s now => s.assumeAction now id action
  | .revert id => t.call fun s _ => s.revert id
  | .shutdown => t.shutdown

/-- A run that is about to start, with overrides that have a life time. -/
def ready (config : TransportConfig) (life : Nat) (ids : List String) (source : ScriptedSource) :
    Tracking where
  appliesUpdates := true
  sync := StatusSync.start config (some life) ids
  source
  ticker := ⟨0, config.pollInterval⟩
  sweeps := some 0

/-- A run that is about to start makes its first call and settles. -/
theorem start_eq_settle (config : TransportConfig) (life : Nat) (ids : List String)
    (source : ScriptedSource) :
    Tracking.start config (some life) ids source true =
      ((ready config life ids source).arrange .stopped).settle 0 maxSteps := rfl

/-- The states that the runs of a script go through: the next thing is done, or nothing is left to
do up to a time and the time passes, or something is done from outside. -/
inductive Reached (config : TransportConfig) (life : Nat) (ids : List String)
    (source : ScriptedSource) : Tracking → Prop where
  | start : Reached config life ids source ((ready config life ids source).arrange .stopped)
  | advance {t t' : Tracking} {limit : Nat} :
    Reached config life ids source t → t.advance? limit = some t' →
      Reached config life ids source t'
  | rest {t : Tracking} {limit : Nat} :
    Reached config life ids source t → t.advance? limit = none →
      Reached config life ids source { t with now := max t.now limit }
  | perform {t : Tracking} (d : Deed) :
    Reached config life ids source t → Reached config life ids source (t.perform d)

/-- The run settles with the steps that it is given. -/
def Settles (limit : Nat) : Tracking → (fuel : Nat) → Prop
  | _, 0 => False
  | t, fuel + 1 => ∀ t', t.advance? limit = some t' → Settles limit t' fuel

section Mirrors

open StatusSync (sweepTime)

/-- A manager on a clock and a run of a script have come equally far. -/
structure Mirrors (c : Clocked) (t : Tracking) : Prop where
  applies : t.appliesUpdates = true
  sync_eq : c.sync = t.sync
  now_eq : c.now = t.now
  sweeps_eq : t.sweeps = if c.Running then some c.sweeps else none

variable {c : Clocked} {t t' : Tracking} {life limit : Nat}

theorem Mirrors.nextSweep_iff (h : Mirrors c t) (hkept : c.Kept life) {time k : Nat} :
    t.nextSweep = some (time, k) ↔ c.Running ∧ c.sweeps = k ∧ sweepTime life c.sweeps = time := by
  have hlife : t.sync.life = some life := h.sync_eq ▸ hkept.life_eq
  rw [nextSweep_eq_some_iff, hlife, h.sweeps_eq]
  by_cases hrunning : c.Running
  · simp only [hrunning, if_true, true_and, Option.some_inj, exists_eq_left']
    exact and_congr_right fun hk => by rw [hk]
  · simp [hrunning]

/-- To let time pass is timely, up to the next sweep. -/
theorem Mirrors.wait (h : Mirrors c t) (hkept : c.Kept life) (time : Nat)
    (hnext : ∀ next k, t.nextSweep = some (next, k) → time ≤ next) :
    c.IsTimely (.wait (max t.now time)) ∧
      Mirrors (c.step (.wait (max t.now time))) { t with now := max t.now time } := by
  refine ⟨⟨h.now_eq ▸ Nat.le_max_left .., fun hrunning next hdue => ?_⟩, ?_⟩
  · have hnow := hkept.punctual hrunning
    have htime := hnext _ _ ((h.nextSweep_iff hkept).2 ⟨hrunning, rfl, rfl⟩)
    rw [StatusSync.Clocked.due?, hkept.life_eq] at hdue
    obtain rfl := Option.some.inj hdue
    exact Nat.max_le.2 ⟨h.now_eq ▸ hnow, htime⟩
  · exact ⟨h.applies, h.sync_eq, rfl, h.sweeps_eq⟩

/-- Events happen at once, and the sweeps end if the worker does. -/
theorem Mirrors.events (h : Mirrors c t) (events : List Event)
    (hsuits : ∀ e ∈ events, Suits t.now e) (happlies : t'.appliesUpdates = true)
    (hsync : t'.sync = t.sync.run events) (hnow : t'.now = t.now)
    (hsweeps : t'.sweeps = if t'.sync.worker.phase = .stopped then none else t.sweeps) :
    c.OnClock (events.map .event) ∧ Mirrors (c.run (events.map .event)) t' := by
  have hrun : (c.run (events.map .event)).sync = t'.sync := by
    rw [StatusSync.Clocked.sync_run_events, hsync, h.sync_eq]
  refine ⟨StatusSync.Clocked.onClock_events (h.now_eq ▸ hsuits), happlies, hrun, ?_, ?_⟩
  · rw [StatusSync.Clocked.now_run_events, hnow, h.now_eq]
  · rw [hsweeps, h.sweeps_eq, StatusSync.Clocked.sweeps_run_events]
    by_cases hphase : t'.sync.worker.phase = .stopped
    · have hended : ¬ (c.run (events.map .event)).Running := fun hrunning =>
        hrunning (hrun ▸ hphase)
      rw [if_pos hphase, if_neg hended]
    · have hgoes : (c.run (events.map .event)).Running := fun hstopped => hphase (hrun ▸ hstopped)
      have hrunning : c.Running := by
        have hends : (c.sync.run events).worker.phase ≠ .stopped := by
          rwa [h.sync_eq, ← hsync]
        exact StatusSync.Clocked.running_of_run hends
      rw [if_neg hphase, if_pos hrunning, if_pos hgoes]

/-- The worker takes an input, its updates are applied, and what it waits for is arranged. -/
theorem Mirrors.input (h : Mirrors c t) {e : Event} (hsuits : Suits t.now e) (t' : Tracking)
    (happlies : t'.appliesUpdates = true) (hsync : t'.sync = t.sync.step e) (hnow : t'.now = t.now)
    (hsweeps : t'.sweeps = t.sweeps) (before : Worker.Phase) :
    ∃ happenings, c.OnClock happenings ∧
      Mirrors (c.run happenings) (t'.deliver.arrange before) := by
  -- The input, and then one application for each update that waits.
  let events := e :: List.replicate t'.sync.updates.length .applyNext
  refine ⟨events.map .event, h.events events (fun e' he' => ?_) ?_ ?_ ?_ ?_⟩
  · rcases List.mem_cons.1 he' with rfl | he'
    · exact hsuits
    · rw [List.eq_of_mem_replicate he']
      trivial
  · rw [appliesUpdates_arrange, appliesUpdates_deliver happlies]
  · rw [sync_arrange, sync_deliver happlies, StatusSync.applyAll_eq_run, StatusSync.run_cons, hsync]
  · rw [now_arrange, now_deliver happlies, hnow]
  · rw [sweeps_arrange, sweeps_deliver happlies, hsweeps, sync_arrange]

/-- The next thing that is done in a run of a script is done on the clock. -/
theorem Mirrors.advance (h : Mirrors c t) (hkept : c.Kept life)
    (hadvance : t.advance? limit = some t') :
    ∃ happenings, c.OnClock happenings ∧ Mirrors (c.run happenings) t' := by
  rcases advance?_cases hadvance with rfl | ⟨time, k, hsweep, rfl⟩ | ⟨time, input, hdue, hnext, rfl⟩
  · exact h.input (e := .obey) trivial { t with sync := t.sync.obey } h.applies rfl rfl rfl _
  · obtain ⟨hrunning, hk, htime⟩ := (h.nextSweep_iff hkept).1 hsweep
    obtain ⟨htimely, hwaited⟩ := h.wait hkept time fun next k hnext => by
      cases hsweep.symm.trans hnext
      exact Nat.le_refl _
    have hdue : time ∈ c.due? := by
      rw [StatusSync.Clocked.due?, hkept.life_eq, Option.map_some, htime]
      rfl
    refine ⟨[.wait (max t.now time), .sweep],
      ⟨htimely, ⟨time, hdue, Nat.le_max_right ..⟩, trivial⟩, h.applies, ?_, rfl, ?_⟩
    · show (c.sync.expire (max t.now time)).1 = (t.sync.expire (max t.now time)).1
      rw [h.sync_eq]
    · show some (k + 1) = if c.Running then some (c.sweeps + 1) else none
      rw [if_pos hrunning, hk]
  · obtain ⟨htimely, hwaited⟩ := h.wait hkept time hnext
    obtain ⟨owed, ticker, hconsume⟩ := consume_eq (t := { t with now := max t.now time }) input
    have hinput : (StatusSync.step t.sync (.work input)) = t.sync.work input := by
      cases input with
      | command cmd => exact absurd rfl (due_ne_command hdue cmd)
      | _ => rfl
    obtain ⟨happenings, hclock, hmirrors⟩ :=
      hwaited.input (e := .work input) trivial
        { t with now := max t.now time, owed, ticker, sync := t.sync.work input }
        h.applies hinput.symm rfl rfl t.sync.worker.phase
    refine ⟨.wait (max t.now time) :: happenings, ⟨htimely, hclock⟩, ?_⟩
    rw [work, hconsume]
    exact hmirrors

/-- What is done from outside happens on the clock. -/
theorem Mirrors.perform (h : Mirrors c t) (d : Deed) :
    ∃ happenings, c.OnClock happenings ∧ Mirrors (c.run happenings) (t.perform d) := by
  -- No call ends the worker, and if it has ended there are no sweeps any more.
  have hsweeps : t.sweeps = if t.sync.worker.phase = .stopped then none else t.sweeps := by
    split
    · next hphase =>
      have hended : ¬ c.Running := fun hrunning => hrunning (h.sync_eq ▸ hphase)
      rw [h.sweeps_eq, if_neg hended]
    · rfl
  cases d with
  | shutdown =>
    have hsync : (c.step .shutdown).sync = t.shutdown.sync := by
      show { c.sync with worker := c.sync.worker.stop } = _
      rw [h.sync_eq]
      rfl
    exact ⟨[.shutdown], ⟨trivial, trivial⟩, h.applies, hsync, h.now_eq, rfl⟩
  | watch id =>
    refine ⟨_, h.events [.enlist id, .announce id] ?_ h.applies rfl rfl hsweeps⟩
    simp [Suits]
  | unwatch id => exact ⟨_, h.events [.unwatch id] (by simp [Suits]) h.applies rfl rfl hsweeps⟩
  | assume id status =>
    exact ⟨_, h.events [.assume t.now id status] (by simp [Suits]) h.applies rfl rfl hsweeps⟩
  | act id action =>
    exact ⟨_, h.events [.assumeAction t.now id action] (by simp [Suits]) h.applies rfl rfl hsweeps⟩
  | revert id => exact ⟨_, h.events [.revert id] (by simp [Suits]) h.applies rfl rfl hsweeps⟩

/-- When there is nothing left to do, no sweep is due. -/
theorem Mirrors.isSettled (h : Mirrors c t) (hkept : c.Kept life)
    (hrest : t.advance? limit = none) (hnow : t.now ≤ limit) : c.IsSettled := by
  intro hrunning next hdue
  rw [StatusSync.Clocked.due?, hkept.life_eq] at hdue
  obtain rfl := Option.some.inj hdue
  have hnext := (h.nextSweep_iff hkept).2 ⟨hrunning, rfl, rfl⟩
  calc c.now = t.now := h.now_eq
    _ ≤ limit := hnow
    _ < _ := lt_nextSweep_of_advance?_eq_none hrest hnext

end Mirrors

section Reached

open StatusSync.Clocked (kept_start kept_run onClock_append run_append)

variable {config : TransportConfig} {life : Nat} {ids : List String} {source : ScriptedSource}
  {t : Tracking}

theorem mirrors_ready :
    Mirrors (.start config life ids) ((ready config life ids source).arrange .stopped) where
  applies := appliesUpdates_arrange
  sync_eq := (sync_arrange (t := ready config life ids source)).symm
  now_eq := (now_arrange (t := ready config life ids source)).symm
  sweeps_eq := by
    have hphase : (Worker.start config ids).phase ≠ .stopped := by
      rw [Worker.start, Worker.attempt]
      split <;> exact Worker.Phase.noConfusion
    have hrunning : (Clocked.start config life ids).Running := hphase
    rw [sweeps_arrange, if_pos hrunning]
    exact if_neg hphase

/-- A run of a script keeps to the clock. -/
theorem reached_on_clock (h : Reached config life ids source t) :
    ∃ happenings, (Clocked.start config life ids).OnClock happenings ∧
      Mirrors ((Clocked.start config life ids).run happenings) t := by
  induction h with
  | start => exact ⟨[], trivial, mirrors_ready⟩
  | advance _ hadvance ih =>
    obtain ⟨happenings, hclock, hmirrors⟩ := ih
    have hkept := kept_run (kept_start config ids) hclock
    obtain ⟨more, hmore, hnext⟩ := hmirrors.advance hkept hadvance
    exact ⟨happenings ++ more, onClock_append.2 ⟨hclock, hmore⟩, run_append ▸ hnext⟩
  | rest _ hrest ih =>
    obtain ⟨happenings, hclock, hmirrors⟩ := ih
    have hkept := kept_run (kept_start config ids) hclock
    obtain ⟨htimely, hnext⟩ := hmirrors.wait hkept _ fun next k hnext =>
      Nat.le_of_lt (lt_nextSweep_of_advance?_eq_none hrest hnext)
    exact ⟨happenings ++ [.wait _], onClock_append.2 ⟨hclock, htimely, trivial⟩,
      run_append ▸ hnext⟩
  | perform d _ ih =>
    obtain ⟨happenings, hclock, hmirrors⟩ := ih
    obtain ⟨more, hmore, hnext⟩ := hmirrors.perform d
    exact ⟨happenings ++ more, onClock_append.2 ⟨hclock, hmore⟩, run_append ▸ hnext⟩

/-- To settle is to do one thing after the other. -/
theorem Reached.settle {limit fuel : Nat} (h : Reached config life ids source t)
    (hsettles : Settles limit t fuel) :
    Reached config life ids source (t.settle limit fuel) ∧
      (t.settle limit fuel).advance? limit = none := by
  induction fuel generalizing t with
  | zero => exact hsettles.elim
  | succ fuel ih =>
    rw [Tracking.settle]
    split
    · next t' hadvance => exact ih (.advance h hadvance) (hsettles t' hadvance)
    · next hrest => exact ⟨.rest h hrest, advance?_with_now _ hrest⟩

/-- When a run of a script has come to rest and its worker has not ended, no override is older than
its life time and the time between two sweeps together. -/
theorem override_age_lt {limit : Nat} (h : Reached config life ids source t)
    (hrest : t.advance? limit = none) (hnow : t.now ≤ limit)
    (hrunning : t.sync.worker.phase ≠ .stopped) {id : String} {o : Override}
    (ho : (t.sync.cache.entry id).override = some o) :
    2 * (t.now - o.since) < 2 * life + max life 200 := by
  obtain ⟨happenings, hclock, hmirrors⟩ := reached_on_clock h
  have hkept := kept_run (kept_start config ids) hclock
  rw [← hmirrors.now_eq]
  rw [← hmirrors.sync_eq] at hrunning ho
  exact hkept.age_lt hrunning (hmirrors.isSettled hkept hrest hnow) ho

end Reached

end Tracking

end PipelineConsole
