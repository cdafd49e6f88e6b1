import PipelineConsole.Proofs.Sync.History
import PipelineConsole.Proofs.Sync.Run

/-!
# How long overrides live

Overrides that have a life time are dropped by sweeps, which come at a fixed rhythm: half a life
time apart, but no less than 100 ms. The rhythm has nothing to do with when overrides are set, so an
override that just misses a sweep lives on to the next one. That bounds its age: it is gone before
it is older than its life time and the time between two sweeps together.

Sweeps end with the worker, so an override that is set after a shutdown stays.

## Main definitions

* `StatusSync.makes` — the call of the cache that an event makes
* `StatusSync.Clocked`, `Clocked.Happening`, `Clocked.OnClock` — a manager on a clock, and its runs
* `Clocked.Running`, `Clocked.IsSettled` — whether there are sweeps, and whether none is due

## Main results

* `cache_step` — the cache after an event is the one after its call
* `Kept.step`, `kept_run` — what holds of overrides and sweeps along a run
* `overrides_expire_in_time` — how long an override lives
* `override_outlives_shutdown` — an override that stays
-/

namespace PipelineConsole

/-- The call of the cache that applies an update. -/
def Update.call : Update → Cache.Call
  | .status id st => .confirm id st
  | .failed id error => .fail id error

namespace StatusSync

open Cache (Call EndsOverride)

/-! ### The calls that events make -/

/-- The call of the cache that an event makes, if it makes one, with its time if that matters. -/
def makes (s : StatusSync) : Event → Option (Nat × Call)
  | .unwatch id => some (0, .remove id)
  | .assume now id status => some (now, .assume id status)
  | .assumeAction now id action => some (now, .assume id action.optimistic)
  | .revert id => some (0, .revert id)
  | .applyNext => ((s.updates.head?).filter (·.id ∈ s.watched)).map fun u => (0, u.call)
  | .expire now => some (now, .expire)
  | .enlist _ | .announce _ | .obey | .work _ => none

/-- The cache after an update is the one after its call, if its pipeline is watched. -/
theorem cache_apply_call (s : StatusSync) (u : Update) :
    (s.apply u).1.cache =
      if u.id ∈ s.watched then (s.cache.perform s.life 0 u.call).1 else s.cache := by
  unfold apply
  split
  · cases u <;> rfl
  · rfl

/-- The cache after an event is the one after its call. -/
theorem cache_step (s : StatusSync) (e : Event) :
    (step s e).cache =
      match s.makes e with
      | none => s.cache
      | some (now, call) => (s.cache.perform s.life now call).1 := by
  cases e with
  | obey =>
    rw [step, obey]
    split
    · rfl
    · split <;> rfl
  | work input => cases input <;> rfl
  | applyNext =>
    rw [step, applyNext, makes]
    split
    · next h => simp [h]
    · next u rest h =>
      refine (cache_apply_call { s with updates := rest } u).trans ?_
      rw [h, List.head?_cons]
      by_cases hmem : u.id ∈ s.watched
      · rw [if_pos hmem, Option.filter_some_pos (by simpa using hmem)]
        rfl
      · rw [if_neg hmem, Option.filter_some_neg (by simpa using hmem)]
        rfl
  | _ => rfl

/-! ### Runs on a clock -/

/-- A manager on a clock, with the number of the sweeps that there have been, and the time at which
a status of each pipeline was assumed last. -/
structure Clocked where
  sync : StatusSync
  now : Nat := 0
  sweeps : Nat := 0
  assumedAt : String → Option Nat := fun _ => none

namespace Clocked

/-- What can happen on a clock: an event, a sweep, the end of worker and sweeps, or time passes. -/
inductive Happening where
  | event (e : Event)
  | sweep
  | shutdown
  | wait (time : Nat)

/-- The pipeline of which an event assumes a status. -/
def assumes? : Event → Option String
  | .assume _ id _ | .assumeAction _ id _ => some id
  | _ => none

/-- The manager after something has happened. -/
def step (c : Clocked) : Happening → Clocked
  | .event e =>
    { c with
      sync := c.sync.step e
      assumedAt := fun id => if assumes? e = some id then some c.now else c.assumedAt id }
  | .sweep => { c with sync := (c.sync.expire c.now).1, sweeps := c.sweeps + 1 }
  | .shutdown => { c with sync := { c.sync with worker := c.sync.worker.stop } }
  | .wait time => { c with now := time }

/-- The manager after some things have happened. -/
def run (c : Clocked) (happenings : List Happening) : Clocked := happenings.foldl step c

/-- What is assumed about a pipeline, and since when. -/
def override (c : Clocked) (id : String) : Option Override := (c.sync.cache.entry id).override

/-- The worker has not ended. Until it does, its updates are applied and there are sweeps. -/
def Running (c : Clocked) : Prop := c.sync.worker.phase ≠ .stopped

instance (c : Clocked) : Decidable c.Running := inferInstanceAs (Decidable (_ ≠ _))

/-- The time at which the next sweep is due. -/
def due? (c : Clocked) : Option Nat := c.sync.life.map (sweepTime · c.sweeps)

/-- No sweep is due that has not been made. -/
def IsSettled (c : Clocked) : Prop := c.Running → ∀ time ∈ c.due?, c.now < time

instance (c : Clocked) : Decidable c.IsSettled := inferInstanceAs (Decidable (_ → _))

/-- The time that an event is given is the time of the clock. Sweeps are no events here. -/
def Suits (now : Nat) : Event → Prop
  | .assume time _ _ | .assumeAction time _ _ => time = now
  | .expire _ => False
  | _ => True

instance (now : Nat) : DecidablePred (Suits now)
  | .assume .. | .assumeAction .. => inferInstanceAs (Decidable (_ = _))
  | .expire _ => .isFalse id
  | .enlist _ | .announce _ | .unwatch _ | .revert _ | .obey | .work _ | .applyNext =>
    .isTrue trivial

/-- The clock does not go past a sweep that has not been made, and no sweep is made before it is
due. -/
def IsTimely (c : Clocked) : Happening → Prop
  | .event e => Suits c.now e
  | .sweep => ∃ time ∈ c.due?, time ≤ c.now
  | .shutdown => True
  | .wait time => c.now ≤ time ∧ (c.Running → ∀ next ∈ c.due?, time ≤ next)

instance (c : Clocked) : DecidablePred c.IsTimely
  | .event e => inferInstanceAs (Decidable (Suits c.now e))
  | .sweep => inferInstanceAs (Decidable (∃ time ∈ c.due?, time ≤ c.now))
  | .shutdown => .isTrue trivial
  | .wait _ => inferInstanceAs (Decidable (_ ∧ _))

/-- All that happens keeps to the clock. -/
def OnClock : Clocked → List Happening → Prop
  | _, [] => True
  | c, h :: rest => c.IsTimely h ∧ OnClock (c.step h) rest

instance decidableOnClock : (c : Clocked) → (happenings : List Happening) →
    Decidable (c.OnClock happenings)
  | _, [] => .isTrue trivial
  | c, h :: rest =>
    have := decidableOnClock (c.step h) rest
    inferInstanceAs (Decidable (_ ∧ _))

/-- A manager that starts at time zero, with overrides that have a life time. -/
def start (config : TransportConfig) (life : Nat) (ids : List String) : Clocked where
  sync := StatusSync.start config (some life) ids

/-! ### What holds along a run -/

/-- What assumes a status is an event that does so, at the time of the clock. -/
theorem assumes?_of_makes {s : StatusSync} {e : Event} {now time : Nat} {id : String} {st : Status}
    (hsuits : Suits now e) (h : s.makes e = some (time, .assume id st)) :
    assumes? e = some id ∧ time = now := by
  cases e with
  | assume | assumeAction =>
    cases h
    exact ⟨rfl, hsuits⟩
  | applyNext =>
    obtain ⟨u, -, hu⟩ := Option.map_eq_some_iff.1 h
    cases u <;> cases hu
  | _ => cases h

/-- An override after an event has been set by the event, or was there before and the event has set
no other. -/
theorem override_of_step {s : StatusSync} {e : Event} {now since : Nat} {id : String} {st : Status}
    (hsuits : Suits now e) (h : ((s.step e).cache.entry id).override = some ⟨st, since⟩) :
    assumes? e = some id ∧ since = now ∨
      assumes? e ≠ some id ∧ (s.cache.entry id).override = some ⟨st, since⟩ := by
  rw [cache_step] at h
  cases hmakes : s.makes e with
  | none =>
    rw [hmakes] at h
    refine .inr ⟨fun hassumes => ?_, h⟩
    cases e <;> cases hassumes <;> cases hmakes
  | some made =>
    obtain ⟨time, call⟩ := made
    rw [hmakes, Cache.entry, Cache.get?_perform, Cache.override_effect_iff] at h
    rcases h with hmade | ⟨hbefore, hends⟩
    · obtain ⟨rfl, rfl⟩ := Prod.mk.inj hmade
      exact .inl (assumes?_of_makes hsuits hmakes)
    · refine .inr ⟨fun hassumes => hends ?_, hbefore⟩
      cases e <;> cases hassumes <;> cases hmakes <;> rfl

/-- An override after a sweep was there before, and was younger than its life time. -/
theorem override_of_sweep {s : StatusSync} {life now since : Nat} {id : String} {st : Status}
    (hlife : s.life = some life) :
    ((s.expire now).1.cache.entry id).override = some ⟨st, since⟩ ↔
      (s.cache.entry id).override = some ⟨st, since⟩ ∧ now - since < life := by
  have hcache : (s.expire now).1.cache = (s.cache.perform (some life) now .expire).1 := by
    rw [← hlife]
    rfl
  rw [hcache, Cache.entry, Cache.get?_perform, Cache.override_effect_iff]
  simp [EndsOverride, Cache.entry]

/-- A worker that has ended does not start again. -/
theorem running_of_step {s : StatusSync} {e : Event} (h : (s.step e).worker.phase ≠ .stopped) :
    s.worker.phase ≠ .stopped := by
  intro hstopped
  have hstays : ∀ input, (s.worker.step input).1 = s.worker := by
    intro input
    unfold Worker.step
    rw [hstopped]
  rcases worker_step s e with ⟨hworker, -⟩ | ⟨-, input, -, hworker, -⟩
  · exact h (hworker ▸ hstopped)
  · exact h (by rw [hworker, hstays, hstopped])

theorem sweepTime_mono {life k l : Nat} (h : k ≤ l) : sweepTime life k ≤ sweepTime life l :=
  Nat.div_le_div_right (Nat.add_le_add_right (Nat.mul_le_mul_right _ h) 1)

/-- Two sweeps are half of the rhythm apart, but for the rounding to a full millisecond. -/
theorem two_mul_sweepTime_succ_le (life k : Nat) :
    2 * sweepTime life (k + 1) ≤ 2 * sweepTime life k + max life 200 + 1 := by
  rw [sweepTime, sweepTime, Nat.add_mul k 1]
  omega

/-- What holds of overrides and sweeps at all times. -/
structure Kept (life : Nat) (c : Clocked) : Prop where
  life_eq : c.sync.life = some life
  /-- Overrides are as old as the latest report says. -/
  assumed : ∀ id o, c.override id = some o → c.assumedAt id = some o.since ∧ o.since ≤ c.now
  /-- No sweep is late. -/
  punctual : c.Running → c.now ≤ sweepTime life c.sweeps
  /-- No sweep has come early. -/
  swept : ∀ k, c.sweeps = k + 1 → sweepTime life k ≤ c.now
  /-- The last sweep has left no override that had reached its life time. An override with no life
  time at all may have been set right after it. -/
  young : ∀ k, c.sweeps = k + 1 → ∀ id o, c.override id = some o →
    sweepTime life k < o.since + max life 1

section Kept

variable {life : Nat} {c : Clocked}

theorem kept_start (config : TransportConfig) (ids : List String) :
    Kept life (start config life ids) where
  life_eq := rfl
  assumed _ _ h := nomatch h
  punctual _ := Nat.zero_le _
  swept _ h := nomatch h
  young _ h := nomatch h

theorem Kept.event (h : c.Kept life) {e : Event} (hsuits : Suits c.now e) :
    (c.step (.event e)).Kept life where
  life_eq := (life_step c.sync e).trans h.life_eq
  assumed id o ho := by
    rcases override_of_step hsuits ho with ⟨hassumes, hsince⟩ | ⟨hassumes, hbefore⟩
    · exact ⟨(if_pos hassumes).trans (congrArg some hsince.symm), Nat.le_of_eq hsince⟩
    · obtain ⟨hat, hle⟩ := h.assumed id o hbefore
      exact ⟨(if_neg hassumes).trans hat, hle⟩
  punctual hrunning := h.punctual (running_of_step hrunning)
  swept := h.swept
  young k hk id o ho := by
    rcases override_of_step hsuits ho with ⟨-, hsince⟩ | ⟨-, hbefore⟩
    · -- The last sweep was not after now, and the override is of now.
      have hswept := h.swept k hk
      omega
    · exact h.young k hk id o hbefore

theorem Kept.sweep (h : c.Kept life) (hdue : sweepTime life c.sweeps ≤ c.now) :
    (c.step .sweep).Kept life where
  life_eq := h.life_eq
  assumed id o ho := h.assumed id o ((override_of_sweep h.life_eq).1 ho).1
  punctual hrunning := Nat.le_trans (h.punctual hrunning) (sweepTime_mono (Nat.le_succ _))
  swept k hk := by
    obtain rfl : c.sweeps = k := Nat.succ.inj hk
    exact hdue
  young k hk id o ho := by
    obtain rfl : c.sweeps = k := Nat.succ.inj hk
    obtain ⟨hbefore, hage⟩ := (override_of_sweep h.life_eq).1 ho
    have hsince := (h.assumed id o hbefore).2
    omega

theorem Kept.wait (h : c.Kept life) {time : Nat} (hlater : c.now ≤ time)
    (htimely : c.Running → time ≤ sweepTime life c.sweeps) : (c.step (.wait time)).Kept life where
  life_eq := h.life_eq
  assumed id o ho := (h.assumed id o ho).imp_right (Nat.le_trans · hlater)
  punctual := htimely
  swept k hk := Nat.le_trans (h.swept k hk) hlater
  young := h.young

theorem Kept.shutdown (h : c.Kept life) : (c.step .shutdown).Kept life where
  life_eq := h.life_eq
  assumed := h.assumed
  punctual hrunning := absurd rfl hrunning
  swept := h.swept
  young := h.young

theorem Kept.step (h : c.Kept life) {happening : Happening} (htimely : c.IsTimely happening) :
    (c.step happening).Kept life := by
  have hdue : ∀ time, time ∈ c.due? ↔ sweepTime life c.sweeps = time := by
    intro time
    rw [due?, h.life_eq]
    exact Option.some_inj
  cases happening with
  | event e => exact h.event htimely
  | sweep =>
    obtain ⟨time, htime, hle⟩ := htimely
    obtain rfl := (hdue time).1 htime
    exact h.sweep hle
  | shutdown => exact h.shutdown
  | wait time => exact h.wait htimely.1 fun hrunning => htimely.2 hrunning _ ((hdue _).2 rfl)

theorem kept_run {happenings : List Happening} (h : c.Kept life) (hclock : c.OnClock happenings) :
    (c.run happenings).Kept life := by
  induction happenings generalizing c with
  | nil => exact h
  | cons happening rest ih => exact ih (h.step hclock.1) hclock.2

/-- When no sweep is due, the time since the last one and the age that an override may have had then
bound its age. -/
theorem Kept.age_lt (h : c.Kept life) (hrunning : c.Running) (hsettled : c.IsSettled) {id : String}
    {o : Override} (ho : c.override id = some o) :
    2 * (c.now - o.since) < 2 * life + max life 200 := by
  have hnow : c.now < sweepTime life c.sweeps := by
    refine hsettled hrunning _ ?_
    rw [due?, h.life_eq]
    rfl
  cases hsweeps : c.sweeps with
  | zero =>
    rw [hsweeps, sweepTime] at hnow
    omega
  | succ k =>
    have hyoung := h.young k hsweeps id o ho
    have hrhythm := two_mul_sweepTime_succ_le life k
    rw [hsweeps] at hnow
    omega

end Kept

/-- In a run that keeps to the clock, an override is as old as the latest report for its pipeline
says. A sweep drops it exactly if it has reached its life time; and as long as the worker has not
ended and no sweep is due, it has not lived longer than its life time and the time between two
sweeps. -/
theorem overrides_expire_in_time (config : TransportConfig) (life : Nat) (ids : List String)
    (happenings : List Happening) (h : (start config life ids).OnClock happenings) :
    let c := (start config life ids).run happenings
    ∀ id o, c.override id = some o →
      c.assumedAt id = some o.since ∧ o.since ≤ c.now ∧
      ((c.step .sweep).override id = if life ≤ c.now - o.since then none else some o) ∧
      (c.Running → c.IsSettled → 2 * (c.now - o.since) < 2 * life + max life 200) := by
  intro c id o ho
  have hkept : c.Kept life := kept_run (kept_start config ids) h
  obtain ⟨hassumed, hle⟩ := hkept.assumed id o ho
  refine ⟨hassumed, hle, ?_, fun hrunning hsettled => hkept.age_lt hrunning hsettled ho⟩
  split
  · next hold =>
    -- What is left has been there before, so that it is the override that is too old.
    refine Option.eq_none_iff_forall_ne_some.2 fun left hleft => ?_
    obtain ⟨hbefore, hyoung⟩ := (override_of_sweep hkept.life_eq).1 hleft
    obtain rfl : left = o := Option.some.inj (hbefore.symm.trans ho)
    exact absurd hold (Nat.not_le_of_lt hyoung)
  · next hyoung => exact (override_of_sweep hkept.life_eq).2 ⟨ho, Nat.lt_of_not_le hyoung⟩

/-- A status is assumed right after a sweep, so that the override is one millisecond too young for
the next but one. -/
def lateReport : List Happening :=
  [.sweep, .wait 151, .sweep, .wait 152, .event (.assume 152 "orders" .pausing), .wait 301, .sweep,
    .wait 452, .sweep, .wait 601]

/-- The override is 449 ms old then, which is as old as it gets with a life time of 301 ms. -/
theorem late_report_expires :
    let c := (start {} 301 ["orders"]).run lateReport
    (start {} 301 ["orders"]).OnClock lateReport ∧ c.override "orders" = some ⟨.pausing, 152⟩ ∧
      c.Running ∧ c.IsSettled ∧ c.now = 601 ∧
      2 * (c.now - 152) < 2 * 301 + max 301 200 ∧ (c.step .sweep).override "orders" = none := by
  intro c
  have hclock : (start {} 301 ["orders"]).OnClock lateReport := by decide
  have ho : c.override "orders" = some ⟨.pausing, 152⟩ := by decide
  have hrunning : c.Running := by decide
  have hsettled : c.IsSettled := by decide
  have hold : 301 ≤ c.now - 152 := by decide
  obtain ⟨-, -, hsweep, hage⟩ :=
    overrides_expire_in_time {} 301 ["orders"] lateReport hclock "orders" _ ho
  exact ⟨hclock, ho, hrunning, hsettled, rfl, hage hrunning hsettled, hsweep.trans (if_pos hold)⟩

/-- A status is assumed after a shutdown, and looked at much later. -/
def reportAfterShutdown : List Happening :=
  [.sweep, .wait 100, .shutdown, .wait 200, .event (.assume 200 "orders" .pausing), .wait 5000]

/-- After a shutdown there are no sweeps, and an override stays however old it gets. -/
theorem override_outlives_shutdown :
    ¬ ∀ (config : TransportConfig) (life : Nat) (ids : List String) (happenings : List Happening),
      (start config life ids).OnClock happenings →
      let c := (start config life ids).run happenings
      c.IsSettled → ∀ id o, c.override id = some o →
        2 * (c.now - o.since) < 2 * life + max life 200 := by
  intro h
  have hclock : (start {} 1000 ["orders"]).OnClock reportAfterShutdown := by decide
  have hsettled : ((start {} 1000 ["orders"]).run reportAfterShutdown).IsSettled := by decide
  have hage := h {} 1000 ["orders"] reportAfterShutdown hclock hsettled "orders" ⟨.pausing, 200⟩ rfl
  exact absurd hage (by decide)

end Clocked

end StatusSync

end PipelineConsole
