import PipelineConsole.Proofs.Orchestrator.Spacing
import PipelineConsole.Proofs.Orchestrator.Waiting

/-!
# Stale timers

A timer changes a status if it finds the status that it was set for. Whether this is the very wait
that it was set for, and not the same one of a later pipeline with the same id, it cannot tell. Some
delays keep the two apart, and these are found here: for all others there is a run on the clock in
which a timer that was left over completes a wait before its time.

The run is the same for all of them. A pipeline is created and led to a status, is terminated there
and deleted, and another one is created under its id and led to the same status.

## Main definitions

* `Chronicle.Alone` — what a chronicle tells of a run with a single pipeline
* `Chronicle.Enters` — that pipeline has just entered an in-between status
* `Chronicle.Leads` — a run on the clock leads from one chronicle to another

## Main results

* `completions_are_own_iff` — the delays with which every timer completes its own wait only
* `newer_wait_is_cut_short` — a run in which one does not
-/

namespace PipelineConsole.Orchestrator

open Chronicle

/-! ### Runs with a single pipeline -/

/-- There is at most the pipeline `"a"`, of which the chronicle tells the status, the moment of its
last change and the pending timers. -/
structure Chronicle.Alone (c : Chronicle) (status : Option Status) (since : Moment)
    (entries : List (Timer × Moment)) : Prop where
  status : c.state.status? "a" = status
  others : ∀ id, id ≠ "a" → c.state.status? id = none
  tracks : c.Tracks
  since : c.since "a" = since
  pending : c.pending = entries

section Moves

variable (rules : Rules) {c : Chronicle} {status now : Option Status} {since : Moment}
  {entries : List (Timer × Moment)} {ms : Nat} {s s' : Orchestrator} {o : Occasion}

theorem Chronicle.Alone.timers (h : c.Alone now since entries) :
    c.state.timers = entries.map Prod.fst := by
  rw [← h.tracks, h.pending]

/-- An operation that comes in time, before anything else is due, changes the status. -/
theorem Chronicle.Alone.perform (h : c.Alone now since entries) (hnow : c.now ≤ ms)
    (hdue : ∀ e ∈ entries, ms ≤ e.1.due) (op : Operation) {reply : op.Reply} (set : List Timer)
    (hop : perform rules (after ms) op c.state = (.ok reply, s'))
    (hset : s'.timers = c.state.timers ++ set) (hstatus : s'.status? "a" = status)
    (hothers : ∀ id, id ≠ "a" → s'.status? id = none) (hchanged : status ≠ now) :
    c.IsTimely (.perform (after ms) op) ∧
      (c.step rules (.perform (after ms) op)).Alone status ⟨c.number, ms⟩
        (entries ++ set.map (·, ⟨c.number, ms⟩)) := by
  have htimely : c.IsTimely (.perform (after ms) op) := by
    refine ⟨hnow, fun t ht => ?_⟩
    rw [h.timers] at ht
    obtain ⟨e, he, rfl⟩ := List.mem_map.1 ht
    exact hdue e he
  refine ⟨htimely, ?_⟩
  have htracks : (c.step rules (.perform (after ms) op)).Tracks := tracks_step h.tracks htimely
  rw [step_perform hop hset] at htracks ⊢
  refine ⟨hstatus, hothers, htracks, if_neg ?_, by rw [h.pending]; rfl⟩
  rw [hstatus, h.status]
  exact hchanged

/-- Where there is no pipeline, one is created. -/
theorem create_of_free (o : Occasion) (hnone : ∀ id, s.status? id = none) :
    ∃ s', create rules o orders s = (.ok "a", s') := by
  have hget (id : String) : s.pipelines.get? id = none := Option.map_eq_none_iff.1 (hnone id)
  have hactive : s.active? o = none := by
    rw [active?_eq_none_iff]
    intro id p hp
    rw [hget id] at hp
    cases hp
  have hcheck : orders.check = .ok () := rfl
  have hblank : Text.isBlankText orders.id = false := by decide
  have hroom : s.ensureRoom rules o orders.id = .ok () :=
    ensureRoom_eq_ok.2 ⟨hget _, fun _ => hactive⟩
  exact ⟨_, create_of_ensureRoom hcheck hblank hroom⟩

theorem Chronicle.Alone.create (h : c.Alone none since entries) (hnow : c.now ≤ ms)
    (hdue : ∀ e ∈ entries, ms ≤ e.1.due) :
    c.IsTimely (.perform (after ms) (.create orders)) ∧
      (c.step rules (.perform (after ms) (.create orders))).Alone (some .created) ⟨c.number, ms⟩
        (entries ++
          [(completionTimer rules.delays (after ms) "a" .created .running, ⟨c.number, ms⟩)]) := by
  have hnone : ∀ id, c.state.status? id = none := by
    intro id
    by_cases hid : id = "a"
    · rw [hid, h.status]
    · exact h.others id hid
  obtain ⟨s', hcreate⟩ := create_of_free rules (after ms) hnone
  obtain ⟨-, -, hinsert, htimers⟩ := create_eq_ok hcreate
  refine h.perform rules hnow hdue (.create orders) [_] hcreate htimers ?_ (fun id hid => ?_)
    (by simp)
  · rw [status?_of_insert hinsert, if_pos rfl]
    rfl
  · rw [status?_of_insert hinsert, if_neg hid, h.others id hid]

theorem Chronicle.Alone.act {st : Status} (h : c.Alone (some st) since entries) (hnow : c.now ≤ ms)
    (hdue : ∀ e ∈ entries, ms ≤ e.1.due) {a : Action} (hallowed : a.isAllowed st = true) :
    c.IsTimely (.perform (after ms) (.act "a" a)) ∧
      (c.step rules (.perform (after ms) (.act "a" a))).Alone (some a.optimistic) ⟨c.number, ms⟩
        (entries ++ [(completionTimer rules.delays (after ms) "a" a.optimistic a.final,
          ⟨c.number, ms⟩)]) := by
  obtain ⟨p, hp, hstatus⟩ := Option.map_eq_some_iff.1 h.status
  have hact : Orchestrator.perform rules (after ms) (.act "a" a) c.state = _ :=
    act_of_allowed hp (hstatus.symm ▸ hallowed)
  let moved : Pipeline := { p with status := a.optimistic, updatedAt := newYear }
  have hafter (id : String) : ((c.state.put "a" moved).schedule (after ms) "a" a.optimistic a.final
      (rules.delays.ofAction a)).status? id =
        if id = "a" then some a.optimistic else c.state.status? id := by
    have hinsert : (c.state.put "a" moved).pipelines = c.state.pipelines.insert "a" moved :=
      pipelines_put ..
    exact status?_of_insert hinsert
  refine h.perform rules hnow hdue (.act "a" a)
    [completionTimer rules.delays (after ms) "a" a.optimistic a.final] hact ?_
    ((hafter "a").trans (if_pos rfl))
    (fun id hid => (hafter id).trans ((if_neg hid).trans (h.others id hid)))
    fun heq => Action.optimistic_ne hallowed (Option.some.inj heq)
  rw [timers_schedule, timers_put, completionTimer, Delays.ofStatus_optimistic]

theorem Chronicle.Alone.delete {st : Status} (h : c.Alone (some st) since entries)
    (hnow : c.now ≤ ms) (hdue : ∀ e ∈ entries, ms ≤ e.1.due) (hdelete : st.canDelete = true) :
    c.IsTimely (.perform (after ms) (.delete "a")) ∧
      (c.step rules (.perform (after ms) (.delete "a"))).Alone none ⟨c.number, ms⟩ entries := by
  obtain ⟨p, hp, hstatus⟩ := Option.map_eq_some_iff.1 h.status
  have hget := get_eq_ok.2 hp
  have hdone : Orchestrator.perform rules (after ms) (.delete "a") c.state =
      (.ok (), { c.state with pipelines := c.state.pipelines.erase "a" }.dropQueue "a") := by
    simp [Orchestrator.perform, Orchestrator.delete, withdraw, Handler.ensure, hget, hstatus,
      hdelete]
  have hafter (id : String) : ({ c.state with
      pipelines := c.state.pipelines.erase "a" }.dropQueue "a").status? id =
        if id = "a" then none else c.state.status? id := by
    rw [status?, pipelines_dropQueue, Table.get?_erase]
    split <;> rfl
  have hmove := h.perform rules hnow hdue (.delete "a") [] hdone (by simp)
    ((hafter "a").trans (if_pos rfl))
    (fun id hid => (hafter id).trans ((if_neg hid).trans (h.others id hid))) (by simp)
  simpa using hmove

/-- The timer that was set last fires, and completes the wait. -/
theorem Chronicle.Alone.fire {t : Timer} (hid : t.id = "a")
    (h : c.Alone (some t.source) since (entries ++ [(t, since)])) (hnow : c.now ≤ t.due)
    (hdue : ∀ e ∈ entries, t.due ≤ e.1.due) (hother : ∀ e ∈ entries, e.1.source ≠ t.source)
    (hwait : t.source.completion? = some t.target) :
    c.IsTimely (.fire (after t.due) t) ∧
      (c.step rules (.fire (after t.due) t)).Alone (some t.target) ⟨c.number, t.due⟩ entries := by
  have hnext : IsNext c.state.timers t := by
    rw [h.timers]
    refine ⟨by simp, fun u hu => ?_⟩
    obtain ⟨e, he, rfl⟩ := List.mem_map.1 hu
    rcases List.mem_append.1 he with he | he
    · exact hdue e he
    · obtain rfl := List.mem_singleton.1 he
      exact Nat.le_refl _
  have htimely : c.IsTimely (.fire (after t.due) t) := ⟨hnow, hnext, rfl⟩
  refine ⟨htimely, ?_⟩
  have htracks : (c.step rules (.fire (after t.due) t)).Tracks := tracks_step h.tracks htimely
  have hstatus : c.state.status? t.id = some t.source := hid ▸ h.status
  have hafter := (fire_carries (o := after t.due) hstatus (Status.canBecome_completion hwait)).2
  have hdistinct : ∀ e ∈ entries, ¬ e.1 = t := fun e he heq => hother e he (congrArg _ heq)
  rw [step_fire hnext.1] at htracks ⊢
  refine ⟨?_, fun id hne => ?_, htracks, if_neg ?_, ?_⟩
  · rw [hafter, if_pos hid.symm]
  · rw [hafter, if_neg (hid ▸ hne), h.others id hne]
  · rw [hafter, if_pos hid.symm, h.status]
    intro heq
    rw [← Option.some.inj heq, Status.completion?_completion hwait] at hwait
    cases hwait
  · rw [h.pending, List.eraseP_append_right _ (by simpa using hdistinct)]
    simp

end Moves

/-! ### The way to a status and back -/

/-- The pipeline has entered an in-between status at the last moment, and the timer of this wait
stands behind older ones. -/
structure Chronicle.Enters (d : Delays) (c : Chronicle) (status target : Status) (moment : Moment)
    (older : List (Timer × Moment)) : Prop where
  wait : status.completion? = some target
  alone : c.Alone (some status) moment
    (older ++ [(completionTimer d (after moment.time) "a" status target, moment)])
  now : c.now = moment.time
  number : moment.number < c.number

/-- A run on the clock leads from one chronicle to another. -/
def Chronicle.Leads (rules : Rules) (c c' : Chronicle) : Prop :=
  ∃ events, OnClock rules c events ∧ c.run rules events = c'

section Ways

variable {rules : Rules} {c c' c'' : Chronicle} {status source target : Status} {since m : Moment}
  {older : List (Timer × Moment)} {ms : Nat} {e : Event}

theorem Chronicle.Leads.refl (rules : Rules) (c : Chronicle) : Leads rules c c := ⟨[], trivial, rfl⟩

theorem Chronicle.Leads.step (h : Leads rules c c') (he : c'.IsTimely e) :
    Leads rules c (c'.step rules e) := by
  obtain ⟨events, hclock, rfl⟩ := h
  exact ⟨events ++ [e], onClock_append.2 ⟨hclock, he, trivial⟩, by simp⟩

theorem Chronicle.Leads.trans (h : Leads rules c c') (h' : Leads rules c' c'') :
    Leads rules c c'' := by
  obtain ⟨events, hclock, rfl⟩ := h
  obtain ⟨more, hmore, rfl⟩ := h'
  exact ⟨events ++ more, onClock_append.2 ⟨hclock, hmore⟩, run_append⟩

/-- The wait is completed when its delay has passed. -/
theorem Chronicle.Enters.complete (h : c.Enters rules.delays status target m older)
    (hdue : ∀ e ∈ older, m.time + rules.delays.ofStatus status ≤ e.1.due)
    (hother : ∀ e ∈ older, e.1.source ≠ status) :
    ∃ c' since, Leads rules c c' ∧ c'.now = m.time + rules.delays.ofStatus status ∧
      m.number < c'.number ∧ c'.Alone (some target) since older := by
  have hnow : c.now ≤ m.time + rules.delays.ofStatus status := by
    rw [h.now]
    exact Nat.le_add_right ..
  obtain ⟨hfire, hfired⟩ := Alone.fire rules
    (t := completionTimer rules.delays (after m.time) "a" status target) rfl h.alone hnow hdue
      hother h.wait
  exact ⟨_, _, (Leads.refl rules c).step hfire, rfl, Nat.lt_succ_of_lt h.number, hfired⟩

/-- The wait is completed, and the next action begins another one at once. -/
theorem Chronicle.Enters.onward (h : c.Enters rules.delays status target m older) {a : Action}
    (hallowed : a.isAllowed target = true)
    (hdue : ∀ e ∈ older, m.time + rules.delays.ofStatus status ≤ e.1.due)
    (hother : ∀ e ∈ older, e.1.source ≠ status) :
    ∃ c' m', Leads rules c c' ∧ m'.time = m.time + rules.delays.ofStatus status ∧
      m.number ≤ m'.number ∧ c'.Enters rules.delays a.optimistic a.final m' older := by
  obtain ⟨c', since, hleads, hnow, hnumber, hcompleted⟩ := h.complete hdue hother
  obtain ⟨hact, hacted⟩ := hcompleted.act rules (Nat.le_of_eq hnow) hdue hallowed
  exact ⟨_, _, hleads.step hact, rfl, Nat.le_of_lt hnumber, a.completion?_optimistic, hacted, rfl,
    Nat.lt_succ_self _⟩

/-- A pipeline is created and reaches an in-between status on the shortest way. -/
theorem Chronicle.Alone.enter (rules : Rules) (hwait : source.completion? = some target)
    (hterminate : source.canTerminate = true) (h : c.Alone none since older) (hnow : c.now ≤ ms)
    (hdue : ∀ e ∈ older, ms + rules.delays.wayBack source ≤ e.1.due)
    (hsame : ∀ e ∈ older, e.1.source = source) :
    ∃ c' m, Leads rules c c' ∧ m.time = ms + rules.delays.wayBack source ∧ c.number ≤ m.number ∧
      c'.Enters rules.delays source target m older := by
  have hlater (e) (he : e ∈ older) : ms ≤ e.1.due :=
    Nat.le_trans (Nat.le_add_right ..) (hdue e he)
  obtain ⟨hcreate, hcreated⟩ := h.create rules hnow hlater
  have hleads := (Leads.refl rules c).step hcreate
  have henters : (c.step rules (.perform (after ms) (.create orders))).Enters rules.delays
      .created .running ⟨c.number, ms⟩ older := ⟨rfl, hcreated, rfl, Nat.lt_succ_self _⟩
  -- By any action, the pipeline that runs goes on to the status that the action begins with.
  have hfrom {a : Action} (hallowed : a.isAllowed .running = true)
      (hway : ∀ e ∈ older, ms + rules.delays.start ≤ e.1.due) (hne : source ≠ .created) :
      ∃ c' m, Leads rules c c' ∧ m.time = ms + rules.delays.start ∧ c.number ≤ m.number ∧
        c'.Enters rules.delays a.optimistic a.final m older := by
    obtain ⟨c', m, hnext, hthere⟩ := henters.onward hallowed hway fun e he => hsame e he ▸ hne
    exact ⟨c', m, hleads.trans hnext, hthere⟩
  cases source with
  | created =>
    obtain rfl := Option.some.inj hwait
    exact ⟨_, _, hleads, rfl, Nat.le_refl _, henters⟩
  | pausing =>
    obtain rfl := Option.some.inj hwait
    exact hfrom (a := .pause) rfl hdue (by decide)
  | stopping =>
    obtain rfl := Option.some.inj hwait
    exact hfrom (a := .stop) rfl hdue (by decide)
  | resuming =>
    obtain rfl := Option.some.inj hwait
    have hvia {a : Action} (hallowed : a.isAllowed .running = true)
        (hresume : Action.resume.isAllowed a.final = true) (hne : Status.resuming ≠ a.optimistic)
        (hshort : rules.delays.ofStatus a.optimistic = min rules.delays.pause rules.delays.stop) :
        ∃ c' m, Leads rules c c' ∧ m.time = ms + rules.delays.wayBack .resuming ∧
          c.number ≤ m.number ∧ c'.Enters rules.delays .resuming .running m older := by
      rw [Delays.wayBack, ← hshort, ← Nat.add_assoc] at hdue ⊢
      have hway (e) (he : e ∈ older) : ms + rules.delays.start ≤ e.1.due :=
        Nat.le_trans (Nat.le_add_right ..) (hdue e he)
      obtain ⟨c₁, m₁, hfirst, htime, hnumber, hpaused⟩ := hfrom hallowed hway (by decide)
      rw [← htime] at hdue ⊢
      obtain ⟨c₂, m₂, hnext, hthen, hmore, hresumed⟩ :=
        hpaused.onward hresume hdue fun e he => hsame e he ▸ hne
      exact ⟨c₂, m₂, hfirst.trans hnext, hthen, Nat.le_trans hnumber hmore, hresumed⟩
    rcases Nat.le_total rules.delays.pause rules.delays.stop with hle | hle
    · exact hvia (a := .pause) rfl rfl (by decide) (Nat.min_eq_left hle).symm
    · exact hvia (a := .stop) rfl rfl (by decide) (Nat.min_eq_right hle).symm
  | terminating => cases hterminate
  | running | paused | stopped | terminated | failed => cases hwait

/-- A pipeline that has entered an in-between status is terminated at once, and is deleted. -/
theorem Chronicle.Enters.leave (h : c.Enters rules.delays source target m [])
    (hterminate : source.canTerminate = true)
    (hlong : rules.delays.terminate ≤ rules.delays.ofStatus source) :
    ∃ c' since, Leads rules c c' ∧ c'.now = m.time + rules.delays.terminate ∧
      m.number < c'.number ∧
      c'.Alone none since [(completionTimer rules.delays (after m.time) "a" source target, m)] := by
  have hdue : ∀ e ∈ [(completionTimer rules.delays (after m.time) "a" source target, m)],
      m.time + rules.delays.terminate ≤ e.1.due := by
    rintro e he
    obtain rfl := List.mem_singleton.1 he
    exact Nat.add_le_add_left hlong _
  have hother : ∀ e ∈ [(completionTimer rules.delays (after m.time) "a" source target, m)],
      e.1.source ≠ .terminating := by
    rintro e he heq
    obtain rfl := List.mem_singleton.1 he
    obtain rfl : source = .terminating := heq
    cases hterminate
  obtain ⟨hact, hacted⟩ := h.alone.act rules (Nat.le_of_eq h.now)
    (fun e he => Nat.le_trans (Nat.le_add_right ..) (hdue e he)) (a := .terminate) hterminate
  have henters : (c.step rules (.perform (after m.time) (.act "a" .terminate))).Enters rules.delays
      .terminating .terminated ⟨c.number, m.time⟩ _ := ⟨rfl, hacted, rfl, Nat.lt_succ_self _⟩
  obtain ⟨c', since, hleads, hnow, hnumber, hterminated⟩ := henters.complete hdue hother
  obtain ⟨hdelete, hdeleted⟩ := hterminated.delete rules (Nat.le_of_eq hnow) hdue rfl
  refine ⟨_, _, (((Leads.refl rules c).step hact).trans hleads).step hdelete, rfl, ?_, hdeleted⟩
  have hbefore := h.number
  have hafter : c.number < c'.number := hnumber
  show m.number < c'.number + 1
  omega

/-- Where a wait is as long as the way back to its status, there is a run in which its timer
completes the same wait of the next pipeline. -/
theorem exists_not_completesOwn (h : c.Alone none since []) (hnow : c.now ≤ ms)
    (hwait : source.completion? = some target) (hterminate : source.canTerminate = true)
    (hlong : rules.delays.terminate + rules.delays.wayBack source ≤ rules.delays.ofStatus source) :
    ∃ events o t, OnClock rules c (events ++ [.fire o t]) ∧
      ¬ (c.run rules events).CompletesOwn rules o t := by
  obtain ⟨c₁, m₁, hfirst, htime₁, -, hentered⟩ :=
    h.enter rules hwait hterminate hnow (by simp) (by simp)
  obtain ⟨c₂, since₂, hgone, hnow₂, hnumber₂, hleft⟩ := hentered.leave hterminate (by omega)
  obtain ⟨c₃, m₂, hagain, htime₂, hnumber₃, hback⟩ :=
    hleft.enter rules hwait hterminate (Nat.le_of_eq hnow₂)
      (by simp [completionTimer, after]; omega) (by simp [completionTimer])
  obtain ⟨events, hclock, rfl⟩ := (hfirst.trans hgone).trans hagain
  -- The timer of the first wait is still pending there, and due no later than that of the second.
  let stale := completionTimer rules.delays (after m₁.time) "a" source target
  have hdue : stale.due = m₁.time + rules.delays.ofStatus source := rfl
  have hnext : IsNext (c.run rules events).state.timers stale := by
    rw [hback.alone.timers]
    have hle : m₁.time ≤ m₂.time := by omega
    simp [IsNext, stale, completionTimer, after, hle]
  have hontime : (c.run rules events).now ≤ stale.due := by
    rw [hback.now]
    omega
  refine ⟨events, after stale.due, stale, onClock_append.2 ⟨hclock, ⟨hontime, hnext, rfl⟩, trivial⟩,
    fun hown => ?_⟩
  obtain ⟨hfound, -⟩ :=
    hown (fire_carries hback.alone.status (Status.canBecome_completion hwait)).1
  have hsince : (c.run rules events).since stale.id = m₂ := hback.alone.since
  have hsame : m₁ = m₂ := by simpa [hback.alone.pending, stale, hsince] using hfound
  rw [hsame] at hnumber₂
  omega

end Ways

/-- In every run on the clock, a timer that carries out its change completes the very wait that it
was set for, after the full delay, if and only if every wait that can be ended by a termination is
shorter than the way back to its status. -/
theorem completions_are_own_iff (rules : Rules) :
    (∀ welcomeAt lagAt events o t,
      OnClock rules { state := fresh welcomeAt lagAt } (events ++ [.fire o t]) →
        (Chronicle.run rules { state := fresh welcomeAt lagAt } events).CompletesOwn rules o t) ↔
      rules.delays.Spaced := by
  constructor
  · intro hown source target hwait hterminate
    refine Nat.lt_of_not_le fun hlong => ?_
    have halone : Alone { state := fresh newYear newYear } none ⟨0, 0⟩ [] :=
      ⟨rfl, fun _ _ => rfl, rfl, rfl, rfl⟩
    obtain ⟨events, o, t, hclock, hnot⟩ :=
      exists_not_completesOwn halone (Nat.le_refl 0) hwait hterminate hlong
    exact hnot (hown newYear newYear events o t hclock)
  · intro hspaced welcomeAt lagAt events o t hclock
    obtain ⟨hevents, hfire⟩ := onClock_append.1 hclock
    exact (sound_run (sound_fresh _ welcomeAt lagAt) hspaced hevents).completesOwn hfire.1

/-- Pipelines are slow to start and are terminated at once. -/
def slowStart : Rules := { delays := { start := 5000, terminate := 0 } }

/-- The timer of the first start. -/
def firstStart : Timer := ⟨"a", .created, .running, 5000, newYear, none⟩

/-- A pipeline is terminated and deleted before it has started, and is created again later. -/
def createdAgain : List Event :=
  [.perform (after 0) (.create orders), .perform (after 0) (.act "a" .terminate),
    .fire (after 0) ⟨"a", .terminating, .terminated, 0, newYear, none⟩,
    .perform (after 0) (.delete "a"), .perform (after 3000) (.create orders)]

/-- The timer of the first start completes that of the second pipeline, which was created at 3000 ms
and is to take 5000 ms. -/
theorem newer_wait_is_cut_short :
    let c := Chronicle.run slowStart { state := fresh newYear newYear } createdAgain
    OnClock slowStart { state := fresh newYear newYear }
        (createdAgain ++ [.fire (after 5000) firstStart]) ∧
      ¬ c.CompletesOwn slowStart (after 5000) firstStart ∧
      c.state.status? "a" = some .created ∧ (c.since "a").time = 3000 ∧
      (c.state.fire (after 5000) firstStart).2.status? "a" = some .running := by
  decide

end PipelineConsole.Orchestrator
