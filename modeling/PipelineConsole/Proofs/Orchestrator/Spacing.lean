import PipelineConsole.Proofs.Orchestrator.Chronicle

/-!
# Timers that outlive their pipelines

A timer remembers an id and a status, but not which wait it was set for. A wait is ended before its
time only by a termination, and the id comes back to the same status only as another pipeline, after
the first one has been terminated and deleted. If every wait is shorter than the way back to its
status, then a timer that is left over has fired by then.

## Main definitions

* `Delays.wayBack` — how long it takes at least to come back to a status after a termination
* `Delays.Spaced` — every wait is shorter than the way back to its status
* `Delays.Spent` — a timer that is left over fires before its status comes back
* `Chronicle.Orderly` — besides the timer of the present wait, the timers of an id are spent

## Main results

* `madeWay_optimistic_le`, `stage_completion_le` — how the way back is made
* `Spent.act`, `Spent.complete` — what keeps timers spent
* `sound_step` — every event on the clock keeps the timers of every id in order
* `Sound.completesOwn` — then a timer completes no wait but its own
-/

namespace PipelineConsole

/-- How long it takes at least until an id is in a status, from the end of the termination of the
pipeline that it stood for before. -/
def Delays.wayBack (d : Delays) : Status → Nat
  | .pausing | .stopping => d.start
  | .resuming => d.start + min d.pause d.stop
  | .created | .running | .paused | .stopped | .terminating | .terminated | .failed => 0

/-- Every wait that can be ended by a termination is shorter than the way back to its status. -/
def Delays.Spaced (d : Delays) : Prop :=
  ∀ status target, status.completion? = some target → status.canTerminate = true →
    d.ofStatus status < d.terminate + d.wayBack status

theorem Delays.spaced_iff (d : Delays) :
    d.Spaced ↔ d.start < d.terminate ∧ d.pause < d.terminate + d.start ∧
      d.stop < d.terminate + d.start ∧
      d.resume < d.terminate + d.start + min d.pause d.stop := by
  constructor
  · intro h
    have hresuming := h .resuming .running rfl rfl
    rw [wayBack, ← Nat.add_assoc] at hresuming
    exact ⟨h .created .running rfl rfl, h .pausing .paused rfl rfl, h .stopping .stopped rfl rfl,
      hresuming⟩
  · rintro ⟨hstart, hpause, hstop, hresume⟩ status target hwait hterminate
    cases status with
    | created => exact hstart
    | pausing => exact hpause
    | stopping => exact hstop
    | resuming => exact (Nat.add_assoc .. ▸ hresume :)
    | terminating => exact absurd hterminate (by decide)
    | running | paused | stopped | terminated | failed => cases hwait

instance (d : Delays) : Decidable d.Spaced := decidable_of_iff _ d.spaced_iff.symm

/-- The usual delays are spaced. -/
example : ({} : Delays).Spaced := by decide

namespace Orchestrator

/-! ### Timers that are left over -/

/-- The stages of a life, from the termination of the life before. A status is as far on as the wait
that is under way in it. -/
def stage : Option Status → Nat
  | some .terminating => 1
  | none | some .terminated | some .created => 2
  | some .running | some .pausing | some .stopping => 3
  | some .paused | some .resuming | some .stopped | some .failed => 4

/-- The last stage at which a timer of a wait may still be left over from the life before. -/
def lastStage : Status → Nat
  | .created => 1
  | .pausing | .stopping => 2
  | .resuming => 3
  | .running | .paused | .stopped | .terminating | .terminated | .failed => 0

/-- How much of the way back has been made at least when the wait in a status is over. -/
def madeWay (d : Delays) : Option Status → Nat
  | none | some .terminated | some .terminating => 0
  | some .created | some .running => d.start
  | some .pausing | some .stopping | some .paused | some .stopped | some .resuming | some .failed =>
    d.start + min d.pause d.stop

section Way

variable {d : Delays} {status source target : Status} {a : Action}

/-- An action that ends a wait is a termination. -/
theorem eq_terminate_of_waiting (hallowed : a.isAllowed status = true)
    (hwait : status.completion? = some target) : a = .terminate := by
  revert hallowed
  cases status <;> cases hwait <;> cases a <;> decide

/-- No action leads to a later stage. -/
theorem stage_optimistic_le (hallowed : a.isAllowed status = true) :
    stage (some a.optimistic) ≤ stage (some status) := by
  revert hallowed
  cases a <;> cases status <;> decide

/-- What an action makes of the way back takes no longer than the wait that it begins, and the wait
that it ends is no longer than the part of the way that is lost and the wait that it begins. -/
theorem madeWay_optimistic_le (hspaced : d.Spaced) (hallowed : a.isAllowed status = true) :
    madeWay d (some a.optimistic) + d.ofStatus status ≤
      madeWay d (some status) + d.ofStatus a.optimistic := by
  obtain ⟨hstart, hpause, hstop, hresume⟩ := d.spaced_iff.1 hspaced
  revert hallowed
  cases a <;> cases status <;>
    simp [Action.isAllowed, Status.canPause, Status.canResume, Status.canStop, Status.canTerminate,
      Action.optimistic, madeWay, Delays.ofStatus] <;>
    omega

/-- A wait that is completed has made its part of the way already. -/
theorem madeWay_completion_le (hwait : status.completion? = some target) :
    madeWay d (some target) ≤ madeWay d (some status) := by
  cases status <;> cases hwait <;> simp [madeWay]

/-- A status on the way to which more is to be made than to a wait lies in a later stage. -/
theorem stage_completion_le (hwait : status.completion? = some target)
    (hstage : stage (some status) ≤ lastStage source)
    (hway : madeWay d (some status) < d.wayBack source) :
    stage (some target) ≤ lastStage source := by
  revert hstage hway
  cases status <;> cases hwait <;> cases source <;>
    simp [stage, lastStage, madeWay, Delays.wayBack]

end Way

/-- A timer that is left over fires before its status comes back, counted from the time at which the
present wait is over. -/
def Spent (d : Delays) (status : Option Status) (ready : Nat) (t : Timer) : Prop :=
  stage status ≤ lastStage t.source ∧ t.due + madeWay d status < ready + d.wayBack t.source

section Spent

variable {d : Delays} {status target : Status} {now ready later : Nat} {t : Timer}

/-- A timer that is left over does not belong to the present status. -/
theorem Spent.source_ne (h : Spent d (some status) ready t) : t.source ≠ status := by
  rintro rfl
  have hstage := h.1
  revert hstage
  cases t.source <;> decide

theorem Spent.mono {status : Option Status} (h : Spent d status ready t) (hle : ready ≤ later) :
    Spent d status later t :=
  ⟨h.1, by have := h.2; omega⟩

/-- What is left over stays spent when an action begins another wait. -/
theorem Spent.act (hspaced : d.Spaced) {a : Action} (hallowed : a.isAllowed status = true)
    (hready : ready ≤ now + d.ofStatus status) (h : Spent d (some status) ready t) :
    Spent d (some a.optimistic) (now + d.ofStatus a.optimistic) t := by
  obtain ⟨hstage, htime⟩ := h
  have hway := madeWay_optimistic_le hspaced hallowed
  exact ⟨Nat.le_trans (stage_optimistic_le hallowed) hstage, by omega⟩

/-- The timer of a wait is left over when the wait is ended by an action. -/
theorem Spent.interrupted (hspaced : d.Spaced) {a : Action} (hallowed : a.isAllowed status = true)
    (hwait : status.completion? = some target) (hsource : t.source = status)
    (hdue : t.due ≤ now + d.ofStatus status) :
    Spent d (some a.optimistic) (now + d.ofStatus a.optimistic) t := by
  obtain rfl := eq_terminate_of_waiting hallowed hwait
  subst hsource
  have hshort := hspaced _ _ hwait hallowed
  refine ⟨?_, ?_⟩
  · show 1 ≤ lastStage t.source
    revert hwait hallowed
    cases t.source <;> simp [Status.completion?, Action.isAllowed, Status.canTerminate, lastStage]
  · show t.due + 0 < now + d.terminate + d.wayBack t.source
    omega

/-- What is left over and does not fire before a wait is completed belongs to a later stage. -/
theorem Spent.complete (hwait : status.completion? = some target) (hlate : ready ≤ t.due)
    (h : Spent d (some status) ready t) : Spent d (some target) ready t := by
  obtain ⟨hstage, htime⟩ := h
  -- If it has not fired by now, then part of the way back to its status is still to be made.
  have hway : madeWay d (some status) < d.wayBack t.source := by omega
  have hmade := madeWay_completion_le (d := d) hwait
  exact ⟨stage_completion_le hwait hstage hway, by omega⟩

/-- What is left over of a deleted pipeline is spent for the next one of its id. -/
theorem Spent.delete (hdelete : status.canDelete = true) (h : Spent d (some status) ready t) :
    Spent d none ready t := by
  obtain ⟨hstage, htime⟩ := h
  have hlater : stage none ≤ stage (some status) := by
    revert hdelete
    cases status <;> decide
  exact ⟨Nat.le_trans hlater hstage, Nat.lt_of_le_of_lt (Nat.le_add_right ..) htime⟩

/-- So it is when the next one is created. -/
theorem Spent.create (hle : ready ≤ now) (h : Spent d none ready t) :
    Spent d (some .created) (now + d.start) t := by
  obtain ⟨hstage, htime⟩ := h
  refine ⟨hstage, ?_⟩
  simp only [madeWay] at htime ⊢
  omega

end Spent

/-! ### The timers of an id -/

/-- The timers of an id are in order: in a status that lasts, all of them are spent; in an
in-between status, behind those that are spent stands the timer that was set when the status was
entered, and it is due when the delay has passed. -/
inductive Orderly (d : Delays) (now : Nat) (since : Moment) :
    Option Status → List (Timer × Moment) → Prop where
  | resting {status : Option Status} {leftover : List (Timer × Moment)}
      (hrest : status.bind Status.completion? = none)
      (hspent : ∀ e ∈ leftover, Spent d status now e.1) : Orderly d now since status leftover
  | waiting {status target : Status} {leftover : List (Timer × Moment)} {t : Timer}
      (hwait : status.completion? = some target) (hsource : t.source = status)
      (htarget : t.target = target) (hdue : t.due = since.time + d.ofStatus status)
      (hsince : since.time ≤ now) (hspent : ∀ e ∈ leftover, Spent d (some status) t.due e.1) :
      Orderly d now since (some status) (leftover ++ [(t, since)])

section Orderly

variable {d : Delays} {now later : Nat} {since moment : Moment}
  {status before after : Option Status} {entries early late : List (Timer × Moment)}
  {o : Occasion} {id : String} {set : List Timer}

theorem Orderly.mono (h : Orderly d now since status entries) (hle : now ≤ later) :
    Orderly d later since status entries := by
  cases h with
  | resting hrest hspent => exact .resting hrest fun e he => (hspent e he).mono hle
  | waiting hwait hsource htarget hdue hsince hspent =>
    exact .waiting hwait hsource htarget hdue (Nat.le_trans hsince hle) hspent

/-- A turn keeps the timers of its id in order. -/
theorem Orderly.turn (hspaced : d.Spaced) (h : Orderly d now since before entries)
    (hle : now ≤ o.elapsed) (hmoment : moment.time = o.elapsed)
    (hturn : Turn d o id before after set) :
    Orderly d o.elapsed (if after = before then since else moment) after
      (entries ++ set.map (·, moment)) := by
  cases hturn with
  | kept =>
    rw [if_pos rfl, List.map_nil, List.append_nil]
    exact h.mono hle
  | created =>
    rw [if_neg (by simp)]
    cases h with
    | resting hrest hspent =>
      refine .waiting rfl rfl rfl ?_ (Nat.le_of_eq hmoment) fun e he => (hspent e he).create hle
      rw [hmoment]
      rfl
  | acted st a hallowed =>
    rw [if_neg fun heq => Action.optimistic_ne hallowed (Option.some.inj heq)]
    refine .waiting a.completion?_optimistic rfl rfl (by rw [hmoment]; rfl)
      (Nat.le_of_eq hmoment) fun e he => ?_
    cases h with
    | resting hrest hspent => exact (hspent e he).act hspaced hallowed (by omega)
    | @waiting _ _ _ t hwait hsource _ hdue hsince hspent =>
      have hready : t.due ≤ o.elapsed + d.ofStatus st := by omega
      rcases List.mem_append.1 he with he | he
      · exact (hspent e he).act hspaced hallowed hready
      · obtain rfl := List.mem_singleton.1 he
        exact .interrupted hspaced hallowed hwait hsource hready
  | deleted st hdelete =>
    rw [if_neg (by simp), List.map_nil, List.append_nil]
    generalize hst : some st = status at h
    cases h with
    | resting hrest hspent =>
      subst hst
      exact .resting rfl fun e he => ((hspent e he).delete hdelete).mono hle
    | waiting hwait =>
      obtain rfl := Option.some.inj hst
      rw [Status.completion?_of_canDelete hdelete] at hwait
      cases hwait

/-- The timer of another wait than the present one is spent, and thus belongs to another status. -/
theorem Orderly.eq_own (h : Orderly d now since status entries) {e : Timer × Moment}
    (hmem : e ∈ entries) (hstatus : status = some e.1.source) :
    e.2 = since ∧ e.1.due = since.time + d.ofStatus e.1.source ∧
      e.1.source.completion? = some e.1.target := by
  cases h with
  | resting hrest hspent =>
    subst hstatus
    exact absurd rfl (hspent e hmem).source_ne
  | @waiting st target leftover t hwait hsource htarget hdue hsince hspent =>
    obtain rfl := Option.some.inj hstatus
    rcases List.mem_append.1 hmem with hmem | hmem
    · exact absurd rfl (hspent e hmem).source_ne
    · obtain rfl := List.mem_singleton.1 hmem
      exact ⟨rfl, hdue, hwait.trans (congrArg some htarget.symm)⟩

/-- An element of a list is the last one, or stands in front of it. -/
theorem append_cons_eq_concat {α : Type} {early late front : List α} {e last : α}
    (h : early ++ e :: late = front ++ [last]) :
    (late = [] ∧ early = front ∧ e = last) ∨
      ∃ mid, late = mid ++ [last] ∧ front = early ++ e :: mid := by
  rcases List.eq_nil_or_concat late with rfl | ⟨mid, x, rfl⟩
  · obtain ⟨hfront, hlast⟩ := List.append_inj' h rfl
    exact .inl ⟨rfl, hfront, List.singleton_inj.1 hlast⟩
  · rw [List.concat_eq_append, ← List.cons_append, ← List.append_assoc] at h
    obtain ⟨hfront, hlast⟩ := List.append_inj' h rfl
    exact .inr ⟨mid, by rw [List.concat_eq_append, hlast], hfront.symm⟩

/-- A timer that does not belong to the present status may go. -/
theorem Orderly.drop {e : Timer × Moment} (h : Orderly d now since status (early ++ e :: late))
    (hle : now ≤ later) (hstatus : status ≠ some e.1.source) :
    Orderly d later since status (early ++ late) := by
  generalize hentries : early ++ e :: late = entries at h
  cases h with
  | resting hrest hspent =>
    subst hentries
    have hfewer := ((List.sublist_cons_self e late).append_left early).subset
    exact .resting hrest fun f hf => (hspent f (hfewer hf)).mono hle
  | @waiting st target leftover t hwait hsource htarget hdue hsince hspent =>
    rcases append_cons_eq_concat hentries with ⟨-, -, rfl⟩ | ⟨mid, rfl, rfl⟩
    · exact absurd (congrArg some hsource.symm) hstatus
    · have hfewer := ((List.sublist_cons_self e mid).append_left early).subset
      rw [← List.append_assoc]
      exact .waiting hwait hsource htarget hdue (Nat.le_trans hsince hle)
        fun f hf => hspent f (hfewer hf)

/-- The timer of the present wait completes it, when none is due before it. -/
theorem Orderly.complete {e : Timer × Moment}
    (h : Orderly d now since status (early ++ e :: late)) (hstatus : status = some e.1.source)
    (hearly : ∀ f ∈ early, e.1.due ≤ f.1.due) :
    Orderly d e.1.due moment (some e.1.target) (early ++ late) := by
  generalize hentries : early ++ e :: late = entries at h
  cases h with
  | resting hrest hspent =>
    subst hstatus
    have hmem : e ∈ entries := by simp [← hentries]
    exact absurd rfl (hspent e hmem).source_ne
  | @waiting st target leftover t hwait hsource htarget hdue hsince hspent =>
    obtain rfl := Option.some.inj hstatus
    rcases append_cons_eq_concat hentries with ⟨rfl, rfl, rfl⟩ | ⟨mid, -, rfl⟩
    · rw [List.append_nil]
      subst htarget
      refine .resting (Status.completion?_completion hwait) fun f hf => ?_
      exact (hspent f hf).complete hwait (hearly f hf)
    · exact absurd rfl (hspent e (by simp)).source_ne

end Orderly

/-! ### Runs on a clock -/

namespace Chronicle

/-- The chronicle is about the timers that are pending, and those of every id are in order. -/
structure Sound (d : Delays) (c : Chronicle) : Prop where
  tracks : c.Tracks
  orderly : ∀ id, Orderly d c.now (c.since id) (c.state.status? id) (c.entries id)

section Sound

variable {rules : Rules} {c : Chronicle} {o : Occasion} {t : Timer} {e : Event}

theorem Sound.perform (h : c.Sound rules.delays) (hspaced : rules.delays.Spaced) {op : Operation}
    (he : c.IsTimely (.perform o op)) : (c.step rules (.perform o op)).Sound rules.delays := by
  refine ⟨tracks_step h.tracks he, fun id => ?_⟩
  rcases perform_cases rules o op c.state with ⟨reply, s', hop⟩ | ⟨fault, hop⟩
  · obtain ⟨set, hset, hturn⟩ := turn_of_perform hop
    rw [step_perform hop hset]
    let moment : Moment := ⟨c.number, o.elapsed⟩
    have hentries : (c.pending ++ set.map (·, moment)).filter (·.1.id = id) =
        c.entries id ++ (set.filter (·.id = id)).map (·, moment) := by
      rw [List.filter_append, List.filter_map]
      rfl
    have hmoment : moment.time = o.elapsed := rfl
    have hnext := (h.orderly id).turn hspaced he.1 hmoment (hturn id)
    rw [← hentries] at hnext
    exact hnext
  · rw [step_refused hop]
    exact (h.orderly id).mono he.1

theorem Sound.fire (h : c.Sound rules.delays) (he : c.IsTimely (.fire o t)) :
    (c.step rules (.fire o t)).Sound rules.delays := by
  refine ⟨tracks_step h.tracks he, fun id => ?_⟩
  obtain ⟨hle, ⟨hmem, hfirst⟩, hdue⟩ := he
  obtain ⟨early, m, late, hpending, -, herase⟩ := pending_of_mem h.tracks hmem
  have hearly : ∀ f ∈ early, t.due ≤ f.1.due := by
    intro f hf
    refine hfirst f.1 (h.tracks ▸ List.mem_map_of_mem ?_)
    rw [hpending]
    exact List.mem_append_left _ hf
  rw [step_fire hmem, herase]
  have horderly := h.orderly id
  rw [entries, hpending, List.filter_append] at horderly
  show Orderly rules.delays o.elapsed
    (if (c.state.fire o t).2.status? id = c.state.status? id then c.since id
      else ⟨c.number, o.elapsed⟩)
    ((c.state.fire o t).2.status? id) ((early ++ late).filter (·.1.id = id))
  rw [List.filter_append]
  by_cases hid : t.id = id
  · subst hid
    rw [List.filter_cons_of_pos (by simp)] at horderly
    by_cases hstatus : c.state.status? t.id = some t.source
    · obtain ⟨-, -, hwait⟩ := horderly.eq_own (List.mem_append_right _ (.head _)) hstatus
      have hafter := (fire_carries (o := o) hstatus (Status.canBecome_completion hwait)).2 t.id
      rw [if_pos rfl] at hafter
      have hchanged : some t.target ≠ some t.source := by
        intro heq
        rw [← Option.some.inj heq, Status.completion?_completion hwait] at hwait
        cases hwait
      rw [hafter, hstatus, if_neg hchanged, hdue]
      exact horderly.complete hstatus fun f hf => hearly f (List.mem_filter.1 hf).1
    · rw [(fire_drops (o := o) hstatus).2 t.id, if_pos rfl]
      exact horderly.drop hle hstatus
  · rw [List.filter_cons_of_neg (by simpa using hid)] at horderly
    rw [status?_fire_of_ne fun heq => hid heq.symm, if_pos rfl]
    exact horderly.mono hle

theorem sound_step (h : c.Sound rules.delays) (hspaced : rules.delays.Spaced)
    (he : c.IsTimely e) : (c.step rules e).Sound rules.delays := by
  cases e with
  | perform o op => exact h.perform hspaced he
  | fire o t => exact h.fire he
  | simulate => exact he.elim
  | transition => exact he.elim

theorem sound_run {events : List Event} (h : c.Sound rules.delays) (hspaced : rules.delays.Spaced)
    (he : OnClock rules c events) : (c.run rules events).Sound rules.delays := by
  induction events generalizing c with
  | nil => exact h
  | cons e rest ih => exact ih (sound_step h hspaced he.1) he.2

/-- An orchestrator that has just started has neither pipelines nor timers. -/
theorem sound_fresh (d : Delays) (welcomeAt lagAt : Timestamp) :
    Sound d { state := fresh welcomeAt lagAt } :=
  ⟨rfl, fun _ => .resting rfl fun _ he => absurd he List.not_mem_nil⟩

/-- A timer that carries out its change completes the wait that it was set for. -/
theorem Sound.completesOwn (h : c.Sound rules.delays) (he : c.IsTimely (.fire o t)) :
    c.CompletesOwn rules o t := by
  intro hcarried
  obtain ⟨-, ⟨hmem, -⟩, hdue⟩ := he
  obtain ⟨early, m, late, hpending, hfound, -⟩ := pending_of_mem h.tracks hmem
  by_cases hstatus : c.state.status? t.id = some t.source
  · have hmem : (t, m) ∈ c.entries t.id := by simp [entries, hpending]
    obtain ⟨rfl, hown, -⟩ := (h.orderly t.id).eq_own hmem hstatus
    exact ⟨hfound, hdue.trans hown⟩
  · rw [(fire_drops hstatus).1] at hcarried
    cases hcarried

end Sound

end Chronicle

end Orchestrator

end PipelineConsole
