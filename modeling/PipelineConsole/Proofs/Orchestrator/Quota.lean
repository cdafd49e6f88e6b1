import Mathlib.Data.List.Induction
import PipelineConsole.Proofs.Orchestrator.Service

/-!
# The quota of active pipelines

A creation is refused while a pipeline is active, so that creations never make two of them. A
stopped pipeline that is resumed is active again, and nothing is asked then: this is the only way
past the quota.

## Main definitions

* `Orchestrator.activeCount` — how many pipelines are active
* `Orchestrator.Overfills` — a stopped pipeline is resumed beside an active one

## Main results

* `rouse_of_perform`, `rouse_of_step` — what makes a pipeline active
* `quota_holds_iff` — the quota holds in a run exactly when nothing overfills it
* `quota_is_no_invariant` — some run overfills it
-/

namespace PipelineConsole

/-- An action makes a pipeline active only when it resumes a stopped one. -/
theorem Action.rouses {a : Action} {status : Status} (h : a.isAllowed status = true)
    (ha : a.optimistic.isActive = true) :
    status.isActive = true ∨ a = .resume ∧ status = .stopped := by
  revert h ha
  cases a <;> cases status <;> decide

namespace Orchestrator

/-- How many pipelines are active. -/
def activeCount (s : Orchestrator) : Nat := s.pipelines.values.countP (·.status.isActive)

/-- The pipeline of an id is active. -/
def IsActive (s : Orchestrator) (id : String) : Prop :=
  ∃ p, s.pipelines.get? id = some p ∧ p.status.isActive = true

/-- A stopped pipeline is resumed while another one is active. -/
def Overfills (s : Orchestrator) : Event → Prop
  | .perform o (.act id .resume) => s.status? id = some .stopped ∧ s.active? o ≠ none
  | _ => False

section Active

variable {s s' : Orchestrator} {o : Occasion} {id : String}

theorem activeCount_le_one_iff :
    s.activeCount ≤ 1 ↔ ∀ a, s.IsActive a → ∀ b, s.IsActive b → a = b := by
  rw [activeCount, Table.countP_values_le_one_iff]
  constructor
  · rintro h a ⟨p, hp, hpa⟩ b ⟨q, hq, hqa⟩
    exact h a p hp hpa b q hq hqa
  · intro h a p hp hpa b q hq hqa
    exact h a ⟨p, hp, hpa⟩ b ⟨q, hq, hqa⟩

theorem active?_eq_none_iff_not_isActive : s.active? o = none ↔ ∀ id, ¬ s.IsActive id := by
  rw [active?_eq_none_iff]
  constructor
  · rintro h id ⟨p, hp, ha⟩
    exact absurd ha (by simp [h id p hp])
  · intro h id p hp
    exact Bool.eq_false_iff.2 fun ha => h id ⟨p, hp, ha⟩

theorem isActive_iff_of_pipelines (h : s'.pipelines = s.pipelines) :
    s'.IsActive id ↔ s.IsActive id := by
  rw [IsActive, IsActive, h]

/-- Replacing one pipeline matters to its id only. -/
theorem isActive_insert (key : String) {p : Pipeline}
    (h : s'.pipelines = s.pipelines.insert key p) :
    s'.IsActive id ↔ if id = key then p.status.isActive = true else s.IsActive id := by
  rw [IsActive, h, Table.get?_insert]
  split
  · simp
  · rfl

/-- A stopped pipeline is not active. -/
theorem not_isActive_of_stopped (h : s.status? id = some .stopped) : ¬ s.IsActive id := by
  rintro ⟨p, hp, ha⟩
  rw [status?, hp] at h
  rw [Option.some.inj h] at ha
  cases ha

end Active

/-! ### What makes a pipeline active -/

section Rouse

variable {s s' : Orchestrator} {rules : Rules} {o : Occasion} {id : String}

/-- An action that makes a pipeline active resumes a stopped one, and it does so for no other id. -/
theorem rouse_of_act {key : String} {action : Action} {status : Status}
    (h : act rules o key action s = (.ok status, s')) (hnew : s'.IsActive id) :
    s.IsActive id ∨ key = id ∧ action = .resume ∧ s.status? id = some .stopped := by
  obtain ⟨p, hp, hallowed, rfl⟩ := act_eq_ok h
  rw [isActive_insert key rfl] at hnew
  split at hnew
  · next heq =>
    subst heq
    rcases Action.rouses hallowed hnew with ha | ⟨haction, hstopped⟩
    · exact .inl ⟨p, hp, ha⟩
    · exact .inr ⟨rfl, haction, by rw [status?, hp, ← hstopped]; rfl⟩
  · exact .inl hnew

/-- Termination makes nothing active. -/
theorem isActive_of_terminateEach (ids : List String)
    (h : (terminateEach rules o ids s).2.IsActive id) : s.IsActive id := by
  refine terminateEach_induction (motive := fun t => t.IsActive id → s.IsActive id)
    (fun t t' key status ht hact hactive => ?_) ids (fun hactive => hactive) h
  rcases rouse_of_act hact hactive with hold | ⟨-, haction, -⟩
  · exact ht hold
  · cases haction

/-- A pipeline that is replaced by one of its own status is active if it was. -/
theorem isActive_of_put {key : String} {p q : Pipeline} (hp : s.pipelines.get? key = some p)
    (h : (s.put key q).IsActive id) (hstatus : q.status = p.status) : s.IsActive id := by
  rw [isActive_insert key (pipelines_put ..)] at h
  split at h
  · next heq => exact heq ▸ ⟨p, hp, hstatus ▸ h⟩
  · exact h

/-- A creation makes its own pipeline active, and only while none is. -/
theorem rouse_of_create {config : PipelineConfig} {key : String}
    (hrules : rules.singleActive = true) (h : create rules o config s = (.ok key, s')) :
    (∀ other, ¬ s.IsActive other) ∧ ∀ other, s'.IsActive other → other = key := by
  obtain ⟨-, hquota, hinsert, -⟩ := create_eq_ok h
  have hnone := active?_eq_none_iff_not_isActive.1 (hquota hrules)
  refine ⟨hnone, fun other hother => ?_⟩
  rw [isActive_insert _ hinsert] at hother
  split at hother
  · next heq => exact heq
  · exact absurd hother (hnone other)

/-- A deletion makes nothing active. -/
theorem isActive_of_delete {key : String} {r : Unit} (h : delete key s = (.ok r, s'))
    (hnew : s'.IsActive id) : s.IsActive id := by
  obtain ⟨p, -, -, rfl⟩ := delete_eq_ok h
  obtain ⟨q, hq, ha⟩ := hnew
  rw [pipelines_dropQueue, Table.get?_erase] at hq
  split at hq
  · cases hq
  · exact ⟨q, hq, ha⟩

/-- A timer leads on from a status that is active already, if the next one is. -/
theorem isActive_of_fire (hreg : s.Regular) {t : Timer}
    (h : (step rules s (.fire o t)).IsActive id) : s.IsActive id := by
  rw [step] at h
  split at h
  · next hmem =>
    rcases transition_eq { s with timers := s.timers.erase t } o t.id t.source t.target with
      ⟨-, hsame⟩ | ⟨p, hp, -, hsource, -, -, hinsert⟩
    · rw [fire, hsame] at h
      exact h
    · rw [fire, isActive_insert _ hinsert] at h
      split at h
      · next heq =>
        subst heq
        exact ⟨p, hp, hsource ▸ Status.isActive_of_completion? (hreg t hmem) h⟩
      · exact h
  · exact h

/-- What an operation makes active is either created while nothing is active, and is then the only
one, or it is stopped and is resumed. -/
theorem rouse_of_perform (hrules : rules.singleActive = true) {op : Operation} {reply : op.Reply}
    (hop : perform rules o op s = (.ok reply, s')) (hnew : s'.IsActive id) :
    s.IsActive id ∨
      ((∀ other, ¬ s.IsActive other) ∧ ∀ other, s'.IsActive other → other = id) ∨
      op = .act id .resume ∧ s.status? id = some .stopped := by
  cases op with
  | create config =>
    obtain ⟨hnone, honly⟩ := rouse_of_create hrules hop
    obtain rfl := honly id hnew
    exact .inr (.inl ⟨hnone, honly⟩)
  | rename key name =>
    obtain ⟨p, hp, rfl⟩ := rename_eq_ok hop
    exact .inl (isActive_of_put hp hnew rfl)
  | edit key config =>
    obtain ⟨p, hp, -, rfl⟩ := edit_eq_ok hop
    exact .inl (isActive_of_put hp hnew rfl)
  | delete key => exact .inl (isActive_of_delete hop hnew)
  | act key action =>
    rcases rouse_of_act hop hnew with hold | ⟨rfl, rfl, hstopped⟩
    · exact .inl hold
    · exact .inr (.inr ⟨rfl, hstopped⟩)
  | terminateAll =>
    obtain rfl : (s.terminateAll rules o).2 = s' := congrArg Prod.snd hop
    exact .inl (isActive_of_terminateEach _ hnew)
  | _ =>
    have hpipelines := (perform_of_not_drivesPipelines rfl hop).1
    exact .inl ((isActive_iff_of_pipelines hpipelines).1 hnew)

/-- What an operation or a timer makes active is created, as the only one, or resumed. -/
theorem rouse_of_step (hrules : rules.singleActive = true) (hreg : s.Regular) {e : Event}
    (he : e.IsService) (hnew : (step rules s e).IsActive id) :
    s.IsActive id ∨
      ((∀ other, ¬ s.IsActive other) ∧ ∀ other, (step rules s e).IsActive other → other = id) ∨
      ∃ o, e = .perform o (.act id .resume) ∧ s.status? id = some .stopped := by
  cases e with
  | simulate => exact he.elim
  | transition => exact he.elim
  | fire o t => exact .inl (isActive_of_fire hreg hnew)
  | perform o op =>
    rcases perform_cases rules o op s with ⟨reply, s', hop⟩ | ⟨fault, hop⟩
    · have hstep : step rules s (.perform o op) = s' := by rw [step, hop]
      rw [hstep] at hnew ⊢
      rcases rouse_of_perform hrules hop hnew with hold | honly | ⟨rfl, hstopped⟩
      · exact .inl hold
      · exact .inr (.inl honly)
      · exact .inr (.inr ⟨o, rfl, hstopped⟩)
    · have hsame : step rules s (.perform o op) = s := by rw [step, hop]
      exact .inl (hsame ▸ hnew)

/-- Unless it overfills the quota, an event keeps it. -/
theorem quota_of_step (hrules : rules.singleActive = true) (hreg : s.Regular) {e : Event}
    (he : e.IsService) (hquota : s.activeCount ≤ 1) (hfits : ¬ s.Overfills e) :
    (step rules s e).activeCount ≤ 1 := by
  rw [activeCount_le_one_iff] at hquota ⊢
  -- Two pipelines that are active after the event: each was before, or was just made so.
  intro a ha b hb
  rcases rouse_of_step hrules hreg he ha with holda | ⟨-, honly⟩ | ⟨o, rfl, hstopped⟩
  · rcases rouse_of_step hrules hreg he hb with holdb | ⟨-, honly⟩ | ⟨o, rfl, hstopped⟩
    · exact hquota a holda b holdb
    · exact honly a ha
    · exact absurd ⟨hstopped, fun h => active?_eq_none_iff_not_isActive.1 h a holda⟩ hfits
  · exact (honly b hb).symm
  · rcases rouse_of_step hrules hreg he hb with holdb | ⟨-, honly⟩ | ⟨o', heq, -⟩
    · exact absurd ⟨hstopped, fun h => active?_eq_none_iff_not_isActive.1 h b holdb⟩ hfits
    · exact honly a ha
    · cases heq
      rfl

/-- What overfills the quota breaks it. -/
theorem one_lt_activeCount_of_overfills {e : Event} (h : s.Overfills e) :
    1 < (step rules s e).activeCount := by
  cases e with
  | perform o op =>
    cases op with
    | act key action =>
      cases action with
      | resume =>
        obtain ⟨hstopped, hactive⟩ := h
        obtain ⟨p, hp, hstatus⟩ := Option.map_eq_some_iff.1 hstopped
        obtain ⟨other, hother⟩ : ∃ other, s.IsActive other := by
          by_contra hnone
          exact hactive (active?_eq_none_iff_not_isActive.2 fun id hid => hnone ⟨id, hid⟩)
        have hne : other ≠ key := by
          rintro rfl
          exact not_isActive_of_stopped hstopped hother
        have hallowed : Action.resume.isAllowed p.status = true := by rw [hstatus]; rfl
        have hinsert : (step rules s (.perform o (.act key .resume))).pipelines =
            s.pipelines.insert key { p with status := .resuming, updatedAt := o.time } := by
          rw [step, perform, act_of_allowed hp hallowed]
          rfl
        by_contra hle
        refine hne (activeCount_le_one_iff.1 (Nat.le_of_not_lt hle) other ?_ key ?_)
        · rw [isActive_insert _ hinsert, if_neg hne]
          exact hother
        · rw [isActive_insert _ hinsert, if_pos rfl]
          rfl
      | _ => exact h.elim
    | _ => exact h.elim
  | _ => exact h.elim

end Rouse

/-! ### The quota in a run -/

section Quota

variable (rules : Rules)

/-- With the quota on, at most one pipeline is active throughout a run of operations and timers
exactly when the run never resumes a stopped pipeline while another one is active. -/
theorem quota_holds_iff (hrules : rules.singleActive = true) (welcomeAt lagAt : Timestamp)
    (events : List Event) (he : ∀ e ∈ events, e.IsService) :
    let start := fresh welcomeAt lagAt
    (∀ before, before <+: events → (run rules start before).activeCount ≤ 1) ↔
      ∀ before e, before ++ [e] <+: events → ¬ (run rules start before).Overfills e := by
  intro start
  constructor
  · intro hquota before e hpre hover
    have hstep := hquota _ hpre
    rw [run_append] at hstep
    exact absurd hstep (Nat.not_le_of_lt (one_lt_activeCount_of_overfills hover))
  · intro hfits before
    -- The quota is carried along the run, event by event.
    induction before using List.reverseRecOn with
    | nil => exact fun _ => Nat.zero_le 1
    | append_singleton before e ih =>
      intro hpre
      have hbefore : before <+: events := (List.prefix_append before [e]).trans hpre
      have hreg : (run rules start before).Regular :=
        regular_run (regular_fresh welcomeAt lagAt) fun e' he' => he e' (hbefore.subset he')
      rw [run_append]
      exact quota_of_step hrules hreg (he e (hpre.subset (by simp))) (ih hbefore)
        (hfits before e hpre)

end Quota

/-! ### A run past the quota -/

/-- The first moment of a year. -/
def newYear : Timestamp := ⟨⟨2024, 1, 1, by decide⟩, 0, 0, by decide⟩

/-- A pipeline is stopped, a second one is created, and the first one is resumed. -/
def overfullRun : List Event :=
  let config (id : String) : PipelineConfig :=
    { id, name := "Orders", source := .object [("topics", .array [.null])], sink := .object [] }
  let after (ms : Nat) : Occasion := ⟨ms, newYear, "fresh", []⟩
  [.perform (after 0) (.create (config "a")),
    .fire (after 1000) ⟨"a", .created, .running, 1000, newYear, none⟩,
    .perform (after 1000) (.act "a" .stop),
    .fire (after 3000) ⟨"a", .stopping, .stopped, 3000, newYear, none⟩,
    .perform (after 3000) (.create (config "b")),
    .perform (after 3000) (.act "a" .resume)]

theorem isService_of_mem_overfullRun : ∀ e ∈ overfullRun, e.IsService := by
  simp [overfullRun, Event.IsService]

/-- The criterion finds the event that overfills the quota in this run. -/
theorem overfullRun_overfills :
    ∃ before e, before ++ [e] <+: overfullRun ∧
      (run {} (fresh newYear newYear) before).Overfills e := by
  by_contra hfits
  have hquota := (quota_holds_iff {} rfl newYear newYear overfullRun isService_of_mem_overfullRun).2
    fun before e hpre hover => hfits ⟨before, e, hpre, hover⟩
  exact absurd (hquota overfullRun (List.prefix_refl _)) (by decide)

/-- Two pipelines are active after it, in spite of the quota. -/
theorem quota_is_no_invariant :
    ¬ ∀ (rules : Rules) (welcomeAt lagAt : Timestamp) (events : List Event),
      rules.singleActive = true → (∀ e ∈ events, e.IsService) →
        (run rules (fresh welcomeAt lagAt) events).activeCount ≤ 1 :=
  fun h => absurd (h {} newYear newYear overfullRun rfl isService_of_mem_overfullRun) (by decide)

end Orchestrator

end PipelineConsole
