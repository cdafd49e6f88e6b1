import PipelineConsole.Proofs.Orchestrator.Locality
import PipelineConsole.Scenario.Surroundings

/-!
# Pipelines stay well formed

Pipelines are written by creations, by changes of the name or of the configuration, by actions and
by timers. Each of these sets other parts of a pipeline, and a change of the name has a check of its
own. Whatever they are given, a pipeline stays under its own id, and its configuration is one that
would be accepted.

The id of a pipeline that is created without one is drawn at random. It is written with hexadecimal
digits and hyphens, so that it is not blank.

## Main definitions

* `IsRandomId` — what a random id looks like
* `Pipeline.WellFormed`, `Orchestrator.WellFormed` — well-formed pipelines, and states with no
  others

## Main results

* `WellFormed.step` — every event keeps it so
* `createdAt_of_run` — a pipeline keeps its time of creation as long as it is there
* `pipelines_stay_wellFormed` — in every run, together with what operations and timers leave alone
-/

namespace PipelineConsole

open Surroundings (moment)

/-- A random id in its usual form: 36 characters, which are hexadecimal digits and hyphens. -/
def IsRandomId (text : String) : Prop :=
  text.length = 36 ∧ text.toList ⊆ "0123456789abcdef-".toList

instance (text : String) : Decidable (IsRandomId text) := inferInstanceAs (Decidable (_ ∧ _))

/-- A random id is not blank. -/
theorem IsRandomId.not_blank {text : String} (h : IsRandomId text) :
    Text.isBlankText text = false := by
  have hplain : ∀ c ∈ "0123456789abcdef-".toList, Text.isBlank c = false := by
    simp [Text.isBlank]
  have hne : text.toList ≠ [] := by
    intro hnil
    have hlength := h.1
    rw [← String.length_toList, hnil] at hlength
    cases hlength
  obtain ⟨c, hc⟩ := List.exists_mem_of_ne_nil _ hne
  refine Bool.eq_false_iff.2 fun hblank => ?_
  rw [Text.isBlankText, List.all_eq_true] at hblank
  exact Bool.false_ne_true ((hplain c (h.2 hc)).symm.trans (hblank c hc))

namespace PipelineConfig

/-- The id is not among the things that are checked. -/
theorem check_withId (c : PipelineConfig) (id : String) : { c with id }.check = c.check := rfl

/-- Another name that is not blank passes the checks too. -/
theorem check_rename {c : PipelineConfig} {name : String} (h : c.check = .ok ())
    (hname : Text.isBlankText name = false) : { c with name }.check = .ok () := by
  unfold check at h ⊢
  split at h
  · cases h
  · rw [if_neg (by simp [hname])]
    exact h

end PipelineConfig

/-- A pipeline is stored under its own id, which is not blank, and its name, source, sink and join
pass the checks of a configuration. -/
structure Pipeline.WellFormed (key : String) (p : Pipeline) : Prop where
  own : p.id = key
  not_blank : Text.isBlankText key = false
  checked : p.config.check = .ok ()

namespace Orchestrator

/-- All pipelines are well formed. -/
def WellFormed (s : Orchestrator) : Prop :=
  ∀ id p, s.pipelines.get? id = some p → p.WellFormed id

/-- The fresh id of an operation is a random one. -/
def Event.DrawsId : Event → Prop
  | .perform o _ => IsRandomId o.freshId
  | _ => True

section WellFormed

variable {s s' : Orchestrator} {rules : Rules} {o : Occasion} {id name : String} {p q : Pipeline}
  {config : PipelineConfig}

/-! ### What is checked -/

/-- A configuration is checked before anything is created. -/
theorem check_of_create (h : create rules o config s = (.ok id, s')) : config.check = .ok () :=
  (create_steps h).1

/-- So is one that is to replace another. -/
theorem check_of_edit {r : Unit} (h : edit o id config s = (.ok r, s')) :
    config.check = .ok () := by
  obtain ⟨_, hcheck, -⟩ := Handler.look_bind_eq_ok.1 h
  exact mapError_eq_ok.1 hcheck

/-- A name that is given is not blank. -/
theorem not_blank_of_rename {r : Unit} (h : rename o id name s = (.ok r, s')) :
    Text.isBlankText name = false := by
  obtain ⟨hname, -⟩ := Handler.ensure_bind_eq_ok.1 h
  simpa using hname

/-- The id of a new pipeline is not blank. -/
theorem not_blank_of_create (ho : IsRandomId o.freshId)
    (h : create rules o config s = (.ok id, s')) : Text.isBlankText id = false := by
  rw [(create_steps h).2.1]
  split
  · exact ho.not_blank
  · next hid => exact Bool.eq_false_iff.2 hid

/-! ### What is kept -/

theorem WellFormed.of_pipelines (h : s.WellFormed) (heq : s'.pipelines = s.pipelines) :
    s'.WellFormed :=
  fun id p hp => h id p (heq ▸ hp)

theorem WellFormed.of_insert (h : s.WellFormed) (hp : p.WellFormed id)
    (heq : s'.pipelines = s.pipelines.insert id p) : s'.WellFormed := by
  intro other q hq
  rw [heq, Table.get?_insert] at hq
  split at hq
  · next hother =>
    obtain rfl := Option.some.inj hq
    exact hother ▸ hp
  · exact h other q hq

/-- A pipeline may be replaced by another one with its id that passes the checks. -/
theorem WellFormed.of_change (h : s.WellFormed) (hp : s.pipelines.get? id = some p)
    (heq : s'.pipelines = s.pipelines.insert id q) (hid : q.id = p.id)
    (hchecked : p.config.check = .ok () → q.config.check = .ok ()) : s'.WellFormed := by
  obtain ⟨hown, hnot_blank, hcheck⟩ := h id p hp
  exact h.of_insert ⟨hid.trans hown, hnot_blank, hchecked hcheck⟩ heq

theorem WellFormed.act {action : Action} {status : Status} (h : s.WellFormed)
    (hact : act rules o id action s = (.ok status, s')) : s'.WellFormed := by
  obtain ⟨p, hp, -, rfl⟩ := act_eq_ok hact
  exact h.of_change hp rfl rfl fun hcheck => hcheck

theorem WellFormed.terminateEach (ids : List String) (h : s.WellFormed) :
    (terminateEach rules o ids s).2.WellFormed :=
  terminateEach_induction (motive := WellFormed) (fun _ _ _ _ hs hact => hs.act hact) ids h

theorem WellFormed.perform (h : s.WellFormed) (ho : IsRandomId o.freshId) {op : Operation}
    {reply : op.Reply} (hop : perform rules o op s = (.ok reply, s')) : s'.WellFormed := by
  cases op with
  | create config =>
    obtain ⟨-, -, hpipelines, -⟩ := create_eq_ok hop
    have hcheck : config.check = .ok () := check_of_create hop
    have hnew : (Pipeline.ofConfig { config with id := reply } .created o.time).WellFormed reply :=
      ⟨rfl, not_blank_of_create ho hop, (config.check_withId reply).trans hcheck⟩
    exact h.of_insert hnew hpipelines
  | rename id name =>
    obtain ⟨p, hp, rfl⟩ := rename_eq_ok hop
    have hname : Text.isBlankText name = false := not_blank_of_rename hop
    exact h.of_change hp rfl rfl fun hcheck => PipelineConfig.check_rename hcheck hname
  | edit id config =>
    obtain ⟨p, hp, -, rfl⟩ := edit_eq_ok hop
    have hcheck : config.check = .ok () := check_of_edit hop
    exact h.of_change hp rfl rfl fun _ => (config.check_withId p.id).trans hcheck
  | delete id =>
    obtain ⟨p, -, -, rfl⟩ := delete_eq_ok hop
    intro other q hq
    rw [pipelines_dropQueue, Table.get?_erase] at hq
    split at hq
    · cases hq
    · exact h other q hq
  | act id action => exact h.act hop
  | terminateAll =>
    obtain rfl : (s.terminateAll rules o).2 = s' := congrArg Prod.snd hop
    exact h.terminateEach _
  | _ => exact h.of_pipelines (perform_of_not_drivesPipelines rfl hop).1

theorem WellFormed.transition (h : s.WellFormed) (o : Occasion) (id : String)
    (source target : Status) : (s.transition o id source target).2.WellFormed := by
  rcases transition_eq s o id source target with ⟨-, hsame⟩ | ⟨p, hp, -, -, -, -, hmoved⟩
  · rw [hsame]
    exact h
  · exact h.of_change hp hmoved rfl fun hcheck => hcheck

theorem WellFormed.step {e : Event} (h : s.WellFormed) (he : e.DrawsId) :
    (step rules s e).WellFormed := by
  cases e with
  | perform o op => exact perform_induction h fun _ _ hop => h.perform he hop
  | fire o t =>
    rw [Orchestrator.step]
    split
    · have herased : WellFormed { s with timers := s.timers.erase t } := h
      exact herased.transition o t.id t.source t.target
    · exact h
  | simulate o id source target delay => exact h
  | transition o id source target => exact h.transition o id source target

theorem wellFormed_run {events : List Event} (h : s.WellFormed)
    (he : ∀ e ∈ events, e.DrawsId) : (run rules s events).WellFormed := by
  induction events generalizing s with
  | nil => exact h
  | cons e rest ih =>
    rw [List.forall_mem_cons] at he
    exact ih (h.step he.1) he.2

/-- An orchestrator that has just started has no pipelines. -/
theorem wellFormed_fresh (welcomeAt lagAt : Timestamp) : (fresh welcomeAt lagAt).WellFormed :=
  fun _ _ hp => nomatch hp

/-! ### The time of creation -/

theorem Fate.createdAt_eq (h : Fate (some p) (some q)) : q.createdAt = p.createdAt := by
  cases h <;> rfl

/-- A pipeline that is there throughout a run keeps its time of creation. -/
theorem createdAt_of_run (events : List Event) (hp : s.pipelines.get? id = some p)
    (hthere : ∀ before, before <+: events → (run rules s before).pipelines.get? id ≠ none) :
    ∃ q, (run rules s events).pipelines.get? id = some q ∧ q.createdAt = p.createdAt := by
  induction events generalizing s p with
  | nil => exact ⟨p, hp, rfl⟩
  | cons e rest ih =>
    have hfate := fate_of_step rules s e id
    cases hnext : (step rules s e).pipelines.get? id with
    | none => exact absurd hnext (hthere [e] (List.prefix_append [e] rest))
    | some next =>
      rw [hp, hnext] at hfate
      obtain ⟨q, hq, hsame⟩ := ih hnext fun before hbefore =>
        hthere (e :: before) (List.cons_prefix_cons.2 ⟨rfl, hbefore⟩)
      exact ⟨q, hq, hsame.trans hfate.createdAt_eq⟩

end WellFormed

/-- In every run, each pipeline is stored under its own id, which is not blank, and its name,
source, sink and join pass the checks of a configuration. From there on it keeps its time of
creation as long as it is stored. An operation changes neither the pipeline nor the queue of an id
that it is not addressed to, unless it is to terminate all pipelines, and a timer changes nothing
that belongs to another id. -/
theorem pipelines_stay_wellFormed (rules : Rules) (welcomeAt lagAt : Timestamp)
    (events : List Event) (hdraws : ∀ e ∈ events, e.DrawsId) :
    let s := run rules (fresh welcomeAt lagAt) events
    (∀ id p, s.pipelines.get? id = some p → p.WellFormed id) ∧
      (∀ id p more, s.pipelines.get? id = some p →
        (∀ before, before <+: more → (run rules s before).pipelines.get? id ≠ none) →
        ∃ q, (run rules s more).pipelines.get? id = some q ∧ q.createdAt = p.createdAt) ∧
      (∀ o op other, op ≠ .terminateAll → op.addressee? o ≠ some other →
        (step rules s (.perform o op)).holdings other = s.holdings other) ∧
      ∀ o t other, other ≠ t.id → (step rules s (.fire o t)).holdings other = s.holdings other := by
  intro s
  refine ⟨wellFormed_run (wellFormed_fresh welcomeAt lagAt) hdraws,
    fun id p more hp hthere => createdAt_of_run more hp hthere, fun o op other hop hother => ?_,
    fun o t other hne => ?_⟩
  · exact perform_induction (motive := fun t => t.holdings other = s.holdings other) rfl
      fun _ _ h => holdings_of_perform hop hother h
  · rw [step]
    split
    · exact holdings_of_fire hne
    · rfl

/-- An id that was drawn at random. -/
def drawnId : String := "7d0b54e2-9c1f-4a86-b3a5-0e6f92d8c417"

/-- A pipeline is created without id, gets another name and is stopped; then its configuration is
replaced by one with another id. -/
def replacedRun : List Event :=
  let config (id name : String) : PipelineConfig :=
    { id, name, source := .object [("topics", .array [.null])], sink := .object [] }
  [.perform ⟨0, moment 0, drawnId, []⟩ (.create (config " " "Clicks")),
    .perform ⟨500, moment 1, drawnId, []⟩ (.rename drawnId "All clicks"),
    .fire ⟨1000, moment 1, drawnId, []⟩
      ⟨drawnId, .created, .running, 1000, moment 0, none⟩,
    .perform ⟨2000, moment 2, drawnId, []⟩ (.act drawnId .stop),
    .fire ⟨4000, moment 4, drawnId, []⟩
      ⟨drawnId, .stopping, .stopped, 4000, moment 2, none⟩,
    .perform ⟨5000, moment 5, drawnId, []⟩ (.edit drawnId (config "views" "Views"))]

/-- It is still stored under the id that was drawn, and under no other. -/
theorem replacedRun_wellFormed :
    let s := run {} (fresh (moment 0) (moment 0)) replacedRun
    (∀ e ∈ replacedRun, e.DrawsId) ∧ s.pipelines.keys = [drawnId] ∧
      s.pipelines.values.map Pipeline.name = ["Views"] ∧
      ∀ id p, s.pipelines.get? id = some p → p.WellFormed id := by
  intro s
  have hid : IsRandomId drawnId := by decide
  have hdraws : ∀ e ∈ replacedRun, e.DrawsId := by
    simp [replacedRun, Event.DrawsId, hid]
  exact ⟨hdraws, by decide, by decide,
    (pipelines_stay_wellFormed {} (moment 0) (moment 0) replacedRun hdraws).1⟩

end Orchestrator

end PipelineConsole
