import PipelineConsole.Proofs.Backend.Documents
import PipelineConsole.Proofs.Orchestrator.Run

/-!
# The pipelines of the orchestrator are read back

A pipeline is kept under its id, which is never empty, and the stages of its configuration are read
back. Configurations that are read back keep it so, whatever is done with them.

## Main definitions

* `Orchestrator.Keyed` — every pipeline is kept under its id
* `Orchestrator.Readable` — every pipeline is read back
* `Operation.Readable` — what an operation asks for is read back

## Main results

* `Orchestrator.keyed_run` — no run puts a pipeline under another id
* `Orchestrator.Readable.perform`, `Orchestrator.Readable.fire` — pipelines stay that way
-/

namespace PipelineConsole

/-- What is sent to try transforms is read back, and so are the values that come of it. -/
structure TransformRequest.Readable (r : TransformRequest) : Prop where
  kept : r.sample.Kept sampleDepth
  legible : (codec.encode r).Legible
  answer : ∀ v, Orchestrator.evaluateTransform r = .ok v → v.Legible

/-- What an operation asks for is read back. -/
def Operation.Readable : Operation → Prop
  | create config | edit _ config => config.Readable
  | evaluateTransform request => request.Readable
  | _ => True

namespace Orchestrator

/-! ### Ids -/

/-- Every pipeline is kept under its id. -/
def Keyed (s : Orchestrator) : Prop := ∀ id p, s.pipelines.get? id = some p → p.id = id

section Keyed

variable {s s' : Orchestrator} {rules : Rules} {o : Occasion} {id : String} {p q : Pipeline}

theorem Keyed.of_pipelines (h : s.Keyed) (heq : s'.pipelines = s.pipelines) : s'.Keyed :=
  fun id p hp => h id p (heq ▸ hp)

theorem Keyed.of_insert (h : s.Keyed) (heq : s'.pipelines = s.pipelines.insert id p)
    (hp : p.id = id) : s'.Keyed := by
  intro other q hq
  rw [heq, Table.get?_insert] at hq
  split at hq
  · next hother =>
    obtain rfl := Option.some.inj hq
    exact hp.trans hother.symm
  · exact h other q hq

/-- A pipeline that is there may be replaced by one with its id. -/
theorem Keyed.of_change (h : s.Keyed) (hp : s.pipelines.get? id = some p)
    (heq : s'.pipelines = s.pipelines.insert id q) (hid : q.id = p.id) : s'.Keyed :=
  h.of_insert heq (hid.trans (h id p hp))

theorem Keyed.act {action : Action} {status : Status} (h : s.Keyed)
    (hact : act rules o id action s = (.ok status, s')) : s'.Keyed := by
  obtain ⟨p, hp, -, rfl⟩ := act_eq_ok hact
  exact h.of_change hp rfl rfl

theorem Keyed.terminateEach (ids : List String) (h : s.Keyed) :
    (terminateEach rules o ids s).2.Keyed :=
  terminateEach_induction (motive := Keyed) (fun _ _ _ _ hs hact => hs.act hact) ids h

theorem Keyed.perform {op : Operation} {reply : op.Reply} (h : s.Keyed)
    (hop : perform rules o op s = (.ok reply, s')) : s'.Keyed := by
  cases op with
  | create config =>
    obtain ⟨-, -, hpipelines, -⟩ := create_eq_ok hop
    exact h.of_insert hpipelines rfl
  | rename id name =>
    obtain ⟨p, hp, rfl⟩ := rename_eq_ok hop
    exact h.of_change hp rfl rfl
  | edit id config =>
    obtain ⟨p, hp, -, rfl⟩ := edit_eq_ok hop
    exact h.of_change hp rfl rfl
  | delete id =>
    obtain ⟨p, -, -, rfl⟩ := delete_eq_ok hop
    intro other q hq
    rw [pipelines_dropQueue, Table.get?_erase] at hq
    split at hq
    · cases hq
    · exact h other q hq
  | act id action => exact h.act hop
  | terminateAll =>
    obtain rfl : (s.terminateAll rules o).2 = s' := congrArg Prod.snd hop
    exact h.terminateEach _
  | _ => exact h.of_pipelines (perform_of_not_drivesPipelines rfl hop).1

theorem Keyed.transition (h : s.Keyed) (o : Occasion) (id : String) (source target : Status) :
    (s.transition o id source target).2.Keyed := by
  rcases transition_eq s o id source target with ⟨-, hsame⟩ | ⟨p, hp, -, -, -, -, hmoved⟩
  · rw [hsame]
    exact h
  · exact h.of_change hp hmoved rfl

theorem Keyed.step (h : s.Keyed) (rules : Rules) (e : Event) : (step rules s e).Keyed := by
  cases e with
  | perform o op => exact perform_induction h fun _ _ hop => h.perform hop
  | fire o t =>
    rw [Orchestrator.step]
    split
    · have herased : Keyed { s with timers := s.timers.erase t } := h
      exact herased.transition o t.id t.source t.target
    · exact h
  | simulate o id source target delay => exact h
  | transition o id source target => exact h.transition o id source target

/-- Whatever happens, every pipeline stays under its id. -/
theorem keyed_run (h : s.Keyed) (rules : Rules) (events : List Event) :
    (run rules s events).Keyed := by
  induction events generalizing s with
  | nil => exact h
  | cons e rest ih => exact ih (h.step rules e)

theorem keyed_fresh (welcomeAt lagAt : Timestamp) : (fresh welcomeAt lagAt).Keyed :=
  fun _ _ hp => nomatch hp

/-- No id comes twice among the pipelines. -/
theorem Keyed.nodup (h : s.Keyed) : (s.pipelines.values.map Pipeline.id).Nodup := by
  have hids : s.pipelines.values.map Pipeline.id = s.pipelines.keys := by
    rw [Table.values, Table.keys, List.map_map]
    exact List.map_congr_left fun e he => h e.1 e.2 (Table.mem_entries_iff.1 he)
  exact hids.symm ▸ s.pipelines.nodup

/-- No pipeline is terminated twice. -/
theorem Keyed.nodup_candidates (h : s.Keyed) (o : Occasion) : (s.candidates o).Nodup := by
  have hperm := (s.pipelines.valuesFrom_perm o.order).map Pipeline.id
  exact (hperm.nodup_iff.2 h.nodup).sublist (List.filter_sublist.map _)

end Keyed

/-! ### What is read back -/

/-- Every pipeline is kept under its id, which is not empty, and is read back. -/
def Readable (s : Orchestrator) : Prop :=
  ∀ id p, s.pipelines.get? id = some p → id ≠ "" ∧ p.id = id ∧ p.config.Readable

section Readable

variable {s s' : Orchestrator} {rules : Rules} {o : Occasion} {id : String} {p : Pipeline}

theorem Readable.keyed (h : s.Readable) : s.Keyed := fun id p hp => (h id p hp).2.1

theorem Readable.of_pipelines (h : s.Readable) (heq : s'.pipelines = s.pipelines) :
    s'.Readable := by
  intro id p hp
  exact h id p (heq ▸ hp)

theorem Readable.of_insert (h : s.Readable) (heq : s'.pipelines = s.pipelines.insert id p)
    (hid : id ≠ "") (hp : p.id = id) (hconfig : p.config.Readable) : s'.Readable := by
  intro other q hq
  rw [heq, Table.get?_insert] at hq
  split at hq
  · next hother =>
    obtain rfl := Option.some.inj hq
    exact ⟨hother ▸ hid, hp.trans hother.symm, hconfig⟩
  · exact h other q hq

/-- A pipeline that is there may be changed, if its configuration is still read back. -/
theorem Readable.of_change {q : Pipeline} (h : s.Readable) (hp : s.pipelines.get? id = some p)
    (heq : s'.pipelines = s.pipelines.insert id q) (hid : q.id = p.id)
    (hconfig : p.config.Readable → q.config.Readable) : s'.Readable := by
  obtain ⟨hne, hpid, hreadable⟩ := h id p hp
  exact h.of_insert heq hne (hid.trans hpid) (hconfig hreadable)

theorem Readable.act {action : Action} {status : Status} (h : s.Readable)
    (hact : act rules o id action s = (.ok status, s')) : s'.Readable := by
  obtain ⟨p, hp, -, rfl⟩ := act_eq_ok hact
  exact h.of_change hp rfl rfl fun hconfig => { hconfig with }

theorem Readable.terminateEach (ids : List String) (h : s.Readable) :
    (terminateEach rules o ids s).2.Readable :=
  terminateEach_induction (motive := Readable) (fun _ _ _ _ hs hact => hs.act hact) ids h

/-- A new pipeline has an id, if there is always a fresh one. -/
theorem ne_empty_of_create {config : PipelineConfig} (hfresh : o.freshId ≠ "")
    (h : create rules o config s = (.ok id, s')) : id ≠ "" := by
  obtain ⟨-, rfl, -⟩ := create_steps h
  split
  · exact hfresh
  · next hblank =>
    intro hempty
    exact hblank (by rw [hempty]; rfl)

/-- Operations that are read back keep the pipelines readable. -/
theorem Readable.perform {op : Operation} {reply : op.Reply} (h : s.Readable)
    (hfresh : o.freshId ≠ "") (hop : op.Readable)
    (hperform : perform rules o op s = (.ok reply, s')) :
    s'.Readable := by
  cases op with
  | create config =>
    obtain ⟨-, -, hpipelines, -⟩ := create_eq_ok hperform
    exact h.of_insert hpipelines (ne_empty_of_create hfresh hperform) rfl { hop with }
  | rename id name =>
    obtain ⟨p, hp, rfl⟩ := rename_eq_ok hperform
    exact h.of_change hp rfl rfl fun hconfig => { hconfig with }
  | edit id config =>
    obtain ⟨p, hp, -, rfl⟩ := edit_eq_ok hperform
    exact h.of_change hp rfl rfl fun _ => { hop with }
  | delete id =>
    obtain ⟨p, hp, -, rfl⟩ := delete_eq_ok hperform
    intro other q hq
    rw [pipelines_dropQueue, Table.get?_erase] at hq
    split at hq
    · cases hq
    · exact h other q hq
  | act id action => exact h.act hperform
  | terminateAll =>
    obtain rfl : (s.terminateAll rules o).2 = s' := congrArg Prod.snd hperform
    exact h.terminateEach _
  | _ => exact h.of_pipelines (perform_of_not_drivesPipelines rfl hperform).1

/-- Timers keep the pipelines readable. -/
theorem Readable.fire (h : s.Readable) (o : Occasion) (t : Timer) : (s.fire o t).2.Readable := by
  rcases transition_eq { s with timers := s.timers.erase t } o t.id t.source t.target with
    ⟨-, hkept⟩ | ⟨p, hp, -, -, -, -, hmoved⟩
  · rw [Orchestrator.fire, hkept]
    exact h
  · exact h.of_change hp hmoved rfl fun hconfig => { hconfig with }

end Readable

end Orchestrator

end PipelineConsole
