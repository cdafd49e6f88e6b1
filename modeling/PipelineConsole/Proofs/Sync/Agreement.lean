import PipelineConsole.Proofs.Sync.Reports

/-!
# Workers that report alike

What a worker reports depends on the pipelines that it watches and on what it has reported last, and
on nothing else. Two workers that agree in both report the same from then on.

## Main definitions

* `Worker.run` — the worker after some inputs, and its updates
* `Worker.Agree` — two workers that report alike

## Main results

* `run_append`, `observeAll_append` — inputs and changes one after another
* `Agree.observeAll` — workers that agree report the same changes
-/

namespace PipelineConsole.Worker

/-- The worker after some inputs, and the updates that it has sent on them. -/
def run : Worker → List Input → Worker × List Update
  | w, [] => (w, [])
  | w, input :: inputs =>
    (((w.step input).1.run inputs).1, (w.step input).2 ++ ((w.step input).1.run inputs).2)

@[simp] theorem run_nil (w : Worker) : w.run [] = (w, []) := rfl

theorem run_cons (w : Worker) (input : Input) (inputs : List Input) :
    w.run (input :: inputs) =
      (((w.step input).1.run inputs).1, (w.step input).2 ++ ((w.step input).1.run inputs).2) := rfl

theorem run_append (w : Worker) (inputs later : List Input) :
    w.run (inputs ++ later) =
      (((w.run inputs).1.run later).1, (w.run inputs).2 ++ ((w.run inputs).1.run later).2) := by
  induction inputs generalizing w with
  | nil => rfl
  | cons input inputs ih => rw [List.cons_append, run_cons, run_cons, ih, List.append_assoc]

theorem observeAll_cons (w : Worker) (c : StatusChange) (changes : List StatusChange) :
    w.observeAll (c :: changes) =
      (((w.observe c.id c.status).1.observeAll changes).1,
        (w.observe c.id c.status).2 ++ ((w.observe c.id c.status).1.observeAll changes).2) := rfl

@[simp] theorem observeAll_singleton (w : Worker) (c : StatusChange) :
    w.observeAll [c] = w.observe c.id c.status := by
  rw [observeAll_cons]
  exact congrArg (Prod.mk _) (List.append_nil _)

theorem observeAll_append (w : Worker) (changes later : List StatusChange) :
    w.observeAll (changes ++ later) =
      (((w.observeAll changes).1.observeAll later).1,
        (w.observeAll changes).2 ++ ((w.observeAll changes).1.observeAll later).2) := by
  induction changes generalizing w with
  | nil => rfl
  | cons c changes ih =>
    rw [List.cons_append, observeAll_cons, observeAll_cons, ih, List.append_assoc]

@[simp] theorem watched_observeAll (w : Worker) (changes : List StatusChange) :
    (w.observeAll changes).1.watched = w.watched := by
  induction changes generalizing w with
  | nil => rfl
  | cons c changes ih => rw [observeAll_cons, ih, watched_observe]

/-! ### Workers that report alike -/

/-- Two workers watch the same pipelines and have reported the same last. -/
structure Agree (w v : Worker) : Prop where
  watched : w.watched = v.watched
  lastSeen : w.lastSeen = v.lastSeen

section Agree

variable {w v : Worker}

theorem Agree.observe (h : Agree w v) (id : String) (status : Status) :
    Agree (w.observe id status).1 (v.observe id status).1 ∧
      (w.observe id status).2 = (v.observe id status).2 := by
  unfold Worker.observe
  rw [h.watched, h.lastSeen]
  split
  · exact ⟨h, rfl⟩
  · exact ⟨⟨rfl, rfl⟩, rfl⟩

theorem Agree.observeAll (h : Agree w v) (changes : List StatusChange) :
    Agree (w.observeAll changes).1 (v.observeAll changes).1 ∧
      (w.observeAll changes).2 = (v.observeAll changes).2 := by
  induction changes generalizing w v with
  | nil => exact ⟨h, rfl⟩
  | cons c changes ih =>
    obtain ⟨hnext, hnow⟩ := h.observe c.id c.status
    obtain ⟨hlast, hlater⟩ := ih hnext
    rw [observeAll_cons, observeAll_cons, hnow, hlater]
    exact ⟨hlast, rfl⟩

end Agree

end PipelineConsole.Worker
