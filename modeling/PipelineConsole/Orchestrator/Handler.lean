import PipelineConsole.Orchestrator.Basic
import PipelineConsole.Orchestrator.Fault

/-!
# Handlers of calls

A handler answers a call or refuses it. In either case it leaves a state: what it has changed before
it refuses the call stays changed.

## Main definitions

* `Handler` — handlers, which are put together with `do`
* `Handler.look`, `Handler.ensure`, `Handler.commit`, `Handler.update` — what they are made of

## Main results

* `Handler.bind_eq_ok`, and its cases for the parts above — one handler after another
-/

namespace PipelineConsole.Orchestrator

/-- What handles a call: an answer or a fault, and the state after it, from the state before it. -/
def Handler (α : Type) : Type := Orchestrator → Except Fault α × Orchestrator

namespace Handler

variable {α β : Type} {a : α} {b : β} {u : Unit} {s t : Orchestrator}

/-- A fault ends a handler in the state that has been reached. -/
instance : Monad Handler where
  pure a := fun s => (.ok a, s)
  bind x f := fun s =>
    match x s with
    | (.ok a, s) => f a s
    | (.error fault, s) => (.error fault, s)

/-- Looks at the state for an answer. -/
def look (f : Orchestrator → Except Fault α) : Handler α := fun s => (f s, s)

/-- Refuses the call unless a condition holds. -/
def ensure (condition : Bool) (otherwise : Fault) : Handler Unit :=
  look fun _ => if condition then .ok () else .error otherwise

/-- Answers and changes the state. -/
def commit (f : Orchestrator → α × Orchestrator) : Handler α := fun s =>
  let (a, s) := f s
  (.ok a, s)

/-- Changes the state. -/
def update (f : Orchestrator → Orchestrator) : Handler Unit := commit fun s => ((), f s)

@[simp] theorem pure_apply (a : α) (s : Orchestrator) : (pure a : Handler α) s = (.ok a, s) := rfl

@[simp] theorem bind_apply (x : Handler α) (f : α → Handler β) (s : Orchestrator) :
    (x >>= f) s =
      match x s with
      | (.ok a, s) => f a s
      | (.error fault, s) => (.error fault, s) := rfl

@[simp] theorem look_apply (f : Orchestrator → Except Fault α) (s : Orchestrator) :
    look f s = (f s, s) := rfl

@[simp] theorem commit_apply (f : Orchestrator → α × Orchestrator) (s : Orchestrator) :
    commit f s = (.ok (f s).1, (f s).2) := rfl

@[simp] theorem update_apply (f : Orchestrator → Orchestrator) (s : Orchestrator) :
    update f s = (.ok (), f s) := rfl

/-! ### Calls that are answered -/

theorem pure_eq_ok {a' : α} : (pure a : Handler α) s = (.ok a', t) ↔ a = a' ∧ s = t := by
  rw [pure_apply, Prod.mk.injEq, Except.ok.injEq]

/-- A call is answered if both handlers have an answer, one after the other. -/
theorem bind_eq_ok {x : Handler α} {f : α → Handler β} :
    (x >>= f) s = (.ok b, t) ↔ ∃ a r, x s = (.ok a, r) ∧ f a r = (.ok b, t) := by
  rw [bind_apply]
  rcases x s with ⟨fault | a, r⟩
  · exact iff_of_false nofun fun ⟨_, _, h, _⟩ => nomatch h
  · constructor
    · intro h
      exact ⟨a, r, rfl, h⟩
    · rintro ⟨_, _, ⟨⟩, h⟩
      exact h

theorem commit_eq_ok {f : Orchestrator → α × Orchestrator} :
    commit f s = (.ok a, t) ↔ f s = (a, t) := by
  rw [commit_apply, Prod.mk.injEq, Except.ok.injEq, Prod.ext_iff]

theorem update_eq_ok {f : Orchestrator → Orchestrator} :
    update f s = (.ok u, t) ↔ f s = t := by
  rw [update_apply, Prod.mk.injEq, and_iff_right rfl]

theorem look_bind_eq_ok {f : Orchestrator → Except Fault α} {g : α → Handler β} :
    (look f >>= g) s = (.ok b, t) ↔ ∃ a, f s = .ok a ∧ g a s = (.ok b, t) := by
  rw [bind_eq_ok]
  constructor
  · rintro ⟨a, r, hlook, h⟩
    obtain ⟨ha, rfl⟩ := Prod.mk.inj hlook
    exact ⟨a, ha, h⟩
  · rintro ⟨a, ha, h⟩
    exact ⟨a, s, Prod.ext ha rfl, h⟩

theorem ensure_bind_eq_ok {condition : Bool} {otherwise : Fault} {g : Unit → Handler β} :
    (ensure condition otherwise >>= g) s = (.ok b, t) ↔
      condition = true ∧ g () s = (.ok b, t) := by
  rw [ensure, look_bind_eq_ok]
  cases condition with
  | false => exact iff_of_false nofun nofun
  | true => exact ⟨fun ⟨_, _, h⟩ => ⟨rfl, h⟩, fun h => ⟨(), rfl, h.2⟩⟩

theorem update_bind_eq_ok {f : Orchestrator → Orchestrator} {g : Unit → Handler β} :
    (update f >>= g) s = (.ok b, t) ↔ g () (f s) = (.ok b, t) := .rfl

end Handler

end PipelineConsole.Orchestrator
