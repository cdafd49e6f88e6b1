import PipelineConsole.Proofs.Sync.Delivery

/-!
# Pipelines that are not watched

A pipeline that is unwatched is forgotten, but updates of it may still be queued, and the worker
sends more of them until it has been told. None of these may bring the pipeline back: an update is
applied only while its pipeline is watched, and the test and the change of the cache are one step.

Overrides are another matter. They are set by the user, who may set them for any pipeline; they are
no knowledge about it.

## Main definitions

* `StatusSync.Forgetful` — nothing is known of a pipeline that is not watched

## Main results

* `Forgetful.step`, `forgetful_run` — every event keeps it so
* `unwatched_is_unknown` — in every run, the entry of a pipeline that is not watched is bare
-/

namespace PipelineConsole.StatusSync

/-- Nothing is known of a pipeline that the manager does not watch. -/
def Forgetful (s : StatusSync) : Prop := ∀ id, id ∉ s.watched → s.known id = (none, none)

section Forgetful

variable {s : StatusSync} {id : String} {e : Event}

/-- What was not watched before an event is not among the updates that the event applies. -/
theorem id_ne_of_mem_applies {u : Update} (h : id ∉ s.watched) (hu : u ∈ s.applies e) :
    u.id ≠ id := by
  have hwatched : u.id ∈ s.watched := by simpa using (List.mem_filter.1 hu).2
  exact fun heq => h (heq ▸ hwatched)

/-- A pipeline that is unwatched is forgotten with its entry. -/
theorem known_unwatch (s : StatusSync) (id : String) : (s.unwatch id).known id = (none, none) := by
  rw [known, unwatch, Table.get?_erase, if_pos rfl]
  rfl

theorem Forgetful.step (h : s.Forgetful) (e : Event) : (step s e).Forgetful := by
  intro id hid
  by_cases hkept : e = .unwatch id
  · subst hkept
    exact known_unwatch s id
  · have hbefore : id ∉ s.watched := fun hmem => hid (watched_step hmem hkept)
    rw [known_step hkept, Update.foldl_learn_of_ne fun u hu => id_ne_of_mem_applies hbefore hu]
    exact h id hbefore

theorem forgetful_run (h : s.Forgetful) (events : List Event) : (run s events).Forgetful := by
  induction events generalizing s with
  | nil => exact h
  | cons e rest ih => exact ih (h.step e)

/-- A manager that is about to start knows nothing. -/
theorem forgetful_start (config : TransportConfig) (life : Option Nat) (ids : List String) :
    (start config life ids).Forgetful :=
  fun _ _ => rfl

end Forgetful

/-- In every state that a run leads to, a pipeline that is not watched has no entry, or one without
confirmed status and without failure, whatever is queued for it or is still sent. -/
theorem unwatched_is_unknown (config : TransportConfig) (life : Option Nat) (ids : List String)
    (events : List Event) (id : String)
    (hid : id ∉ (run (start config life ids) events).watched) :
    ∀ entry, (run (start config life ids) events).cache.get? id = some entry →
      entry.confirmed = none ∧ entry.error = none := by
  intro entry hentry
  have hknown := forgetful_run (forgetful_start config life ids) events id hid
  rw [known, hentry] at hknown
  exact Prod.mk.inj hknown

/-- A status is queued when the pipeline is unwatched, the worker sends another one before it hears
of that, and the user shows a status of his own in between. -/
def lateNews : List Event :=
  let time : Timestamp := ⟨⟨2025, 9, 1, by decide⟩, 30600, 0, by decide⟩
  [.work .opened, .work (.event (.statusUpdate ⟨"orders", .running, none⟩ time)), .applyNext,
    .work (.event (.statusUpdate ⟨"orders", .pausing, none⟩ time)), .unwatch "orders",
    .work (.event (.statusUpdate ⟨"orders", .paused, none⟩ time)),
    .assume 500 "orders" .stopping, .applyNext, .applyNext]

/-- All that is left of the pipeline then is what the user shows. -/
theorem lateNews_unknown :
    let s := run (start {} none ["orders"]) lateNews
    s.updates = [] ∧ ∀ entry, s.cache.get? "orders" = some entry →
      entry.effective = some .stopping ∧ entry.confirmed = none ∧ entry.error = none := by
  intro s
  have hentry : s.cache.get? "orders" = some ⟨none, some ⟨.stopping, 500⟩, none⟩ := by decide
  refine ⟨by decide, fun entry h => ⟨?_, ?_⟩⟩
  · rw [hentry] at h
    rw [← Option.some.inj h]
    rfl
  · exact unwatched_is_unknown {} none ["orders"] lateNews "orders" (by decide) entry h

end PipelineConsole.StatusSync
