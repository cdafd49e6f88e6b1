import PipelineConsole.Proofs.Backend.Answers
import PipelineConsole.Proofs.Orchestrator.Alike

/-!
# A remote backend performs what the orchestrator would

A remote backend in front of an orchestrator replies as one over an orchestrator like it, and
leaves the two alike, in whatever order either of them goes through its pipelines. Where all
pipelines are terminated, the order of their ids differs: the remote backend goes through the list
of pipelines, the newest first, the orchestrator sorts them.

## Main definitions

* `Orchestrator.errands` — the operations that the orchestrator is asked for
* `Operation.SameReply` — replies that are the same but for the order

## Main results

* `Remote.terminateAll_eq` — what a remote backend does to terminate all pipelines
* `Remote.perform_alike` — the remote backend and the orchestrator reply alike
-/

namespace PipelineConsole

/-- The operations that an orchestrator is asked for so that one is answered: a pipeline that was
changed is looked up, and terminating all pipelines takes their list and a request for each. -/
def Orchestrator.errands (s : Orchestrator) : Operation → List Operation
  | .terminateAll =>
    .list :: (s.pipelines.values.filter (·.status.canTerminate)).map fun p => .act p.id .terminate
  | op => op :: (op.shown?.map Operation.get).toList

theorem Orchestrator.errands_of_ne (s : Orchestrator) {op : Operation} (h : op ≠ .terminateAll) :
    s.errands op = op :: (op.shown?.map Operation.get).toList := by
  cases op with
  | terminateAll => exact absurd rfl h
  | _ => rfl

/-- Two replies are the same, but pipelines that were created at the same time may be listed in any
order, and so may the ids of terminated pipelines. -/
inductive Operation.SameReply :
    (op : Operation) → Except ErrorBody op.Reply → Except ErrorBody op.Reply → Prop where
  | refl (op : Operation) (reply : Except ErrorBody op.Reply) : SameReply op reply reply
  | listed {items items' : List Pipeline.ListItem} (h : items.Perm items')
      (htimes : items.map Pipeline.ListItem.createdAt = items'.map Pipeline.ListItem.createdAt) :
      SameReply .list (.ok items) (.ok items')
  | terminated {ids ids' : List String} (h : ids.Perm ids') :
      SameReply .terminateAll (.ok ids) (.ok ids')

/-- An operation that shows a pipeline has one reply. -/
theorem Operation.SameReply.eq_of_shown {op : Operation} {id : String}
    {x y : Except ErrorBody op.Reply} (h : op.SameReply x y) (hshown : op.shown? = some id) :
    x = y := by
  cases h with
  | refl => rfl
  | listed | terminated => cases hshown

/-- Refusals are the same. -/
theorem Operation.SameReply.error_inj {op : Operation} {e e' : ErrorBody}
    (h : op.SameReply (.error e) (.error e')) : e = e' := by
  cases h
  rfl

theorem Operation.ne_terminateAll_of_shown {op : Operation} {id : String}
    (h : op.shown? = some id) : op ≠ .terminateAll := by
  rintro rfl
  cases h

/-! ### The in-memory orchestrator -/

section InMemory

variable {rules : Orchestrator.Rules} {token : Option String} {o : Occasion} {op : Operation}
  {s s' : Orchestrator}

theorem Orchestrator.Alike.mem_errands_iff (h : s.Alike s') {errand : Operation} :
    errand ∈ s.errands op ↔ errand ∈ s'.errands op := by
  cases op with
  | terminateAll =>
    have hperm := (h.pipelines.values_perm.filter (·.status.canTerminate)).map
      fun p => Operation.act p.id .terminate
    rw [errands, errands, List.mem_cons, List.mem_cons, hperm.mem_iff]
  | _ => rfl

/-- Alike orchestrators reply the same and stay alike, in whatever order they go through their
pipelines. -/
theorem Orchestrator.Alike.inMemory (h : s.Alike s') (hone : op ≠ .terminateAll)
    (hop : s.Unambiguous rules op) (token : Option String) (o : Occasion) (order : List String) :
    let first := (Backend.inMemory rules).perform token o op s
    let second := (Backend.inMemory rules).perform token { o with order } op s'
    op.SameReply first.1 second.1 ∧ first.2.Alike second.2 := by
  intro first second
  have hsame (hout : Handler.SameOutcome Alike (Orchestrator.perform rules o op s)
      (Orchestrator.perform rules { o with order } op s')) :
      op.SameReply first.1 second.1 ∧ first.2.Alike second.2 := by
    have hreply : first.1 = second.1 := congrArg (Except.mapError Fault.toErrorBody) hout.answer
    rw [hreply]
    exact ⟨.refl op _, hout.states⟩
  cases op with
  | terminateAll => exact absurd rfl hone
  | create config => exact hsame (h.create hop o order config)
  | list => exact ⟨.listed (h.list o _).1 (h.list o _).2, h⟩
  | _ =>
    refine hsame ?_
    rw [perform_reorder rfl]
    exact h.perform rules o rfl

end InMemory

namespace Remote

variable {r : Remote} {rules : Orchestrator.Rules} {token : Option String} {o : Occasion}
  {op : Operation} {s s' : Orchestrator}

/-! ### Terminating all pipelines -/

/-- Terminating listed pipelines is terminating those whose status allows it. -/
theorem each_eq_terminateEach (token : Option String)
    {terminate : String → Orchestrator → Except ErrorBody Status × Orchestrator}
    {items : List Pipeline.ListItem} (hs : s.Readable)
    (h : ∀ item ∈ items, item.status.canTerminate = true → ∀ t : Orchestrator, t.Readable →
      terminate item.id t = (Backend.inMemory rules).perform token o (.act item.id .terminate) t) :
    Termination.each terminate items s =
      Orchestrator.terminateEach rules o
        ((items.filter (·.status.canTerminate)).map Pipeline.ListItem.id) s := by
  induction items generalizing s with
  | nil => rfl
  | cons item items ih =>
    obtain ⟨hitem, hitems⟩ := List.forall_mem_cons.1 h
    rw [Termination.each, List.filter_cons]
    -- What the list does not allow is not asked for, and what fails is passed over.
    by_cases hallowed : item.status.canTerminate = true
    · rw [if_pos hallowed, if_pos hallowed, hitem hallowed s hs, List.map_cons,
        Orchestrator.terminateEach]
      rcases Orchestrator.perform_cases rules o (.act item.id .terminate) s with
        ⟨status, t, hact⟩ | ⟨f, hact⟩
      · have hstep : Orchestrator.act rules o item.id .terminate s = (.ok status, t) := hact
        rw [Backend.inMemory_of_ok hact, hstep]
        simp only [ih (hs.act hstep) hitems]
      · have hstep : Orchestrator.act rules o item.id .terminate s = (.error f, s) := hact
        rw [Backend.inMemory_of_error hact, hstep]
        exact ih hs hitems
    · rw [if_neg hallowed, if_neg hallowed]
      exact ih hs hitems

/-- The ids of the pipelines that may be terminated, in the order of the list. -/
def listedIds (s : Orchestrator) (o : Occasion) : List String :=
  ((s.list o).filter (·.status.canTerminate)).map Pipeline.ListItem.id

/-- The remote backend terminates the pipelines in the order of their list. -/
theorem terminateAll_eq (hpoints : r.Points) (hs : s.Readable) (hfresh : o.freshId ≠ "")
    (hdelivers : ∀ errand ∈ s.errands .terminateAll, r.Delivers token (callFor errand)) :
    r.perform (Orchestrator.network rules) token o .terminateAll s =
      (.ok (Orchestrator.terminateEach rules o (listedIds s o) s).1,
        (Orchestrator.terminateEach rules o (listedIds s o) s).2) := by
  obtain ⟨hlist, hacts⟩ := List.forall_mem_cons.1 hdelivers
  have hread : r.perform (Orchestrator.network rules) token o .list s = (.ok (s.list o), s) := by
    rw [perform_eq hpoints hs hfresh hlist Operation.noConfusion trivial trivial]
    rfl
  have heach : Termination.each
      (fun id => r.perform (Orchestrator.network rules) token o (.act id .terminate)) (s.list o) s =
        Orchestrator.terminateEach rules o (listedIds s o) s := by
    refine each_eq_terminateEach token hs fun item hitem hallowed t ht => ?_
    obtain ⟨p, hp, rfl⟩ := List.mem_map.1 ((List.mergeSort_perm _ _).mem_iff.1 hitem)
    have hmem : p ∈ s.pipelines.values.filter (·.status.canTerminate) :=
      List.mem_filter.2 ⟨(s.pipelines.valuesFrom_perm o.order).mem_iff.1 hp, hallowed⟩
    exact perform_eq hpoints ht hfresh (hacts _ (List.mem_map_of_mem hmem)) Operation.noConfusion
      trivial trivial
  show Termination.all (r.perform (Orchestrator.network rules) token o .list) _ s = _
  rw [Termination.all, hread]
  simp only [← heach]
  rfl

theorem listedIds_perm (s : Orchestrator) (o : Occasion) :
    (listedIds s o).Perm (s.candidates o) := by
  have hlist := ((List.mergeSort_perm ((s.pipelines.valuesFrom o.order).map Pipeline.listItem)
    fun p q => !(p.createdAt).isBefore q.createdAt).filter (·.status.canTerminate)).map
      Pipeline.ListItem.id
  refine hlist.trans (.of_eq ?_)
  rw [List.filter_map, List.map_map]
  rfl

/-! ### All operations -/

/-- An operation passes to the orchestrator: the orchestrator is where the backend looks for it, the
requests for the operation come in, their paths and documents are read as they were meant, and there
is always a fresh id. -/
structure Passes (r : Remote) (token : Option String) (o : Occasion) (s : Orchestrator)
    (op : Operation) : Prop where
  points : r.Points
  fresh : o.freshId ≠ ""
  delivers : ∀ errand ∈ s.errands op, r.Delivers token (callFor errand)
  addressable : op.Addressable
  readable : op.Readable

/-- The remote backend in front of an orchestrator and an orchestrator like it reply alike. -/
theorem perform_alike (hpasses : r.Passes token o s' op) (hs : s'.Readable) (h : s.Alike s')
    (hop : s'.Unambiguous rules op) (order : List String) :
    let remote := r.perform (Orchestrator.network rules) token o op s
    let direct := (Backend.inMemory rules).perform token { o with order } op s'
    op.SameReply remote.1 direct.1 ∧ remote.2.Alike direct.2 := by
  obtain ⟨hpoints, hfresh, hdelivers, haddressable, hreadable⟩ := hpasses
  have hs' : s.Readable := hs.of_alike h
  have hdelivers' : ∀ errand ∈ s.errands op, r.Delivers token (callFor errand) :=
    fun errand herrand => hdelivers errand (h.mem_errands_iff.1 herrand)
  intro remote direct
  by_cases hone : op = .terminateAll
  · subst hone
    have hremote : remote = _ := terminateAll_eq hpoints hs' hfresh hdelivers'
    let ids := s'.candidates { o with order }
    have hdirect : direct =
        (.ok ((Orchestrator.terminateEach rules o ids s').1.mergeSort (· ≤ ·)),
          (Orchestrator.terminateEach rules o ids s').2) := by
      rw [← Orchestrator.terminateEach_reorder order]
      rfl
    -- From the order of the list to that of the table, and from one orchestrator to the other.
    have hperm : (listedIds s o).Perm ids := (listedIds_perm s o).trans (h.candidates_perm o _)
    have hnodup : (listedIds s o).Nodup :=
      (listedIds_perm s o).nodup_iff.2 (hs'.keyed.nodup_candidates o)
    obtain ⟨hids, hstates⟩ := Orchestrator.terminateEach_perm hperm hnodup rules o s
    obtain ⟨hids', hstates'⟩ := h.terminateEach rules o ids
    rw [hremote, hdirect]
    refine ⟨.terminated ?_, hstates.trans hstates'⟩
    exact hids.trans (hids' ▸ (List.mergeSort_perm _ _).symm)
  · have hself : op ∈ s.errands op := s.errands_of_ne hone ▸ List.mem_cons_self
    have hremote : remote = (Backend.inMemory rules).perform token o op s :=
      perform_eq hpoints hs' hfresh (hdelivers' op hself) hone haddressable hreadable
    rw [hremote]
    exact h.inMemory hone (h.unambiguous_iff.2 hop) token o order

end Remote

end PipelineConsole
