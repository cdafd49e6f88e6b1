import PipelineConsole.Proofs.Orchestrator.Quota
import PipelineConsole.Proofs.Orchestrator.Readable
import PipelineConsole.Proofs.Time.Order

/-!
# The order of pipelines and timers does not matter

Two orchestrators are alike if they have the same pipelines, queues, notifications and timers,
whatever the order of pipelines, queues and timers. Most operations look up what they need by its
id, so that alike orchestrators reply alike and stay alike.

Three operations go through all pipelines. The list of pipelines may differ in the order of those
that were created at the same time. A creation is refused for the sake of an active pipeline, and of
several it names the one that it meets first. Pipelines may be terminated in any order: each
termination concerns one pipeline and sets one timer, so that two of them can be exchanged.

## Main definitions

* `Table.Agrees` — tables with the same values for the same keys
* `Orchestrator.Alike` — orchestrators that differ in order only
* `Orchestrator.traverses` — the operations that go through all pipelines
* `Orchestrator.Unambiguous` — a creation has at most one active pipeline to name

## Main results

* `Orchestrator.Alike.perform`, `Orchestrator.Alike.create`, `Orchestrator.Alike.list` — operations
  in alike orchestrators
* `Orchestrator.Alike.fire` — timers in alike orchestrators
* `Orchestrator.terminateEach_perm` — pipelines may be terminated in any order
-/

namespace PipelineConsole

namespace Table

variable {α : Type} {t t' : Table α}

/-- The same keys have the same values. -/
def Agrees (t t' : Table α) : Prop := ∀ key, t.get? key = t'.get? key

theorem Agrees.insert (h : t.Agrees t') (key : String) (a : α) :
    (t.insert key a).Agrees (t'.insert key a) := by
  intro k
  rw [get?_insert, get?_insert, h]

theorem Agrees.erase (h : t.Agrees t') (key : String) : (t.erase key).Agrees (t'.erase key) := by
  intro k
  rw [get?_erase, get?_erase, h]

/-- Tables that agree have the same values, which may come in another order. -/
theorem Agrees.values_perm (h : t.Agrees t') : t.values.Perm t'.values := by
  have hnodup (t : Table α) : t.entries.Nodup :=
    List.Pairwise.of_map Prod.fst (fun _ _ hne heq => hne (congrArg Prod.fst heq)) t.nodup
  have hentries : t.entries.Perm t'.entries := by
    refine (List.perm_ext_iff_of_nodup (hnodup t) (hnodup t')).2 fun ⟨key, a⟩ => ?_
    rw [mem_entries_iff, mem_entries_iff, h]
  exact hentries.map Prod.snd

end Table

/-- At most one element is found, in whatever order it is looked for. -/
theorem find?_eq_of_perm {α : Type} {l l' : List α} {p : α → Bool} (h : l.Perm l')
    (hone : l.countP p ≤ 1) : l.find? p = l'.find? p := by
  have hfilter := h.filter p
  rw [List.countP_eq_length_filter] at hone
  rw [← List.head?_filter, ← List.head?_filter]
  match hfound : l.filter p with
  | [] =>
    rw [hfound, List.nil_perm] at hfilter
    rw [hfilter]
  | [a] =>
    rw [hfound, List.singleton_perm] at hfilter
    rw [← hfilter]
  | _ :: _ :: _ =>
    rw [hfound, List.length_cons, List.length_cons] at hone
    omega

namespace Orchestrator

open Handler (Relates SameOutcome)

/-- Two orchestrators differ at most in the order of their pipelines, queues and timers. -/
structure Alike (s s' : Orchestrator) : Prop where
  pipelines : s.pipelines.Agrees s'.pipelines
  queues : s.queues.Agrees s'.queues
  notifications : s.notifications = s'.notifications
  timers : s.timers.Perm s'.timers

/-- The operations that go through all pipelines. -/
def traverses : Operation → Bool
  | .create _ | .list | .terminateAll => true
  | _ => false

/-- The order in which tables are gone through matters to no other operation. -/
theorem perform_reorder {op : Operation} (hop : traverses op = false) (rules : Rules) (o : Occasion)
    (order : List String) : perform rules { o with order } op = perform rules o op := by
  cases op with
  | create | list | terminateAll => cases hop
  | _ => rfl

/-- A creation has at most one active pipeline to look out for, which is found in any order. -/
def Unambiguous (rules : Rules) (s : Orchestrator) : Operation → Prop
  | .create _ => rules.singleActive = true → s.activeCount ≤ 1
  | _ => True

section Alike

variable {s s' : Orchestrator} {rules : Rules} {o : Occasion} {id : String}

theorem Alike.refl (s : Orchestrator) : s.Alike s := ⟨fun _ => rfl, fun _ => rfl, rfl, .refl _⟩

theorem Alike.trans {s'' : Orchestrator} (h : s.Alike s') (h' : s'.Alike s'') : s.Alike s'' :=
  ⟨fun id => (h.pipelines id).trans (h'.pipelines id),
    fun id => (h.queues id).trans (h'.queues id), h.notifications.trans h'.notifications,
    h.timers.trans h'.timers⟩

/-! ### What operations are made of -/

theorem Alike.get (h : s.Alike s') (id : String) : s.get id = s'.get id := by
  rw [Orchestrator.get, Orchestrator.get, h.pipelines]

theorem Alike.ensureExists (h : s.Alike s') (id : String) :
    s.ensureExists id = s'.ensureExists id := by
  rw [Orchestrator.ensureExists, Orchestrator.ensureExists, h.get]

theorem Alike.withPipelines {ps ps' : Table Pipeline} (h : s.Alike s') (hps : ps.Agrees ps') :
    Alike { s with pipelines := ps } { s' with pipelines := ps' } :=
  { h with pipelines := hps }

theorem Alike.withQueues {qs qs' : Table DeadLetter.Queue} (h : s.Alike s') (hqs : qs.Agrees qs') :
    Alike { s with queues := qs } { s' with queues := qs' } :=
  { h with queues := hqs }

theorem Alike.withNotifications (h : s.Alike s') (f : List Notification → List Notification) :
    Alike { s with notifications := f s.notifications }
      { s' with notifications := f s'.notifications } :=
  { h with notifications := congrArg f h.notifications }

theorem Alike.put (h : s.Alike s') (id : String) (p : Pipeline) :
    (s.put id p).Alike (s'.put id p) :=
  h.withPipelines (h.pipelines.insert id p)

theorem Alike.schedule (h : s.Alike s') (id : String) (source target : Status) (delay : Nat) :
    (s.schedule o id source target delay).Alike (s'.schedule o id source target delay) :=
  { h with timers := h.timers.append_right _ }

theorem Alike.seedQueue (h : s.Alike s') (id : String) :
    (s.seedQueue o id).Alike (s'.seedQueue o id) :=
  h.withQueues (h.queues.insert id _)

theorem Alike.dropQueue (h : s.Alike s') (id : String) :
    (s.dropQueue id).Alike (s'.dropQueue id) :=
  h.withQueues (h.queues.erase id)

theorem Alike.takeBatch (h : s.Alike s') (id : String) (size : Nat) :
    (s.takeBatch o id size).1 = (s'.takeBatch o id size).1 ∧
      (s.takeBatch o id size).2.Alike (s'.takeBatch o id size).2 := by
  rw [Orchestrator.takeBatch, Orchestrator.takeBatch, h.queues]
  exact ⟨rfl, h.withQueues (h.queues.insert id _)⟩

theorem Alike.emptyQueue (h : s.Alike s') (id : String) :
    (s.emptyQueue id).Alike (s'.emptyQueue id) := by
  rw [Orchestrator.emptyQueue, Orchestrator.emptyQueue, h.queues]
  split
  · exact h.withQueues (h.queues.insert id _)
  · exact h

theorem Alike.notify (h : s.Alike s') (about : Option String) (severity : Severity)
    (title message : String) :
    (s.notify o about severity title message).Alike
      (s'.notify o about severity title message) where
  pipelines := by
    rw [pipelines_notify, pipelines_notify]
    exact h.pipelines
  queues := by
    simp only [Orchestrator.notify]
    exact h.queues
  notifications := by simp only [Orchestrator.notify, h.notifications]
  timers := by
    rw [timers_notify, timers_notify]
    exact h.timers

theorem Alike.relates_put (id : String) (p : Pipeline) :
    Relates Alike (Handler.update (·.put id p)) (Handler.update (·.put id p)) :=
  .update fun _ _ h => h.put id p

theorem Alike.relates_get (id : String) :
    Relates Alike (Handler.look (·.get id)) (Handler.look (·.get id)) :=
  .look fun _ _ h => h.get id

theorem Alike.relates_ensureExists (id : String) :
    Relates Alike (Handler.look (·.ensureExists id)) (Handler.look (·.ensureExists id)) :=
  .look fun _ _ h => h.ensureExists id

theorem Alike.relates_act (rules : Rules) (o : Occasion) (id : String) (action : Action) :
    Relates Alike (act rules o id action) (act rules o id action) := by
  refine .bind (Alike.relates_get id) fun p => .bind (.ensure _ _) fun _ => ?_
  refine .bind (Alike.relates_put id _) fun _ => .bind ?_ fun _ => .pure _
  exact .update fun _ _ h => h.schedule id _ _ _

theorem Alike.relates_deleteNotification (id : String) :
    Relates Alike (deleteNotification id) (deleteNotification id) := by
  refine .bind (.look fun _ _ h => by rw [h.notifications]) fun before => .bind ?_ fun _ => ?_
  · exact .update fun _ _ h => h.withNotifications _
  · exact .bind (.look fun _ _ h => by rw [h.notifications]) fun left => .ensure _ _

/-! ### Operations -/

/-- An operation that does not go through all pipelines has the same outcome in alike
orchestrators. -/
theorem Alike.perform (h : s.Alike s') (rules : Rules) (o : Occasion) {op : Operation}
    (hop : traverses op = false) :
    SameOutcome Alike (perform rules o op s) (perform rules o op s') := by
  refine (?_ : Relates Alike (Orchestrator.perform rules o op) (Orchestrator.perform rules o op))
    s s' h
  cases op with
  | create | list | terminateAll => cases hop
  | get id => exact Alike.relates_get id
  | rename id name =>
    exact .bind (.ensure _ _) fun _ => .bind (Alike.relates_get id) fun p => Alike.relates_put id _
  | edit id config =>
    refine .bind (.look fun _ _ _ => rfl) fun _ => .bind (Alike.relates_get id) fun p => ?_
    exact .bind (.ensure _ _) fun _ => Alike.relates_put id _
  | delete id =>
    refine .bind (.bind (Alike.relates_get id) fun p => .bind (.ensure _ _) fun _ => ?_) fun _ => ?_
    · exact .update fun _ _ h => h.withPipelines (h.pipelines.erase id)
    · exact .update fun _ _ h => h.dropQueue id
  | act id action => exact Alike.relates_act rules o id action
  | health id => exact .look fun _ _ h => by rw [health, health, h.get]
  | deadLetters id =>
    exact .look fun _ _ h => by rw [deadLetters, deadLetters, h.ensureExists, h.queues]
  | consume id size =>
    refine .bind (.look fun _ _ _ => rfl) fun size => ?_
    refine .bind (Alike.relates_ensureExists id) fun _ => ?_
    exact .commit fun _ _ h => h.takeBatch id size
  | purge id =>
    exact .bind (Alike.relates_ensureExists id) fun _ => .update fun _ _ h => h.emptyQueue id
  | platform => exact .pure _
  | checkFilter request => exact .look fun _ _ _ => rfl
  | evaluateTransform request => exact .look fun _ _ _ => rfl
  | listNotifications query =>
    exact .look fun _ _ h => by rw [listNotifications, listNotifications, h.notifications]
  | getNotification id =>
    exact .look fun _ _ h => by rw [getNotification, getNotification, h.notifications]
  | deleteNotification id => exact Alike.relates_deleteNotification id
  | markRead ids =>
    intro t t' h
    refine ⟨?_, h.withNotifications _⟩
    simp only [Orchestrator.perform, Handler.commit_apply, markRead, h.notifications]

/-! #### Listing -/

theorem Alike.valuesFrom_perm (h : s.Alike s') (order order' : List String) :
    (s.pipelines.valuesFrom order).Perm (s'.pipelines.valuesFrom order') :=
  (s.pipelines.valuesFrom_perm order).trans
    (h.pipelines.values_perm.trans (s'.pipelines.valuesFrom_perm order').symm)

/-- The lists of pipelines differ at most in the order of those that were created at the same
time. -/
theorem Alike.list (h : s.Alike s') (o o' : Occasion) :
    (s.list o).Perm (s'.list o') ∧
      (s.list o).map Pipeline.ListItem.createdAt = (s'.list o').map Pipeline.ListItem.createdAt :=
  Timestamp.newestFirst_perm ((h.valuesFrom_perm o.order o'.order).map Pipeline.listItem)

theorem Alike.candidates_perm (h : s.Alike s') (o o' : Occasion) :
    (s.candidates o).Perm (s'.candidates o') :=
  ((h.valuesFrom_perm o.order o'.order).filter _).map _

/-! #### Creation -/

theorem Alike.activeCount_eq (h : s.Alike s') : s.activeCount = s'.activeCount :=
  h.pipelines.values_perm.countP_eq _

theorem Alike.unambiguous_iff (h : s.Alike s') {op : Operation} :
    s.Unambiguous rules op ↔ s'.Unambiguous rules op := by
  cases op with
  | create config => rw [Unambiguous, Unambiguous, h.activeCount_eq]
  | _ => rfl

/-- What is read back does not depend on the order. -/
theorem Readable.of_alike (hs : s'.Readable) (h : s.Alike s') : s.Readable :=
  fun id p hp => hs id p ((h.pipelines id).symm.trans hp)

/-- If at most one pipeline is active, it is the one that is found. -/
theorem Alike.active?_eq (h : s.Alike s') (hone : s.activeCount ≤ 1) (o o' : Occasion) :
    s.active? o = s'.active? o' := by
  refine find?_eq_of_perm (h.valuesFrom_perm o.order o'.order) ?_
  rwa [(s.pipelines.valuesFrom_perm o.order).countP_eq]

theorem Alike.ensureRoom (h : s.Alike s') (hone : rules.singleActive = true → s.activeCount ≤ 1)
    (o o' : Occasion) (id : String) : s.ensureRoom rules o id = s'.ensureRoom rules o' id := by
  have hcontains : s.pipelines.contains id = s'.pipelines.contains id :=
    congrArg Option.isSome (h.pipelines id)
  rw [Orchestrator.ensureRoom, Orchestrator.ensureRoom, hcontains]
  cases hsingle : rules.singleActive with
  | false => rfl
  | true => rw [h.active?_eq (hone hsingle) o o']

theorem Alike.accept (h : s.Alike s') (hone : rules.singleActive = true → s.activeCount ≤ 1)
    (o : Occasion) (order : List String) (config : PipelineConfig) :
    SameOutcome Alike (accept rules o config s) (accept rules { o with order } config s') :=
  SameOutcome.bind ⟨h.ensureRoom hone o _ config.id, h⟩ fun _ => Alike.relates_put config.id _

/-- A creation has the same outcome if it has at most one active pipeline to look out for. -/
theorem Alike.create (h : s.Alike s') (hone : rules.singleActive = true → s.activeCount ≤ 1)
    (o : Occasion) (order : List String) (config : PipelineConfig) :
    SameOutcome Alike (create rules o config s) (create rules { o with order } config s') := by
  rw [Orchestrator.create, Orchestrator.create, Handler.bind_apply, Handler.bind_apply,
    Handler.look_apply, Handler.look_apply]
  cases config.check.mapError Fault.invalidConfig with
  | error fault => exact ⟨rfl, h⟩
  | ok u =>
    refine SameOutcome.bind (h.accept hone o order _) fun _ => ?_
    refine .bind ?_ fun _ => .bind ?_ fun _ => ?_
    · exact .update fun _ _ h => h.seedQueue _
    · exact .update fun _ _ h => h.schedule _ _ _ _
    · exact .pure _

/-! ### Timers -/

/-- A change of status leaves alike orchestrators alike. -/
theorem Alike.transition (h : s.Alike s') (o : Occasion) (id : String) (source target : Status) :
    (s.transition o id source target).2.Alike (s'.transition o id source target).2 := by
  rw [Orchestrator.transition, Orchestrator.transition, h.pipelines]
  split
  · exact h
  · split
    · exact (h.withPipelines (h.pipelines.insert id _)).notify ..
    · exact h

/-- So does a timer that fires. -/
theorem Alike.fire (h : s.Alike s') (o : Occasion) (t : Timer) :
    (s.fire o t).2.Alike (s'.fire o t).2 := by
  have herased :
      Alike { s with timers := s.timers.erase t } { s' with timers := s'.timers.erase t } :=
    { h with timers := h.timers.erase t }
  exact herased.transition o t.id t.source t.target

end Alike

/-! ### Terminating many pipelines -/

/-- The pipeline of an id, if it may be terminated. -/
def terminable? (s : Orchestrator) (id : String) : Option Pipeline :=
  (s.pipelines.get? id).filter (·.status.canTerminate)

/-- The state once the termination of a pipeline has begun. -/
def terminating (s : Orchestrator) (rules : Rules) (o : Occasion) (id : String) (p : Pipeline) :
    Orchestrator :=
  (s.put id { p with status := .terminating, updatedAt := o.time }).schedule o id .terminating
    .terminated rules.delays.terminate

section Terminate

variable {s s' : Orchestrator} {rules : Rules} {o : Occasion} {id other : String}
  {ids ids' rest : List String} {p q : Pipeline}

theorem terminateEach_cons_some (h : s.terminable? id = some p) :
    terminateEach rules o (id :: rest) s =
      (id :: (terminateEach rules o rest (s.terminating rules o id p)).1,
        (terminateEach rules o rest (s.terminating rules o id p)).2) := by
  obtain ⟨hp, hallowed⟩ := Option.filter_eq_some_iff.1 h
  have hact : act rules o id .terminate s = (.ok .terminating, s.terminating rules o id p) :=
    act_of_allowed hp hallowed
  rw [terminateEach, hact]

theorem terminateEach_cons_none (h : s.terminable? id = none) :
    terminateEach rules o (id :: rest) s = terminateEach rules o rest s := by
  rw [terminateEach]
  split
  · next hact =>
    obtain ⟨p, hp, hallowed, -⟩ := act_eq_ok hact
    have hp' : s.terminable? id = some p := Option.filter_eq_some_iff.2 ⟨hp, hallowed⟩
    rw [hp'] at h
    cases h
  · next hact => rw [atomic_act rules o id .terminate _ _ _ hact]

theorem terminateEach_reorder (order : List String) (ids : List String) (s : Orchestrator) :
    terminateEach rules { o with order } ids s = terminateEach rules o ids s := by
  induction ids generalizing s with
  | nil => rfl
  | cons id rest ih =>
    have hact : act rules { o with order } id .terminate = act rules o id .terminate := rfl
    simp only [terminateEach, hact, ih]

theorem terminable?_terminating (h : other ≠ id) (s : Orchestrator) (rules : Rules) (o : Occasion)
    (p : Pipeline) : (s.terminating rules o id p).terminable? other = s.terminable? other := by
  rw [terminable?, terminable?, terminating, pipelines_schedule, pipelines_put, Table.get?_insert,
    if_neg h]

theorem Alike.terminable? (h : s.Alike s') (id : String) :
    s.terminable? id = s'.terminable? id := by
  rw [Orchestrator.terminable?, Orchestrator.terminable?, h.pipelines]

theorem Alike.terminating (h : s.Alike s') (rules : Rules) (o : Occasion) (id : String)
    (p : Pipeline) :
    (s.terminating rules o id p).Alike (s'.terminating rules o id p) :=
  (h.put id _).schedule id _ _ _

/-- Two terminations can be exchanged. -/
theorem terminating_comm (h : id ≠ other) (s : Orchestrator) (p q : Pipeline) :
    ((s.terminating rules o id p).terminating rules o other q).Alike
      ((s.terminating rules o other q).terminating rules o id p) where
  pipelines := by
    intro key
    simp only [terminating, pipelines_schedule, pipelines_put, Table.get?_insert]
    by_cases hid : key = id
    · rw [if_pos hid, if_pos hid, if_neg fun heq => h (hid.symm.trans heq)]
    · rw [if_neg hid, if_neg hid]
  queues := fun _ => rfl
  notifications := rfl
  timers := by
    -- The new timers stand behind all others, in the order of the terminations.
    simp only [terminating, timers_schedule, timers_put, List.append_assoc]
    exact (List.Perm.swap _ _ []).append_left s.timers

/-- In alike orchestrators the same pipelines are terminated. -/
theorem Alike.terminateEach (h : s.Alike s') (rules : Rules) (o : Occasion) (ids : List String) :
    (terminateEach rules o ids s).1 = (Orchestrator.terminateEach rules o ids s').1 ∧
      (Orchestrator.terminateEach rules o ids s).2.Alike
        (Orchestrator.terminateEach rules o ids s').2 := by
  induction ids generalizing s s' with
  | nil => exact ⟨rfl, h⟩
  | cons id rest ih =>
    have hterminable := h.terminable? id
    cases hp : s.terminable? id with
    | none =>
      rw [terminateEach_cons_none hp, terminateEach_cons_none (hterminable ▸ hp)]
      exact ih h
    | some p =>
      rw [terminateEach_cons_some hp, terminateEach_cons_some (hterminable ▸ hp)]
      have hrest := ih (h.terminating rules o id p)
      exact ⟨congrArg (id :: ·) hrest.1, hrest.2⟩

/-- It does not matter which of two pipelines is terminated first. -/
theorem terminateEach_swap {x y : String} (hne : x ≠ y) (rest : List String) (s : Orchestrator) :
    (terminateEach rules o (x :: y :: rest) s).1.Perm (terminateEach rules o (y :: x :: rest) s).1 ∧
      (terminateEach rules o (x :: y :: rest) s).2.Alike
        (terminateEach rules o (y :: x :: rest) s).2 := by
  cases hx : s.terminable? x with
  | none =>
    cases hy : s.terminable? y with
    | none =>
      rw [terminateEach_cons_none hx, terminateEach_cons_none hy, terminateEach_cons_none hy,
        terminateEach_cons_none hx]
      exact ⟨.refl _, .refl _⟩
    | some q =>
      have hx' := (terminable?_terminating hne s rules o q).trans hx
      rw [terminateEach_cons_none hx, terminateEach_cons_some hy, terminateEach_cons_some hy,
        terminateEach_cons_none hx']
      exact ⟨.refl _, .refl _⟩
  | some p =>
    have hy' := terminable?_terminating hne.symm s rules o p
    cases hy : s.terminable? y with
    | none =>
      rw [terminateEach_cons_some hx, terminateEach_cons_none (hy'.trans hy),
        terminateEach_cons_none hy, terminateEach_cons_some hx]
      exact ⟨.refl _, .refl _⟩
    | some q =>
      have hx' := (terminable?_terminating hne s rules o q).trans hx
      rw [terminateEach_cons_some hx, terminateEach_cons_some (hy'.trans hy),
        terminateEach_cons_some hy, terminateEach_cons_some hx']
      obtain ⟨hids, hstates⟩ := (terminating_comm hne s p q).terminateEach rules o rest
      exact ⟨hids ▸ List.Perm.swap _ _ _, hstates⟩

/-- Pipelines may be terminated in any order. -/
theorem terminateEach_perm (hperm : ids.Perm ids') (hnodup : ids.Nodup) (rules : Rules)
    (o : Occasion) (s : Orchestrator) :
    (terminateEach rules o ids s).1.Perm (terminateEach rules o ids' s).1 ∧
      (terminateEach rules o ids s).2.Alike (terminateEach rules o ids' s).2 := by
  -- A permutation is made of exchanges of neighbours, and these have different ids.
  induction hperm generalizing s with
  | nil => exact ⟨.refl _, .refl _⟩
  | cons id _ ih =>
    have hrest := (List.nodup_cons.1 hnodup).2
    cases hp : s.terminable? id with
    | none =>
      rw [terminateEach_cons_none hp, terminateEach_cons_none hp]
      exact ih hrest s
    | some p =>
      rw [terminateEach_cons_some hp, terminateEach_cons_some hp]
      exact ⟨(ih hrest _).1.cons id, (ih hrest _).2⟩
  | swap x y rest =>
    have hne : y ≠ x := fun heq => (List.nodup_cons.1 hnodup).1 (heq ▸ List.mem_cons_self)
    exact terminateEach_swap hne rest s
  | trans hfirst _ ih₁ ih₂ =>
    have h₁ := ih₁ hnodup s
    have h₂ := ih₂ (hfirst.nodup_iff.1 hnodup) s
    exact ⟨h₁.1.trans h₂.1, h₁.2.trans h₂.2⟩

end Terminate

end Orchestrator

end PipelineConsole
