import PipelineConsole.Proofs.DeadLetter.Queue
import PipelineConsole.Proofs.Orchestrator.Run

/-!
# Dead letters under operations

Dead letters come with their pipeline: the queue of a new pipeline is seeded, and nothing is added
to it later. They go when a batch is taken, which is the reply to whoever took it, or when somebody
purges the queue or deletes the pipeline. No queue outlives its pipeline, so that the queue
of a new pipeline takes no other's place.

## Main definitions

* `Orchestrator.letters` — the dead letters of an id
* `Orchestrator.Housed` — every queue is that of a pipeline
* `Orchestrator.arrivals` — the dead letters that come with a new pipeline
* `Operation.Discards`, `Operation.batchFrom` — how dead letters go

## Main results

* `Orchestrator.letters_of_perform` — what an operation does to the dead letters of an id
* `Orchestrator.Housed.perform`, `Orchestrator.Housed.fire` — queues stay those of pipelines
-/

namespace PipelineConsole

/-- An operation that is to throw away the dead letters of an id. -/
def Operation.Discards (id : String) : Operation → Prop
  | purge key | delete key => key = id
  | _ => False

instance (id : String) : DecidablePred (Operation.Discards id) := fun op => by
  cases op <;> unfold Operation.Discards <;> infer_instance

/-- The dead letters of an id that an operation hands out. -/
def Operation.batchFrom (id : String) : (op : Operation) → op.Reply → List DeadLetter.Message
  | consume key _, batch => if key = id then batch else []
  | _, _ => []

namespace Orchestrator

/-- The dead letters of an id, oldest first. -/
def letters (s : Orchestrator) (id : String) : List DeadLetter.Message :=
  ((s.queues.get? id).map DeadLetter.Queue.messages).getD []

/-- Every queue is that of a pipeline. -/
def Housed (s : Orchestrator) : Prop :=
  ∀ id, (s.queues.get? id).isSome → (s.pipelines.get? id).isSome

/-- The dead letters that come with the pipeline of an id, if it is new in the second state. -/
def arrivals (s s' : Orchestrator) (id : String) : List DeadLetter.Message :=
  if (s.pipelines.get? id).isSome then [] else s'.letters id

section Letters

variable {s s' : Orchestrator} {rules : Rules} {o : Occasion} {id other : String}

theorem letters_of_queues (h : s'.queues = s.queues) : s'.letters id = s.letters id := by
  rw [letters, letters, h]

/-- Another queue in the place of one matters to its id only. -/
theorem letters_of_insert {q : DeadLetter.Queue} (id : String)
    (h : s'.queues = s.queues.insert other q) :
    s'.letters id = if id = other then q.messages else s.letters id := by
  rw [letters, letters, h, Table.get?_insert]
  split <;> rfl

/-- An id without pipeline has no dead letters. -/
theorem Housed.letters_eq_nil (h : s.Housed) (hid : (s.pipelines.get? id).isSome = false) :
    s.letters id = [] := by
  cases hqueue : s.queues.get? id with
  | none => rw [letters, hqueue]; rfl
  | some q => exact absurd (h id (by rw [hqueue]; rfl)) (by rw [hid]; exact Bool.false_ne_true)

theorem arrivals_of_isSome (h : (s.pipelines.get? id).isSome = true) : s.arrivals s' id = [] :=
  if_pos h

/-- Where no dead letters come or go, none are new. -/
theorem Housed.arrivals_of_same (h : s.Housed) (hsame : s'.letters id = s.letters id) :
    s.arrivals s' id = [] := by
  rw [arrivals]
  split
  · rfl
  · next hid => rw [hsame, h.letters_eq_nil (Bool.eq_false_iff.2 hid)]

/-! ### Operations -/

theorem letters_of_consume {size : Option UInt64} {batch : List DeadLetter.Message}
    (h : consume o id size s = (.ok batch, s')) :
    s.letters id = batch ++ s'.letters id ∧
      ∀ other, other ≠ id → s'.letters other = s.letters other := by
  obtain ⟨-, n, htake⟩ := consume_eq_ok h
  obtain ⟨rfl, rfl⟩ := Prod.mk.inj htake
  constructor
  · have hletters : s.letters id = ((s.queues.get? id).getD {}).messages := by
      rw [letters]
      cases s.queues.get? id <;> rfl
    rw [hletters, letters_of_insert (s := s) id rfl, if_pos rfl]
    exact DeadLetter.Queue.messages_eq_append ..
  · intro other hother
    rw [letters_of_insert (s := s) other rfl, if_neg hother]

/-- A queue that is purged is there no more than before. -/
theorem emptyQueue_cases (s : Orchestrator) (id : String) :
    (s.queues.get? id = none ∧ s.emptyQueue id = s) ∨
      ∃ q, (s.queues.get? id).isSome ∧
        s.emptyQueue id = { s with queues := s.queues.insert id (DeadLetter.Queue.purge q) } := by
  unfold emptyQueue
  split
  · next q hq => exact .inr ⟨q, by rw [hq]; rfl, rfl⟩
  · next hq => exact .inl ⟨hq, rfl⟩

theorem letters_of_purge {r : Unit} (h : purge id s = (.ok r, s')) :
    s'.letters id = [] ∧ ∀ other, other ≠ id → s'.letters other = s.letters other := by
  obtain rfl := purge_eq_ok h
  rcases emptyQueue_cases s id with ⟨hqueue, hsame⟩ | ⟨q, -, hempty⟩
  · rw [hsame]
    exact ⟨by rw [letters, hqueue]; rfl, fun _ _ => rfl⟩
  · rw [hempty]
    refine ⟨?_, fun other hother => ?_⟩
    · rw [letters_of_insert (s := s) _ rfl, if_pos rfl]
      rfl
    · rw [letters_of_insert (s := s) _ rfl, if_neg hother]

theorem letters_of_delete {r : Unit} (h : delete id s = (.ok r, s')) :
    s'.letters id = [] ∧ ∀ other, other ≠ id → s'.letters other = s.letters other := by
  obtain ⟨p, -, -, rfl⟩ := delete_eq_ok h
  have hget (other : String) : ({ s with pipelines := s.pipelines.erase id }.dropQueue id).letters
      other = if other = id then [] else s.letters other := by
    rw [letters, letters, dropQueue, Table.get?_erase]
    split <;> rfl
  exact ⟨(hget id).trans (if_pos rfl), fun other hother => (hget other).trans (if_neg hother)⟩

/-- The queue of a new pipeline has its id. -/
theorem queues_of_create {config : PipelineConfig} (h : create rules o config s = (.ok id, s')) :
    ∃ q, s'.queues = s.queues.insert id q := by
  obtain ⟨-, -, t, haccept, rfl⟩ := create_steps h
  obtain ⟨-, -, rfl⟩ := accept_eq_ok haccept
  exact ⟨_, rfl⟩

theorem letters_of_create {config : PipelineConfig} (h : create rules o config s = (.ok id, s')) :
    (s.pipelines.get? id).isSome = false ∧
      ∀ other, other ≠ id → s'.letters other = s.letters other := by
  obtain ⟨hfree, -⟩ := create_eq_ok h
  obtain ⟨q, hqueues⟩ := queues_of_create h
  refine ⟨by rw [hfree]; rfl, fun other hother => ?_⟩
  rw [letters_of_insert _ hqueues, if_neg hother]

/-- The operations that dead letters come or go with. -/
def movesLetters : Operation → Bool
  | .create _ | .delete _ | .consume .. | .purge _ => true
  | _ => false

theorem queues_of_terminateEach (ids : List String) (s : Orchestrator) :
    (terminateEach rules o ids s).2.queues = s.queues := by
  refine terminateEach_induction (motive := (·.queues = s.queues))
    (fun t t' id status ht hact => ?_) ids rfl
  obtain ⟨p, -, -, rfl⟩ := act_eq_ok hact
  exact ht

theorem queues_of_perform {op : Operation} {reply : op.Reply} (hop : movesLetters op = false)
    (h : perform rules o op s = (.ok reply, s')) : s'.queues = s.queues := by
  cases op with
  | create | delete | consume | purge => cases hop
  | rename id name =>
    obtain ⟨p, -, rfl⟩ := rename_eq_ok h
    rfl
  | edit id config =>
    obtain ⟨p, -, -, rfl⟩ := edit_eq_ok h
    rfl
  | act id action =>
    obtain ⟨p, -, -, rfl⟩ := act_eq_ok h
    rfl
  | terminateAll =>
    obtain rfl : (s.terminateAll rules o).2 = s' := congrArg Prod.snd h
    exact queues_of_terminateEach _ s
  | deleteNotification id =>
    obtain rfl := deleteNotification_eq_ok h
    rfl
  | list | platform | listNotifications | markRead | get | health | deadLetters | checkFilter
  | evaluateTransform | getNotification =>
    obtain rfl := congrArg Prod.snd h
    rfl

/-- Unless an operation is to discard the dead letters of an id, those that are there and those that
come are the ones that it hands out, from the front, and the ones that are left. -/
theorem letters_of_perform (hs : s.Housed) {op : Operation} {reply : op.Reply}
    (hop : ¬ op.Discards id) (h : perform rules o op s = (.ok reply, s')) :
    s.letters id ++ s.arrivals s' id = op.batchFrom id reply ++ s'.letters id := by
  -- Most operations have nothing to do with the dead letters of the id.
  have hsame (hbatch : op.batchFrom id reply = []) (heq : s'.letters id = s.letters id) :
      s.letters id ++ s.arrivals s' id = op.batchFrom id reply ++ s'.letters id := by
    rw [hs.arrivals_of_same heq, hbatch, heq, List.append_nil, List.nil_append]
  cases op with
  | create config =>
    obtain ⟨hnew, hothers⟩ := letters_of_create h
    by_cases hid : id = reply
    · subst hid
      rw [hs.letters_eq_nil hnew, arrivals, if_neg (Bool.eq_false_iff.1 hnew)]
      rfl
    · exact hsame rfl (hothers id hid)
  | consume key size =>
    obtain ⟨hbatch, hothers⟩ := letters_of_consume h
    by_cases hid : id = key
    · subst hid
      rw [arrivals_of_isSome (consume_eq_ok h).1, List.append_nil, hbatch]
      exact congrArg (· ++ s'.letters id) (if_pos rfl).symm
    · exact hsame (if_neg fun heq => hid heq.symm) (hothers id hid)
  | purge key => exact hsame rfl ((letters_of_purge h).2 id fun heq => hop heq.symm)
  | delete key => exact hsame rfl ((letters_of_delete h).2 id fun heq => hop heq.symm)
  | _ => exact hsame rfl (letters_of_queues (queues_of_perform rfl h))

/-- An operation that is to discard the dead letters of an id leaves none. -/
theorem letters_of_discards {op : Operation} {reply : op.Reply} (hop : op.Discards id)
    (h : perform rules o op s = (.ok reply, s')) : s'.letters id = [] := by
  cases op with
  | purge key => exact hop ▸ (letters_of_purge h).1
  | delete key => exact hop ▸ (letters_of_delete h).1
  | _ => exact hop.elim

/-- A timer that fires leaves all dead letters alone. -/
theorem queues_fire (s : Orchestrator) (o : Occasion) (t : Timer) :
    (s.fire o t).2.queues = s.queues := by
  unfold fire transition
  split
  · rfl
  · split <;> rfl

/-! ### Queues and their pipelines -/

/-- A queue may come to an id with a pipeline, if no pipeline goes. -/
theorem Housed.insert {key : String} {q : DeadLetter.Queue} (hs : s.Housed)
    (hqueues : s'.queues = s.queues.insert key q) (hkey : (s'.pipelines.get? key).isSome)
    (hkept : ∀ id, (s.pipelines.get? id).isSome → (s'.pipelines.get? id).isSome) :
    s'.Housed := by
  intro id hid
  rw [hqueues, Table.get?_insert] at hid
  split at hid
  · next heq => exact heq ▸ hkey
  · exact hkept id (hs id hid)

/-- Pipelines may come and change. -/
theorem Housed.of_queues (hs : s.Housed) (hqueues : s'.queues = s.queues)
    (hkept : ∀ id, (s.pipelines.get? id).isSome → (s'.pipelines.get? id).isSome) : s'.Housed :=
  fun id hid => hkept id (hs id (hqueues ▸ hid))

theorem isSome_of_insert {p : Pipeline} (h : s'.pipelines = s.pipelines.insert other p)
    (hid : (s.pipelines.get? id).isSome) : (s'.pipelines.get? id).isSome := by
  rw [h, Table.get?_insert]
  split
  · rfl
  · exact hid

theorem isSome_of_terminateEach (ids : List String) (hid : (s.pipelines.get? id).isSome) :
    ((terminateEach rules o ids s).2.pipelines.get? id).isSome := by
  refine terminateEach_induction (motive := fun t => (t.pipelines.get? id).isSome)
    (fun t t' key status ht hact => ?_) ids hid
  obtain ⟨p, -, -, rfl⟩ := act_eq_ok hact
  exact isSome_of_insert rfl ht

/-- Operations leave no queue without pipeline. -/
theorem Housed.perform (hs : s.Housed) {op : Operation} {reply : op.Reply}
    (h : perform rules o op s = (.ok reply, s')) : s'.Housed := by
  cases op with
  | create config =>
    obtain ⟨-, -, hpipelines, -⟩ := create_eq_ok h
    obtain ⟨q, hqueues⟩ := queues_of_create h
    refine hs.insert hqueues ?_ fun id => isSome_of_insert hpipelines
    rw [hpipelines, Table.get?_insert, if_pos rfl]
    rfl
  | delete key =>
    obtain ⟨p, -, -, rfl⟩ := delete_eq_ok h
    intro id hid
    rw [dropQueue, Table.get?_erase] at hid
    rw [pipelines_dropQueue, Table.get?_erase]
    split at hid
    · cases hid
    · next hne =>
      rw [if_neg hne]
      exact hs id hid
  | consume key size =>
    obtain ⟨hthere, n, htake⟩ := consume_eq_ok h
    obtain ⟨-, rfl⟩ := Prod.mk.inj htake
    exact hs.insert rfl hthere fun _ hid => hid
  | purge key =>
    obtain rfl := purge_eq_ok h
    rcases emptyQueue_cases s key with ⟨-, hsame⟩ | ⟨q, hthere, hempty⟩
    · exact hsame.symm ▸ hs
    · exact hempty.symm ▸ hs.insert rfl (hs key hthere) fun _ hid => hid
  | rename key name =>
    obtain ⟨p, -, rfl⟩ := rename_eq_ok h
    exact hs.of_queues rfl fun _ => isSome_of_insert rfl
  | edit key config =>
    obtain ⟨p, -, -, rfl⟩ := edit_eq_ok h
    exact hs.of_queues rfl fun _ => isSome_of_insert rfl
  | act key action =>
    obtain ⟨p, -, -, rfl⟩ := act_eq_ok h
    exact hs.of_queues rfl fun _ => isSome_of_insert rfl
  | terminateAll =>
    obtain rfl : (s.terminateAll rules o).2 = s' := congrArg Prod.snd h
    exact hs.of_queues (queues_of_terminateEach _ s) fun _ => isSome_of_terminateEach _
  | _ =>
    have hpipelines := (perform_of_not_drivesPipelines rfl h).1
    exact hs.of_queues (queues_of_perform rfl h) fun _ hid => hpipelines ▸ hid

/-- Timers leave no queue without pipeline. -/
theorem Housed.fire (hs : s.Housed) (o : Occasion) (t : Timer) : (s.fire o t).2.Housed := by
  refine hs.of_queues (queues_fire s o t) fun id hid => ?_
  rcases transition_eq { s with timers := s.timers.erase t } o t.id t.source t.target with
    ⟨-, hsame⟩ | ⟨p, -, -, -, -, -, hinsert⟩
  · rw [Orchestrator.fire, hsame]
    exact hid
  · exact isSome_of_insert hinsert hid

/-- An orchestrator that has just started has no queues. -/
theorem housed_fresh (welcomeAt lagAt : Timestamp) : (fresh welcomeAt lagAt).Housed :=
  fun _ hid => nomatch hid

end Letters

end Orchestrator

end PipelineConsole
