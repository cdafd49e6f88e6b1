import PipelineConsole.Proofs.Orchestrator.Locality
import PipelineConsole.Scenario.Surroundings

/-!
# Operations on different pipelines commute

An operation that is to change one pipeline looks at nothing but this pipeline and its queue, unless
a creation has to ask for a quota. It changes nothing else, and its timers are added to those that
are there. So two operations on different ids can be exchanged.

The times that are stamped on pipelines, queues and timers tell when an operation came. To compare
operations that come at other times, the times in a state are read off a dial, which may show less
than there is to see.

## Main definitions

* `Operation.changes?` — the id of the pipeline that an operation is to change
* `Dial`, `Dial.exact`, `Dial.blank` — ways to read times
* `Dial.Alike` — states that are the same on a dial
* `Orchestrator.SameEffect` — calls that have done the same on a dial

## Main results

* `perform_local` — an operation looks at nothing that belongs to another id
* `different_pipelines_commute` — two operations on different ids can be exchanged
-/

namespace PipelineConsole

namespace Operation

/-- The id of the pipeline that an operation is to change, whatever the occasion. A creation that
leaves the id open has none. -/
def changes? : Operation → Option String
  | create config => if Text.isBlankText config.id then none else some config.id
  | rename id _ | edit id _ | delete id | act id _ | consume id _ | purge id => some id
  | _ => none

section Changes

variable {op : Operation} {id : String}

theorem addressee?_of_changes? (h : op.changes? = some id) (o : Occasion) :
    op.addressee? o = some id := by
  cases op with
  | create config =>
    rw [changes?] at h
    split at h
    · cases h
    · next hid => exact (congrArg some (if_neg hid)).trans h
  | rename | edit | delete | act | consume | purge => exact h
  | _ => cases h

theorem ne_terminateAll_of_changes? (h : op.changes? = some id) : op ≠ .terminateAll := by
  rintro rfl
  cases h

end Changes

end Operation

open Orchestrator (Fault Rules)

/-- A way to read times: what is shown for a time of day, and for the time at which a timer is
due. -/
structure Dial where
  time : Timestamp → Timestamp
  due : Nat → Nat

namespace Dial

/-- Shows all times as they are. -/
def exact : Dial := ⟨id, id⟩

/-- Shows the same whatever the time. -/
def blank : Dial := ⟨fun _ => Surroundings.moment 0, fun _ => 0⟩

section Readings

variable (d : Dial)

/-- A pipeline with its times as they are shown. -/
def pipeline (p : Pipeline) : Pipeline :=
  { p with createdAt := d.time p.createdAt, updatedAt := d.time p.updatedAt }

/-- A queue with its times as they are shown. -/
def queue (q : DeadLetter.Queue) : DeadLetter.Queue :=
  { q with
    state := { q.state with
      receivedAt := q.state.receivedAt.map d.time
      consumedAt := q.state.consumedAt.map d.time } }

/-- A timer with its times as they are shown. -/
def timer (t : Timer) : Timer := { t with due := d.due t.due, setAt := d.time t.setAt }

/-- What belongs to an id, with the times as they are shown. -/
def holdings (s : Orchestrator) (id : String) : Option Pipeline × Option DeadLetter.Queue :=
  ((s.pipelines.get? id).map d.pipeline, (s.queues.get? id).map d.queue)

/-- Two states are the same on a dial, up to the order of pipelines, queues and timers. -/
structure Alike (s s' : Orchestrator) : Prop where
  pipelines : ∀ id, (s.pipelines.get? id).map d.pipeline = (s'.pipelines.get? id).map d.pipeline
  queues : ∀ id, (s.queues.get? id).map d.queue = (s'.queues.get? id).map d.queue
  timers : (s.timers.map d.timer).Perm (s'.timers.map d.timer)

/-- The stamps of two occasions are the same on a dial. -/
structure Same (o o' : Occasion) : Prop where
  time : d.time o.time = d.time o'.time
  due : ∀ delay, d.due (o.elapsed + delay) = d.due (o'.elapsed + delay)

end Readings

theorem same_self (d : Dial) (o : Occasion) : d.Same o o := ⟨rfl, fun _ => rfl⟩

theorem same_blank (o o' : Occasion) : blank.Same o o' := ⟨rfl, fun _ => rfl⟩

section Stamps

variable {d : Dial} {s s' : Orchestrator} {o o' : Occasion} {id : String} {p p' : Pipeline}
  {q q' : DeadLetter.Queue}

theorem holdings_of_eq (h : s.holdings id = s'.holdings id) :
    d.holdings s id = d.holdings s' id := by
  obtain ⟨hpipeline, hqueue⟩ := Prod.mk.inj h
  rw [holdings, holdings, hpipeline, hqueue]

/-! #### Pipelines -/

theorem status_eq (h : d.pipeline p = d.pipeline p') : p.status = p'.status := by
  show (d.pipeline p).status = (d.pipeline p').status
  rw [h]

theorem pipeline_ofConfig (h : d.Same o o') (config : PipelineConfig) (status : Status) :
    d.pipeline (.ofConfig config status o.time) = d.pipeline (.ofConfig config status o'.time) := by
  show Pipeline.ofConfig config status (d.time o.time) = .ofConfig config status (d.time o'.time)
  rw [h.time]

theorem pipeline_applyConfig (h : d.Same o o') (hp : d.pipeline p = d.pipeline p')
    (config : PipelineConfig) :
    d.pipeline (p.applyConfig config o.time) = d.pipeline (p'.applyConfig config o'.time) := by
  show (d.pipeline p).applyConfig config (d.time o.time) =
    (d.pipeline p').applyConfig config (d.time o'.time)
  rw [hp, h.time]

theorem pipeline_rename (h : d.Same o o') (hp : d.pipeline p = d.pipeline p') (name : String) :
    d.pipeline { p with name, updatedAt := o.time } =
      d.pipeline { p' with name, updatedAt := o'.time } := by
  show { d.pipeline p with name, updatedAt := d.time o.time } =
    { d.pipeline p' with name, updatedAt := d.time o'.time }
  rw [hp, h.time]

theorem pipeline_move (h : d.Same o o') (hp : d.pipeline p = d.pipeline p') (status : Status) :
    d.pipeline { p with status, updatedAt := o.time } =
      d.pipeline { p' with status, updatedAt := o'.time } := by
  show { d.pipeline p with status, updatedAt := d.time o.time } =
    { d.pipeline p' with status, updatedAt := d.time o'.time }
  rw [hp, h.time]

/-- Pipelines that are the same on a dial can be put in their places. -/
theorem holdings_put (h : d.holdings s id = d.holdings s' id)
    (hp : d.pipeline p = d.pipeline p') :
    d.holdings (s.put id p) id = d.holdings (s'.put id p') id := by
  simp only [holdings, Orchestrator.put, Table.get?_insert, if_true, Option.map_some, hp]
  exact congrArg _ (Prod.mk.inj h).2

/-! #### Queues and timers -/

/-- A batch does not depend on times, and its stamp is shown like any other. -/
theorem queue_consume (q : DeadLetter.Queue) (size : Nat) (now : Timestamp) :
    (d.queue q).consume size (d.time now) =
      ((q.consume size now).1, d.queue (q.consume size now).2) := by
  show (if (q.messages.take size).isEmpty then _ else _) = _
  unfold DeadLetter.Queue.consume
  dsimp only
  split <;> rfl

theorem consume_eq (h : d.Same o o') (hq : d.queue q = d.queue q') (size : Nat) :
    (q.consume size o.time).1 = (q'.consume size o'.time).1 ∧
      d.queue (q.consume size o.time).2 = d.queue (q'.consume size o'.time).2 := by
  have hconsume := queue_consume (d := d) q size o.time
  rw [hq, h.time, queue_consume] at hconsume
  exact (Prod.mk.inj hconsume).imp Eq.symm Eq.symm

/-- A queue that is not there is shown as an empty one would be. -/
theorem queue_getD (h : d.holdings s id = d.holdings s' id) :
    d.queue ((s.queues.get? id).getD {}) = d.queue ((s'.queues.get? id).getD {}) := by
  have hmap (x : Option DeadLetter.Queue) : d.queue (x.getD {}) = (x.map d.queue).getD {} := by
    cases x <;> rfl
  rw [hmap, hmap]
  exact congrArg (·.getD {}) (Prod.mk.inj h).2

/-- Queues that are the same on a dial can be put in their places. -/
theorem holdings_insert_queue (h : d.holdings s id = d.holdings s' id)
    (hq : d.queue q = d.queue q') :
    d.holdings { s with queues := s.queues.insert id q } id =
      d.holdings { s' with queues := s'.queues.insert id q' } id := by
  simp only [holdings, Table.get?_insert, if_true, Option.map_some, hq]
  exact congrArg (·, _) (Prod.mk.inj h).1

theorem holdings_takeBatch (h : d.Same o o') (hsame : d.holdings s id = d.holdings s' id)
    (size : Nat) :
    (s.takeBatch o id size).1 = (s'.takeBatch o' id size).1 ∧
      d.holdings (s.takeBatch o id size).2 id = d.holdings (s'.takeBatch o' id size).2 id := by
  obtain ⟨hbatch, hrest⟩ := consume_eq h (queue_getD hsame) size
  exact ⟨hbatch, holdings_insert_queue hsame hrest⟩

theorem queue_seeded (h : d.Same o o') (letters : List DeadLetter.Message) :
    d.queue (.seeded letters o.time) = d.queue (.seeded letters o'.time) := by
  simp only [queue, DeadLetter.Queue.seeded]
  split
  · rfl
  · simp only [Option.map_some, h.time]

theorem holdings_emptyQueue (h : d.holdings s id = d.holdings s' id) :
    d.holdings (s.emptyQueue id) id = d.holdings (s'.emptyQueue id) id := by
  have hqueues : (s.queues.get? id).map d.queue = (s'.queues.get? id).map d.queue :=
    (Prod.mk.inj h).2
  unfold Orchestrator.emptyQueue
  cases hq : s.queues.get? id with
  | none =>
    cases hq' : s'.queues.get? id with
    | none => exact h
    | some q' => rw [hq, hq'] at hqueues; cases hqueues
  | some q =>
    cases hq' : s'.queues.get? id with
    | none => rw [hq, hq'] at hqueues; cases hqueues
    | some q' =>
      rw [hq, hq'] at hqueues
      exact holdings_insert_queue h (congrArg DeadLetter.Queue.purge (Option.some.inj hqueues))

theorem holdings_erase_pipeline (h : d.holdings s id = d.holdings s' id) :
    d.holdings { s with pipelines := s.pipelines.erase id } id =
      d.holdings { s' with pipelines := s'.pipelines.erase id } id := by
  simp only [holdings, Table.get?_erase, if_true]
  exact congrArg (_, ·) (Prod.mk.inj h).2

theorem holdings_dropQueue (h : d.holdings s id = d.holdings s' id) :
    d.holdings (s.dropQueue id) id = d.holdings (s'.dropQueue id) id := by
  simp only [holdings, Orchestrator.dropQueue, Table.get?_erase, if_true]
  exact congrArg (·, _) (Prod.mk.inj h).1

/-- What is the same on a dial is there or not. -/
theorem ensureExists_eq (h : d.holdings s id = d.holdings s' id) :
    s.ensureExists id = s'.ensureExists id := by
  have hpipelines : (s.pipelines.get? id).map d.pipeline = (s'.pipelines.get? id).map d.pipeline :=
    (Prod.mk.inj h).1
  rw [Orchestrator.ensureExists, Orchestrator.ensureExists, Orchestrator.get, Orchestrator.get]
  cases hp : s.pipelines.get? id <;> cases hp' : s'.pipelines.get? id <;>
    simp only [hp, hp', Option.map_none, Option.map_some, reduceCtorEq] at hpipelines <;> rfl

/-- Timers for the same change that are set on occasions with the same stamps. -/
theorem timer_eq (h : d.Same o o') (id : String) (source target : Status) (delay : Nat) :
    [(⟨id, source, target, o.elapsed + delay, o.time, none⟩ : Timer)].map d.timer =
      [⟨id, source, target, o'.elapsed + delay, o'.time, none⟩].map d.timer := by
  simp only [List.map_cons, timer, h.due, h.time]

end Stamps

end Dial

namespace Orchestrator

open Handler (Relates look update)

/-- What two calls have done is the same on a dial, as far as one id goes: what belongs to the id,
and the timers that have been set since the states in which the calls came. -/
structure SameEffect (d : Dial) (id : String) (s s' t t' : Orchestrator) : Prop where
  holdings : d.holdings t id = d.holdings t' id
  timers : ∃ set set', t.timers = s.timers ++ set ∧ t'.timers = s'.timers ++ set' ∧
    set.map d.timer = set'.map d.timer

section Local

variable {α : Type} {d : Dial} {s s' t t' u u' : Orchestrator} {rules : Rules} {o o' : Occasion}
  {id : String}

theorem SameEffect.start (h : d.holdings s id = d.holdings s' id) :
    SameEffect d id s s' s s' :=
  ⟨h, [], [], (List.append_nil _).symm, (List.append_nil _).symm, rfl⟩

/-- Changes that set no timer. -/
theorem SameEffect.calm (h : SameEffect d id s s' t t')
    (hholdings : d.holdings u id = d.holdings u' id) (htimers : u.timers = t.timers)
    (htimers' : u'.timers = t'.timers) : SameEffect d id s s' u u' :=
  ⟨hholdings, htimers ▸ htimers' ▸ h.timers⟩

theorem SameEffect.schedule (h : SameEffect d id s s' t t') (hclock : d.Same o o')
    (source target : Status) (delay : Nat) :
    SameEffect d id s s' (t.schedule o id source target delay)
      (t'.schedule o' id source target delay) where
  holdings := h.holdings
  timers := by
    obtain ⟨set, set', hset, hset', hread⟩ := h.timers
    let timer (o : Occasion) : Timer := ⟨id, source, target, o.elapsed + delay, o.time, none⟩
    refine ⟨set ++ [timer o], set' ++ [timer o'], ?_, ?_, ?_⟩
    · rw [timers_schedule, hset, List.append_assoc]
    · rw [timers_schedule, hset', List.append_assoc]
    · rw [List.map_append, List.map_append, hread, Dial.timer_eq hclock]

/-- What belongs to the id is all that is looked at, if the pipeline of the id is. -/
theorem SameEffect.relates_get {f f' : Pipeline → Handler α}
    (h : ∀ p p', d.pipeline p = d.pipeline p' → Relates (SameEffect d id s s') (f p) (f' p')) :
    Relates (SameEffect d id s s') (look (·.get id) >>= f) (look (·.get id) >>= f') := by
  intro t t' hsame
  have hpipelines : (t.pipelines.get? id).map d.pipeline = (t'.pipelines.get? id).map d.pipeline :=
    (Prod.mk.inj hsame.holdings).1
  rw [Handler.bind_apply, Handler.bind_apply, Handler.look_apply, Handler.look_apply, get, get]
  cases hp : t.pipelines.get? id with
  | none =>
    cases hp' : t'.pipelines.get? id with
    | none => exact ⟨rfl, hsame⟩
    | some p' => rw [hp, hp'] at hpipelines; cases hpipelines
  | some p =>
    cases hp' : t'.pipelines.get? id with
    | none => rw [hp, hp'] at hpipelines; cases hpipelines
    | some p' =>
      rw [hp, hp'] at hpipelines
      exact h p p' (Option.some.inj hpipelines) t t' hsame

theorem SameEffect.relates_put {p p' : Pipeline} (hp : d.pipeline p = d.pipeline p') :
    Relates (SameEffect d id s s') (update (·.put id p)) (update (·.put id p')) :=
  .update fun _ _ hsame => hsame.calm (Dial.holdings_put hsame.holdings hp) rfl rfl

theorem SameEffect.relates_ensureExists :
    Relates (SameEffect d id s s') (look (·.ensureExists id)) (look (·.ensureExists id)) :=
  .look fun _ _ hsame => Dial.ensureExists_eq hsame.holdings

theorem SameEffect.relates_schedule (hclock : d.Same o o') (source target : Status) (delay : Nat) :
    Relates (SameEffect d id s s') (update (·.schedule o id source target delay))
      (update (·.schedule o' id source target delay)) :=
  .update fun _ _ hsame => hsame.schedule hclock source target delay

/-- Without a quota, only the id itself can stand in the way of a new pipeline. -/
theorem SameEffect.relates_accept (hrules : rules.singleActive = false) (hclock : d.Same o o')
    (config : PipelineConfig) :
    Relates (SameEffect d config.id s s') (accept rules o config) (accept rules o' config) := by
  refine .bind (.look fun t t' hsame => ?_) fun _ =>
    SameEffect.relates_put (Dial.pipeline_ofConfig hclock config .created)
  have hcontains : t.pipelines.contains config.id = t'.pipelines.contains config.id := by
    have h := congrArg (Option.isSome ∘ Prod.fst) hsame.holdings
    simpa [Dial.holdings, Table.contains] using h
  rw [ensureRoom, ensureRoom, hcontains, hrules]
  rfl

/-- An operation that changes one pipeline does the same wherever what belongs to its id is the
same, if there is no quota. -/
theorem perform_local (hrules : rules.singleActive = false) (hclock : d.Same o o') {op : Operation}
    (hop : op.changes? = some id) :
    Relates (SameEffect d id s s') (perform rules o op) (perform rules o' op) := by
  cases op with
  | create config =>
    rw [Operation.changes?] at hop
    split at hop
    · cases hop
    · next hid =>
      obtain rfl := Option.some.inj hop
      rw [perform, perform, create, create]
      refine .bind (.look fun _ _ _ => rfl) fun _ => ?_
      dsimp only
      rw [if_neg hid, if_neg hid]
      refine .bind (SameEffect.relates_accept hrules hclock config) fun _ => .bind ?_ fun _ => ?_
      · exact .update fun _ _ hsame => hsame.calm
          (Dial.holdings_insert_queue hsame.holdings (Dial.queue_seeded hclock _)) rfl rfl
      · exact .bind (SameEffect.relates_schedule hclock _ _ _) fun _ => .pure _
  | rename id name =>
    obtain rfl := Option.some.inj hop
    refine .bind (.ensure _ _) fun _ => SameEffect.relates_get fun p p' hp => ?_
    exact SameEffect.relates_put (Dial.pipeline_rename hclock hp name)
  | edit id config =>
    obtain rfl := Option.some.inj hop
    refine .bind (.look fun _ _ _ => rfl) fun _ => SameEffect.relates_get fun p p' hp => ?_
    rw [Dial.status_eq hp]
    refine .bind (.ensure _ _) fun _ => ?_
    exact SameEffect.relates_put (Dial.pipeline_applyConfig hclock hp config)
  | delete id =>
    obtain rfl := Option.some.inj hop
    refine .bind (SameEffect.relates_get fun p p' hp => ?_) fun _ => .update fun t t' hsame => ?_
    · rw [Dial.status_eq hp]
      refine .bind (.ensure _ _) fun _ => .update fun t t' hsame => hsame.calm ?_ rfl rfl
      exact Dial.holdings_erase_pipeline hsame.holdings
    · exact hsame.calm (Dial.holdings_dropQueue hsame.holdings) rfl rfl
  | act id action =>
    obtain rfl := Option.some.inj hop
    refine SameEffect.relates_get fun p p' hp => ?_
    rw [Dial.status_eq hp]
    refine .bind (.ensure _ _) fun _ => .bind ?_ fun _ => ?_
    · exact SameEffect.relates_put (Dial.pipeline_move hclock hp action.optimistic)
    · exact .bind (SameEffect.relates_schedule hclock _ _ _) fun _ => .pure _
  | consume id size =>
    obtain rfl := Option.some.inj hop
    refine .bind (.look fun _ _ _ => rfl) fun size => ?_
    refine .bind SameEffect.relates_ensureExists fun _ => ?_
    refine .commit fun t t' hsame => ?_
    obtain ⟨hbatch, hown⟩ := Dial.holdings_takeBatch hclock hsame.holdings size
    exact ⟨hbatch, hsame.calm hown (timers_takeBatch ..) (timers_takeBatch ..)⟩
  | purge id =>
    obtain rfl := Option.some.inj hop
    refine .bind SameEffect.relates_ensureExists fun _ => .update fun t t' hsame => ?_
    exact hsame.calm (Dial.holdings_emptyQueue hsame.holdings) (timers_emptyQueue ..)
      (timers_emptyQueue ..)
  | _ => cases hop

theorem holdings_perform (s : Orchestrator) {op : Operation} {other : String}
    (hop : op.changes? = some id) (hne : other ≠ id) :
    (perform rules o op s).2.holdings other = s.holdings other := by
  refine perform_induction (motive := fun t => t.holdings other = s.holdings other) rfl
    fun _ _ h => holdings_of_perform (Operation.ne_terminateAll_of_changes? hop) ?_ h
  rw [Operation.addressee?_of_changes? hop o]
  exact fun heq => hne (Option.some.inj heq).symm

end Local

/-! ### Two operations -/

section Commute

variable {d : Dial} {rules : Rules} {first second : Operation} {a b : String}

/-- Two operations on different ids can be exchanged: on a dial on which the occasions of each are
the same, the answers and the states are. -/
theorem perform_comm (hrules : rules.singleActive = false) (hfirst : first.changes? = some a)
    (hsecond : second.changes? = some b) (hne : a ≠ b) (s : Orchestrator) {o₁ o₂ o₁' o₂' : Occasion}
    (h₁ : d.Same o₁ o₁') (h₂ : d.Same o₂ o₂') :
    let s₁ := (perform rules o₁ first s).2
    let s₂ := (perform rules o₂' second s).2
    (perform rules o₁ first s).1 = (perform rules o₁' first s₂).1 ∧
      (perform rules o₂ second s₁).1 = (perform rules o₂' second s).1 ∧
      d.Alike (perform rules o₂ second s₁).2 (perform rules o₁' first s₂).2 := by
  intro s₁ s₂
  -- Neither operation has changed what the other one looks at.
  have hsame₁ : d.holdings s a = d.holdings s₂ a :=
    Dial.holdings_of_eq (holdings_perform _ hsecond hne).symm
  have hsame₂ : d.holdings s₁ b = d.holdings s b :=
    Dial.holdings_of_eq (holdings_perform _ hfirst hne.symm)
  obtain ⟨hreply₁, hown₁, set₁, set₁', htimers₁, htimers₁', hset₁⟩ :=
    perform_local hrules h₁ hfirst s s₂ (.start hsame₁)
  obtain ⟨hreply₂, hown₂, set₂, set₂', htimers₂, htimers₂', hset₂⟩ :=
    perform_local hrules h₂ hsecond s₁ s (.start hsame₂)
  have hholdings (id : String) : d.holdings (perform rules o₂ second s₁).2 id =
      d.holdings (perform rules o₁' first s₂).2 id := by
    by_cases ha : id = a
    · subst ha
      exact (Dial.holdings_of_eq (holdings_perform _ hsecond hne)).trans hown₁
    · by_cases hb : id = b
      · subst hb
        exact hown₂.trans (Dial.holdings_of_eq (holdings_perform _ hfirst ha).symm)
      · refine Dial.holdings_of_eq ?_
        rw [holdings_perform _ hsecond hb, holdings_perform _ hfirst ha,
          holdings_perform _ hfirst ha, holdings_perform _ hsecond hb]
  refine ⟨hreply₁, hreply₂, fun id => (Prod.mk.inj (hholdings id)).1,
    fun id => (Prod.mk.inj (hholdings id)).2, ?_⟩
  rw [htimers₂, htimers₁, htimers₁', htimers₂', List.append_assoc, List.append_assoc,
    List.map_append, List.map_append, List.map_append, List.map_append, hset₁, hset₂]
  exact List.perm_append_comm.append_left _

/-- Where there is no quota, two operations on different ids can be exchanged, whatever the state
and whenever they come: each gets the same answer, and the states after both are the same but for
the times. If each comes on the same occasion in either order, the times are the same too. -/
theorem different_pipelines_commute (hrules : rules.singleActive = false)
    (hfirst : first.changes? = some a) (hsecond : second.changes? = some b) (hne : a ≠ b)
    (s : Orchestrator) (o₁ o₂ o₁' o₂' : Occasion) :
    let s₁ := (perform rules o₁ first s).2
    let s₂ := (perform rules o₂' second s).2
    let s₁₂ := (perform rules o₂ second s₁).2
    let s₂₁ := (perform rules o₁' first s₂).2
    (perform rules o₁ first s).1 = (perform rules o₁' first s₂).1 ∧
      (perform rules o₂ second s₁).1 = (perform rules o₂' second s).1 ∧
      Dial.blank.Alike s₁₂ s₂₁ ∧ (o₁ = o₁' → o₂ = o₂' → Dial.exact.Alike s₁₂ s₂₁) := by
  intro s₁ s₂ s₁₂ s₂₁
  obtain ⟨hreply₁, hreply₂, hblank⟩ := perform_comm hrules hfirst hsecond hne s
    (Dial.same_blank o₁ o₁') (Dial.same_blank o₂ o₂')
  refine ⟨hreply₁, hreply₂, hblank, ?_⟩
  rintro rfl rfl
  exact (perform_comm hrules hfirst hsecond hne s (Dial.exact.same_self o₁)
    (Dial.exact.same_self o₂)).2.2

/-- A configuration with a topic and a sink. -/
def plainConfig (id : String) : PipelineConfig :=
  { id, name := "Clicks", source := .object [("topics", .array [.null])], sink := .object [] }

/-- A single pipeline, which runs. -/
def clicksRun : Orchestrator :=
  { pipelines := (∅ : Table Pipeline).insert "clicks"
      (.ofConfig (plainConfig "clicks") .running (Surroundings.moment 0)) }

/-- The pipeline is paused and another one is created, or the other way round at other times. Both
are done either way, and two timers are set. -/
theorem pause_and_creation_commute :
    let rules : Rules := { singleActive := false }
    let now := Surroundings.occasion
    let pause : Operation := .act "clicks" .pause
    let creation : Operation := .create (plainConfig "views")
    let s₁ := (perform rules (now 1 10) pause clicksRun).2
    let s₂ := (perform rules (now 3 20) creation clicksRun).2
    let s₁₂ := (perform rules (now 2 30) creation s₁).2
    let s₂₁ := (perform rules (now 4 40) pause s₂).2
    pause.changes? = some "clicks" ∧ creation.changes? = some "views" ∧
      (perform rules (now 4 40) pause s₂).1.toOption = some .pausing ∧
      (perform rules (now 2 30) creation s₁).1.toOption = some "views" ∧
      s₂₁.timers.length = 2 ∧ Dial.blank.Alike s₁₂ s₂₁ := by
  intro rules now pause creation s₁ s₂ s₁₂ s₂₁
  have hrules : rules.singleActive = false := rfl
  have hpause : pause.changes? = some "clicks" := rfl
  have hcreation : creation.changes? = some "views" := by decide
  obtain ⟨hpaused, hcreated, halike, -⟩ := different_pipelines_commute hrules hpause hcreation
    (by decide) clicksRun (now 1 10) (now 2 30) (now 4 40) (now 3 20)
  refine ⟨hpause, hcreation, ?_, ?_, by decide, halike⟩
  · rw [← hpaused]
    decide
  · rw [hcreated]
    decide

end Commute

end Orchestrator

end PipelineConsole
