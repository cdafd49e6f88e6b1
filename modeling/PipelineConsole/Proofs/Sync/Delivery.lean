import PipelineConsole.Proofs.Sync.Agreement
import PipelineConsole.Proofs.Sync.IdSet
import PipelineConsole.Proofs.Sync.Run

/-!
# Statuses on their way to the cache

The worker queues what it sends, and the updates are applied to the cache one by one, unless their
pipeline is not watched. For a pipeline that is never unwatched nothing is lost on the way: the
manager notes it before the worker hears of it, so that no status of it meets a manager that does
not know it.

## Main definitions

* `Update.statuses` — the statuses of a pipeline among updates
* `StatusSync.sends`, `StatusSync.applies` — what an event queues, and what it applies to the cache
* `StatusSync.sent`, `StatusSync.applied` — the same for a run
* `StatusSync.known` — the confirmed status and the failure of a pipeline
* `StatusSync.Followed` — the manager watches a pipeline of which there may be statuses

## Main results

* `Worker.step_cases` — what the worker does with an input
* `known_step` — only the updates that are applied change what is known
* `lastSeen_step` — what the worker remembers is what it has sent last
* `statuses_step`, `statuses_run` — no status is lost, doubled or overtaken
* `statuses_are_delivered` — so it is in every run, and the queue leads to what the worker remembers
-/

namespace PipelineConsole

namespace Update

/-- The status that an update tells of a pipeline. -/
def status? (id : String) : Update → Option Status
  | .status other st => if other = id then some st else none
  | .failed .. => none

/-- The statuses of a pipeline among updates, in their order. -/
def statuses (id : String) (updates : List Update) : List Status := updates.filterMap (status? id)

/-- The confirmed status and the failure of a pipeline after an update. -/
def learn (id : String) (known : Option Status × Option ErrorBody) :
    Update → Option Status × Option ErrorBody
  | .status other st => if other = id then (some st, none) else known
  | .failed other error => if other = id then (known.1, some error) else known

section Statuses

variable {id : String} {known : Option Status × Option ErrorBody} {updates : List Update}
  {u : Update}

@[simp] theorem statuses_nil : statuses id [] = [] := rfl

@[simp] theorem statuses_append (earlier later : List Update) :
    statuses id (earlier ++ later) = statuses id earlier ++ statuses id later :=
  List.filterMap_append

theorem lastStatus_eq_getLast? : lastStatus id updates = (statuses id updates).getLast? := by
  induction updates with
  | nil => rfl
  | cons u rest ih =>
    cases u with
    | status other st =>
      by_cases h : other = id
      · simp [lastStatus, statuses, status?, h, ih, List.getLast?_cons]
      · simp [lastStatus, statuses, status?, h, ih]
    | failed other error => exact ih

/-- An update of another pipeline tells nothing. -/
theorem learn_of_ne (h : u.id ≠ id) : learn id known u = known := by
  cases u <;> exact if_neg h

/-- Updates of other pipelines tell nothing. -/
theorem foldl_learn_of_ne (h : ∀ u ∈ updates, u.id ≠ id) :
    updates.foldl (learn id) known = known := by
  induction updates with
  | nil => rfl
  | cons u rest ih =>
    rw [List.forall_mem_cons] at h
    rw [List.foldl_cons, learn_of_ne h.1, ih h.2]

/-- The confirmed status is the last one that is told. -/
theorem foldl_learn_fst :
    (updates.foldl (learn id) known).1 = (lastStatus id updates).or known.1 := by
  induction updates generalizing known with
  | nil => rfl
  | cons u rest ih =>
    rw [List.foldl_cons, ih]
    cases u with
    | status other st =>
      rw [lastStatus, Option.or_assoc, learn]
      split <;> rfl
    | failed other error =>
      rw [lastStatus, learn]
      split <;> rfl

/-- Updates that are dropped because their pipeline is none of the given ones hold no statuses of
one that is. -/
theorem statuses_filter {ids : IdSet} (h : ∀ st, .status id st ∈ updates → id ∈ ids) :
    statuses id (updates.filter (·.id ∈ ids)) = statuses id updates := by
  induction updates with
  | nil => rfl
  | cons u rest ih =>
    have hrest := ih fun st hst => h st (.tail _ hst)
    by_cases hmem : u.id ∈ ids
    · rw [List.filter_cons_of_pos (by simpa using hmem)]
      simp only [statuses, List.filterMap_cons] at hrest ⊢
      rw [hrest]
    · have hnone : status? id u = none := by
        cases u with
        | status other st =>
          refine if_neg fun heq => hmem ?_
          subst heq
          exact h st (.head _)
        | failed other error => rfl
      rw [List.filter_cons_of_neg (by simpa using hmem), hrest, statuses, statuses,
        List.filterMap_cons, hnone]

/-- Nor do they tell anything of it. -/
theorem foldl_learn_filter {ids : IdSet} (h : id ∈ ids) :
    (updates.filter (·.id ∈ ids)).foldl (learn id) known = updates.foldl (learn id) known := by
  induction updates generalizing known with
  | nil => rfl
  | cons u rest ih =>
    by_cases hmem : u.id ∈ ids
    · rw [List.filter_cons_of_pos (by simpa using hmem), List.foldl_cons, List.foldl_cons, ih]
    · have hne : u.id ≠ id := fun heq => hmem (heq ▸ h)
      rw [List.filter_cons_of_neg (by simpa using hmem), List.foldl_cons, ih, learn_of_ne hne]

end Statuses

end Update

/-! ### What the worker does with an input -/

namespace Worker

open Update (lastStatus)

section Step

variable {w : Worker} {input : Input} {id : String} {st : Status}

/-- The worker carries out a command, reports changes of statuses, possibly none, or gives a
pipeline up. -/
theorem step_cases (w : Worker) (input : Input) :
    (∃ c, input = .command c ∧ (w.step input).1.Agree (w.apply c) ∧ (w.step input).2 = []) ∨
      (∃ changes, (w.step input).1.Agree (w.observeAll changes).1 ∧
        (w.step input).2 = (w.observeAll changes).2) ∨
      ∃ id error, (w.step input).1.Agree w ∧ (w.step input).2 = [.failed id error] := by
  have hsilent {v : Worker} (h : v.Agree w) :
      ∃ changes, v.Agree (w.observeAll changes).1 ∧ [] = (w.observeAll changes).2 := ⟨[], h, rfl⟩
  unfold step
  -- The cases are those of `step`, in their order.
  split
  case h_1 c _ => exact .inl ⟨c, rfl, ⟨rfl, rfl⟩, rfl⟩
  case h_2 => exact .inr (.inl (hsilent ⟨rfl, rfl⟩))
  case h_3 => exact .inr (.inl (hsilent ⟨watched_attemptFailed w, lastSeen_attemptFailed w⟩))
  case h_4 c _ =>
    refine .inl ⟨c, rfl, ?_, rfl⟩
    dsimp only
    split <;> exact ⟨rfl, rfl⟩
  case h_5 delivered e _ =>
    have hagree : Agree { w with
        phase := .reading true
        streamFailures := if delivered then w.streamFailures else 0 } w := ⟨rfl, rfl⟩
    exact .inr (.inl ⟨e.changes, hagree.observeAll e.changes⟩)
  case h_6 => exact .inr (.inl (hsilent ⟨watched_attemptFailed w, lastSeen_attemptFailed w⟩))
  case h_7 => exact .inr (.inl (hsilent ⟨rfl, rfl⟩))
  case h_8 => exact .inr (.inl (hsilent ⟨watched_attemptFailed w, lastSeen_attemptFailed w⟩))
  case h_9 c _ => exact .inl ⟨c, rfl, ⟨rfl, rfl⟩, rfl⟩
  case h_10 => exact .inr (.inl (hsilent ⟨rfl, rfl⟩))
  case h_11 c _ => exact .inl ⟨c, rfl, by cases c <;> exact ⟨rfl, rfl⟩, rfl⟩
  case h_12 => exact .inr (.inl (hsilent ⟨watched_fetchNext .., lastSeen_fetchNext ..⟩))
  case h_13 i rest result _ =>
    dsimp only
    cases result with
    | ok st =>
      refine .inr (.inl ⟨[⟨i, st, none⟩], ?_⟩)
      rw [observeAll_singleton]
      have hagree : Agree { w with pollFailures := w.pollFailures.erase i } w := ⟨rfl, rfl⟩
      obtain ⟨⟨hwatched, hseen⟩, hsent⟩ := hagree.observe i st
      exact ⟨⟨(watched_fetchNext ..).trans hwatched, (lastSeen_fetchNext ..).trans hseen⟩, hsent⟩
    | error error =>
      simp only [checked]
      split
      · exact .inr (.inr ⟨i, error, ⟨watched_fetchNext .., lastSeen_fetchNext ..⟩, rfl⟩)
      · exact .inr (.inl (hsilent ⟨watched_fetchNext .., lastSeen_fetchNext ..⟩))
  case h_14 => exact .inr (.inl (hsilent ⟨rfl, rfl⟩))

/-- A worker that takes commands carries out the next one. -/
theorem step_command (h : w.takesCommands = true) (c : Command) :
    (w.step (.command c)).1.Agree (w.apply c) ∧ (w.step (.command c)).2 = [] := by
  unfold takesCommands at h
  unfold step
  cases hphase : w.phase with
  | idle => exact ⟨⟨rfl, rfl⟩, rfl⟩
  | reading delivered =>
    dsimp only
    split <;> exact ⟨⟨rfl, rfl⟩, rfl⟩
  | pausing => exact ⟨⟨rfl, rfl⟩, rfl⟩
  | polling => cases c <;> exact ⟨⟨rfl, rfl⟩, rfl⟩
  | opening ids | fetching id rest | stopped =>
    rw [hphase] at h
    cases h

/-- A command is answered by no update. -/
theorem step_command_snd (w : Worker) (c : Command) : (w.step (.command c)).2 = [] := by
  unfold step
  split <;> first | rfl | contradiction

/-- The worker comes to watch a pipeline only by a command. -/
theorem mem_watched_step (h : id ∈ (w.step input).1.watched) :
    id ∈ w.watched ∨ input = .command (.watch id) := by
  rcases step_cases w input with ⟨c, rfl, hagree, -⟩ | ⟨changes, hagree, -⟩ | ⟨i, error, hagree, -⟩
  · rw [hagree.watched] at h
    cases c with
    | watch other =>
      rcases IdSet.mem_insert.1 h with rfl | h
      · exact .inr rfl
      · exact .inl h
    | unwatch other => exact .inl (IdSet.mem_erase.1 h).1
  · rw [hagree.watched, watched_observeAll] at h
    exact .inl h
  · rw [hagree.watched] at h
    exact .inl h

theorem mem_watched_of_mem_observeAll {changes : List StatusChange}
    (h : .status id st ∈ (w.observeAll changes).2) : id ∈ w.watched := by
  induction changes generalizing w with
  | nil => cases h
  | cons c rest ih =>
    rw [observeAll_cons] at h
    rcases List.mem_append.1 h with h | h
    · unfold observe at h
      split at h
      · cases h
      · next hnews =>
        obtain ⟨rfl, -⟩ := Update.status.inj (List.mem_singleton.1 h)
        exact Classical.not_not.1 fun hmem => hnews (.inl hmem)
    · exact watched_observe w .. ▸ ih h

/-- The worker sends statuses of watched pipelines only. -/
theorem mem_watched_of_sent (h : .status id st ∈ (w.step input).2) : id ∈ w.watched := by
  rcases step_cases w input with ⟨c, -, -, hsent⟩ | ⟨changes, -, hsent⟩ | ⟨i, error, -, hsent⟩
  · rw [hsent] at h
    cases h
  · rw [hsent] at h
    exact mem_watched_of_mem_observeAll h
  · rw [hsent] at h
    cases List.mem_singleton.1 h

/-- The worker remembers the last status of a pipeline that it has sent, unless it is told to forget
the pipeline. -/
theorem lastSeen_step_of_ne (h : input ≠ .command (.unwatch id)) :
    (w.step input).1.lastSeen.get? id =
      (lastStatus id (w.step input).2).or (w.lastSeen.get? id) := by
  rcases step_cases w input with ⟨c, rfl, hagree, hsent⟩ | ⟨changes, hagree, hsent⟩ |
    ⟨i, error, hagree, hsent⟩
  · rw [hagree.lastSeen, hsent]
    cases c with
    | watch other => rfl
    | unwatch other =>
      have hne : id ≠ other := fun heq => h (heq ▸ rfl)
      rw [apply, Table.get?_erase, if_neg hne]
      rfl
  · rw [hagree.lastSeen, hsent, lastSeen_observeAll]
  · rw [hagree.lastSeen, hsent]
    rfl

end Step

end Worker

namespace StatusSync

open Update (lastStatus lastStatus_append statuses learn)

/-! ### What an event queues and applies -/

/-- The updates that an event queues. -/
def sends (s : StatusSync) : Event → List Update
  | .work (.command _) => []
  | .work input => (s.worker.step input).2
  | _ => []

/-- The command that the worker carries out on an event. -/
def carriesOut (s : StatusSync) : Event → Option Command
  | .obey => if s.worker.takesCommands then s.commands.head? else none
  | _ => none

/-- The updates that an event applies to the cache. -/
def applies (s : StatusSync) (e : Event) : List Update :=
  (s.updates.take e.takes).filter (·.id ∈ s.watched)

/-- The updates that a run queues, in their order. -/
def sent (s : StatusSync) : List Event → List Update
  | [] => []
  | e :: rest => s.sends e ++ (step s e).sent rest

/-- The updates that a run applies to the cache, in their order. -/
def applied (s : StatusSync) : List Event → List Update
  | [] => []
  | e :: rest => s.applies e ++ (step s e).applied rest

/-- The confirmed status of a pipeline, and its failure. -/
def known (s : StatusSync) (id : String) : Option Status × Option ErrorBody :=
  let entry := (s.cache.get? id).getD {}
  (entry.confirmed, entry.error)

/-- The confirmed status of a pipeline. -/
def confirmed (s : StatusSync) (id : String) : Option Status :=
  s.cache.get? id >>= CacheEntry.confirmed

section Known

variable {s s' : StatusSync} {id : String} {e : Event}

theorem confirmed_eq : s.confirmed id = (s.known id).1 := by
  rw [confirmed, known]
  cases s.cache.get? id <;> rfl

/-- Changing the entry of one pipeline matters to its own knowledge only. -/
theorem known_of_change {key : String} {f : CacheEntry → CacheEntry}
    (h : s'.cache = (s.cache.change key f).1) :
    s'.known id =
      if id = key then
        ((f ((s.cache.get? key).getD {})).confirmed, (f ((s.cache.get? key).getD {})).error)
      else s.known id := by
  rw [known, known, entry_of_change h]
  split <;> rfl

/-- Overrides are no knowledge. -/
theorem known_of_override {key : String} {f : CacheEntry → CacheEntry}
    (h : s'.cache = (s.cache.change key f).1)
    (hconfirmed : ∀ entry, (f entry).confirmed = entry.confirmed)
    (herror : ∀ entry, (f entry).error = entry.error) : s'.known id = s.known id := by
  rw [known_of_change h, hconfirmed, herror]
  split
  · next heq => rw [heq]; rfl
  · rfl

theorem known_dropStale (now life : Nat) (ids : List String) (s : StatusSync) :
    ({ s with cache := (s.cache.dropStale now life ids).1 }).known id = s.known id := by
  induction ids generalizing s with
  | nil => rfl
  | cons key rest ih =>
    let f (entry : CacheEntry) : CacheEntry :=
      if entry.isStale now life then { entry with override := none } else entry
    have hconfirmed (entry) : (f entry).confirmed = entry.confirmed := by
      simp only [f]
      split <;> rfl
    have herror (entry) : (f entry).error = entry.error := by
      simp only [f]
      split <;> rfl
    let next : StatusSync := { s with cache := (s.cache.change key f).1 }
    have hnext : next.cache = (s.cache.change key f).1 := rfl
    exact (ih next).trans (known_of_override hnext hconfirmed herror)

theorem known_expire (now : Nat) : (s.expire now).1.known id = s.known id := by
  unfold expire Cache.expire
  cases s.life with
  | none => rfl
  | some life => exact known_dropStale now life _ s

/-- What an update tells becomes known, if its pipeline is watched. -/
theorem known_apply (u : Update) :
    (s.apply u).1.known id = ([u].filter (·.id ∈ s.watched)).foldl (learn id) (s.known id) := by
  by_cases hmem : u.id ∈ s.watched
  · rw [known_of_change (cache_apply s hmem), List.filter_cons_of_pos (by simpa using hmem)]
    by_cases hid : id = u.id
    · subst hid
      rw [if_pos rfl]
      cases u <;> simp [learn, Update.effect, Update.id, known]
    · rw [if_neg hid]
      exact (Update.learn_of_ne fun heq => hid heq.symm).symm
  · rw [apply_of_not_mem s hmem, List.filter_cons_of_neg (by simpa using hmem)]
    rfl

/-- Nothing but the updates that are applied changes what is known of a pipeline, unless it is
unwatched. -/
theorem known_step (hkept : e ≠ .unwatch id) :
    (step s e).known id = (s.applies e).foldl (learn id) (s.known id) := by
  cases e with
  | unwatch other =>
    have hne : id ≠ other := fun heq => hkept (heq ▸ rfl)
    rw [known, step, unwatch, Table.get?_erase, if_neg hne]
    rfl
  | assume now other st =>
    exact known_of_override (f := fun entry => { entry with override := some ⟨st, now⟩ }) rfl
      (fun _ => rfl) fun _ => rfl
  | assumeAction now other action =>
    exact known_of_override (f := fun entry => { entry with
      override := some ⟨action.optimistic, now⟩ }) rfl (fun _ => rfl) fun _ => rfl
  | revert other =>
    exact known_of_override (f := fun entry => { entry with override := none }) rfl
      (fun _ => rfl) fun _ => rfl
  | expire now => exact known_expire now
  | obey =>
    rw [step, obey]
    split
    · rfl
    · split <;> rfl
  | work input => cases input <;> rfl
  | applyNext =>
    rw [step, applyNext, applies]
    split
    · next hqueue => rw [hqueue]; rfl
    · next u rest hqueue =>
      rw [hqueue]
      exact known_apply (s := { s with updates := rest }) u
  | _ => rfl

/-- The queue loses what an event takes from it, and gets what the event sends. -/
theorem updates_step (s : StatusSync) (e : Event) :
    (step s e).updates = s.updates.drop e.takes ++ s.sends e := by
  have hnone {t : StatusSync} (h : t.updates = s.updates) :
      t.updates = s.updates.drop 0 ++ [] := by
    rw [h, List.drop_zero, List.append_nil]
  cases e with
  | applyNext =>
    refine (updates_applyNext s).trans ?_
    exact List.drop_one.symm.trans (List.append_nil _).symm
  | obey =>
    refine hnone ?_
    rw [step, obey]
    split
    · rfl
    · next c rest _ =>
      split
      · show s.updates ++ (s.worker.step (.command c)).2 = s.updates
        rw [Worker.step_command_snd, List.append_nil]
      · rfl
  | work input =>
    cases input with
    | command c => exact hnone rfl
    | _ => rfl
  | _ => exact hnone rfl

/-- What the worker remembers of a pipeline is the status that it has sent last, unless it has just
been told to forget the pipeline. -/
theorem lastSeen_step (s : StatusSync) (e : Event) (id : String) :
    (step s e).worker.lastSeen.get? id =
      if s.carriesOut e = some (.unwatch id) then none
      else (lastStatus id (s.sends e)).or (s.worker.lastSeen.get? id) := by
  cases e with
  | obey =>
    rw [step, obey, carriesOut]
    split
    · next hqueue => simp [hqueue, sends]
    · next c rest hqueue =>
      rw [hqueue]
      split
      · next htakes =>
        show (s.worker.step (.command c)).1.lastSeen.get? id = _
        rw [(Worker.step_command htakes c).1.lastSeen]
        cases c with
        | watch other => simp [Worker.apply, sends]
        | unwatch other =>
          rw [Worker.apply, Table.get?_erase]
          simp [sends, eq_comm]
      · simp [sends]
  | work input =>
    cases input with
    | command c => rfl
    | _ => exact Worker.lastSeen_step_of_ne Worker.Input.noConfusion
  | applyNext =>
    rw [step, worker_applyNext]
    rfl
  | _ => rfl

end Known

/-! ### Pipelines that the manager follows -/

/-- As long as the worker watches a pipeline, is told to or has sent statuses of it that are still
queued, the manager watches it too, and nobody is told to forget it. -/
structure Followed (s : StatusSync) (id : String) : Prop where
  worker : id ∈ s.worker.watched → id ∈ s.watched
  told : .watch id ∈ s.commands → id ∈ s.watched
  queued : ∀ st, .status id st ∈ s.updates → id ∈ s.watched
  kept : .unwatch id ∉ s.commands

/-- The manager notes a pipeline before the worker is told of it, as it is when it is watched. -/
def NotedFirst (id : String) : List Event → Prop
  | [] => True
  | .enlist other :: rest => other = id ∨ NotedFirst id rest
  | .announce other :: rest => other ≠ id ∧ NotedFirst id rest
  | _ :: rest => NotedFirst id rest

/-- The manager follows a pipeline throughout a run. -/
structure Follows (s : StatusSync) (id : String) (events : List Event) : Prop where
  followed : s.Followed id
  never : .unwatch id ∉ events
  noted : id ∈ s.watched ∨ NotedFirst id events

section Followed

variable {s : StatusSync} {id : String} {e : Event} {events : List Event}

theorem commands_applyNext (s : StatusSync) : s.applyNext.1.commands = s.commands := by
  unfold applyNext
  split
  · rfl
  · unfold StatusSync.apply
    split <;> rfl

/-- The worker takes a command that was queued, or another input. -/
theorem Followed.work {input : Worker.Input} (h : s.Followed id)
    (hinput : input = .command (.watch id) → id ∈ s.watched) : (s.work input).Followed id where
  worker hmem := by
    rcases Worker.mem_watched_step hmem with hmem | hcommand
    · exact h.worker hmem
    · exact hinput hcommand
  told := h.told
  queued st hst := by
    rcases List.mem_append.1 hst with hst | hst
    · exact h.queued st hst
    · exact h.worker (Worker.mem_watched_of_sent hst)
  kept := h.kept

theorem Followed.step (h : s.Followed id) (hkept : e ≠ .unwatch id)
    (hnoted : e = .announce id → id ∈ s.watched) : (step s e).Followed id := by
  cases e with
  | enlist other =>
    have hmore (hmem : id ∈ s.watched) : id ∈ s.watched.insert other :=
      IdSet.mem_insert.2 (.inr hmem)
    exact ⟨fun hw => hmore (h.worker hw), fun hc => hmore (h.told hc),
      fun st hst => hmore (h.queued st hst), h.kept⟩
  | announce other =>
    refine ⟨h.worker, fun hc => ?_, h.queued, fun hc => ?_⟩
    · rcases List.mem_append.1 hc with hc | hc
      · exact h.told hc
      · obtain rfl := Command.watch.inj (List.mem_singleton.1 hc)
        exact hnoted rfl
    · rcases List.mem_append.1 hc with hc | hc
      · exact h.kept hc
      · cases List.mem_singleton.1 hc
  | unwatch other =>
    have hne : id ≠ other := fun heq => hkept (heq ▸ rfl)
    have hstays (hmem : id ∈ s.watched) : id ∈ s.watched.erase other :=
      IdSet.mem_erase.2 ⟨hmem, hne⟩
    refine ⟨fun hw => hstays (h.worker hw), fun hc => ?_, fun st hst => hstays (h.queued st hst),
      fun hc => ?_⟩
    · rcases List.mem_append.1 hc with hc | hc
      · exact hstays (h.told hc)
      · cases List.mem_singleton.1 hc
    · rcases List.mem_append.1 hc with hc | hc
      · exact h.kept hc
      · exact hne (Command.unwatch.inj (List.mem_singleton.1 hc))
  | obey =>
    rw [StatusSync.step, obey]
    split
    · exact h
    · next c rest hcommands =>
      split
      · have hfewer : ({ s with commands := rest } : StatusSync).Followed id :=
          ⟨h.worker, fun hc => h.told (hcommands ▸ .tail _ hc), h.queued,
            fun hc => h.kept (hcommands ▸ .tail _ hc)⟩
        refine hfewer.work fun hc => h.told ?_
        rw [hcommands, ← Worker.Input.command.inj hc]
        exact .head _
      · exact h
  | work input =>
    cases input with
    | command c => exact h
    | _ => exact h.work fun hc => Worker.Input.noConfusion hc
  | applyNext =>
    have hcommands : (StatusSync.step s .applyNext).commands = s.commands := commands_applyNext s
    have hupdates := updates_applyNext s
    refine ⟨?_, ?_, ?_, ?_⟩
    · rw [StatusSync.step, worker_applyNext, watched_applyNext]
      exact h.worker
    · rw [hcommands, StatusSync.step, watched_applyNext]
      exact h.told
    · rw [StatusSync.step, watched_applyNext, updates_applyNext]
      exact fun st hst => h.queued st (List.mem_of_mem_tail hst)
    · rw [hcommands]
      exact h.kept
  | _ => exact ⟨h.worker, h.told, h.queued, h.kept⟩

/-- Nobody tells the worker to forget the pipeline. -/
theorem Followed.carriesOut_ne (h : s.Followed id) : s.carriesOut e ≠ some (.unwatch id) := by
  cases e with
  | obey =>
    intro heq
    rw [carriesOut] at heq
    split at heq
    · exact h.kept (List.mem_of_head? heq)
    · cases heq
  | _ =>
    intro heq
    cases heq

/-- One event further, the manager still follows the pipeline. -/
theorem Follows.step (h : s.Follows id (e :: events)) : (step s e).Follows id events := by
  have hkept : e ≠ .unwatch id := fun heq => h.never (heq ▸ .head _)
  have hnever : .unwatch id ∉ events := fun hmem => h.never (.tail _ hmem)
  have hnoted : e = .announce id → id ∈ s.watched := by
    rintro rfl
    rcases h.noted with hmem | hnoted
    · exact hmem
    · exact absurd rfl hnoted.1
  refine ⟨h.followed.step hkept hnoted, hnever, ?_⟩
  rcases h.noted with hmem | hnoted
  · exact .inl (watched_step hmem hkept)
  · cases e with
    | enlist other =>
      rcases hnoted with rfl | hnoted
      · exact .inl (IdSet.mem_insert.2 (.inl rfl))
      · exact .inr hnoted
    | announce other => exact .inr hnoted.2
    | _ => exact .inr hnoted

/-- A manager that is about to start follows every pipeline. -/
theorem follows_start (config : TransportConfig) (life : Option Nat) (ids : List String)
    (hnever : .unwatch id ∉ events) (hnoted : id ∈ ids ∨ NotedFirst id events) :
    (start config life ids).Follows id events := by
  refine ⟨⟨fun hmem => hmem, fun hc => ?_, fun st hst => ?_, List.not_mem_nil⟩, hnever, ?_⟩
  · cases hc
  · cases hst
  · exact hnoted.imp_left IdSet.mem_ofList.2

end Followed

/-! ### Nothing is lost on the way -/

section Delivery

variable {s : StatusSync} {id : String} {e : Event} {events : List Event}

/-- What was queued and what an event sends is what it applies and what is queued then. -/
theorem statuses_step (h : s.Followed id) (e : Event) :
    statuses id (s.applies e) ++ statuses id (step s e).updates =
      statuses id s.updates ++ statuses id (s.sends e) := by
  have happlies : statuses id (s.applies e) = statuses id (s.updates.take e.takes) :=
    Update.statuses_filter fun st hst => h.queued st (List.mem_of_mem_take hst)
  rw [happlies, updates_step, Update.statuses_append, ← List.append_assoc,
    ← Update.statuses_append, List.take_append_drop]

/-- Along a run, the statuses that are applied and then those that are queued are the ones that were
queued before and then those that are sent. -/
theorem statuses_run (h : s.Follows id events) :
    statuses id (s.applied events) ++ statuses id (run s events).updates =
      statuses id s.updates ++ statuses id (s.sent events) := by
  induction events generalizing s with
  | nil => exact (List.append_nil _).symm
  | cons e rest ih =>
    rw [applied, sent, run_cons, Update.statuses_append, Update.statuses_append, List.append_assoc,
      ih h.step, ← List.append_assoc, statuses_step h.followed, List.append_assoc]

theorem lastSeen_run (h : s.Follows id events) :
    (run s events).worker.lastSeen.get? id =
      (lastStatus id (s.sent events)).or (s.worker.lastSeen.get? id) := by
  induction events generalizing s with
  | nil => rfl
  | cons e rest ih =>
    rw [run_cons, ih h.step, lastSeen_step, if_neg h.followed.carriesOut_ne, sent,
      lastStatus_append, Option.or_assoc]

/-- What is known after a run is what the updates that are applied make of it. -/
theorem known_run (hnever : .unwatch id ∉ events) :
    (run s events).known id = (s.applied events).foldl (learn id) (s.known id) := by
  induction events generalizing s with
  | nil => rfl
  | cons e rest ih =>
    have hkept : e ≠ .unwatch id := fun heq => hnever (heq ▸ .head _)
    rw [run_cons, ih fun hmem => hnever (.tail _ hmem), known_step hkept, applied,
      List.foldl_append]

/-- In every run, for every pipeline that is never unwatched, the statuses that have been applied to
the cache, and then those that are queued, are exactly those that the worker has sent, in this
order. The last one that was applied is the confirmed status, and the last one that is queued, or
else the confirmed one, is the status that the worker remembers. -/
theorem statuses_are_delivered (config : TransportConfig) (life : Option Nat) (ids : List String)
    (events : List Event) (id : String) (hnever : .unwatch id ∉ events)
    (hnoted : id ∈ ids ∨ NotedFirst id events) :
    let s := run (start config life ids) events
    let sent := statuses id ((start config life ids).sent events)
    let applied := statuses id ((start config life ids).applied events)
    applied ++ statuses id s.updates = sent ∧ s.confirmed id = applied.getLast? ∧
      (statuses id s.updates).getLast?.or (s.confirmed id) = s.worker.lastSeen.get? id := by
  intro s sent applied
  have hfollows : (start config life ids).Follows id events :=
    follows_start config life ids hnever hnoted
  have hstatuses : applied ++ statuses id s.updates = sent := statuses_run hfollows
  have hconfirmed : s.confirmed id = applied.getLast? := by
    rw [confirmed_eq, known_run hnever, Update.foldl_learn_fst, Update.lastStatus_eq_getLast?]
    exact Option.or_none
  have hseen : s.worker.lastSeen.get? id = sent.getLast? := by
    rw [lastSeen_run hfollows, Update.lastStatus_eq_getLast?]
    exact Option.or_none
  refine ⟨hstatuses, hconfirmed, ?_⟩
  rw [hconfirmed, hseen, ← hstatuses, List.getLast?_append]

/-- A second pipeline is watched while the stream tells of the first one; then the stream is
refused, and checks take over. -/
def watchedLater : List Event :=
  let time : Timestamp := ⟨⟨2025, 3, 14, by decide⟩, 36000, 0, by decide⟩
  [.work .opened, .enlist "payments",
    .work (.event (.statusUpdate ⟨"orders", .running, none⟩ time)), .announce "payments", .obey,
    .work .refused, .work .roundDue, .work (.health (.ok .pausing)),
    .work (.health (.ok .created)), .applyNext, .applyNext, .applyNext, .work .roundDue,
    .work (.health (.ok .paused)), .work (.health (.ok .running))]

/-- Of the second pipeline one status has been applied then, and one is queued. -/
theorem watchedLater_delivered :
    let s₀ := start { maxStreamFailures := 1 } none ["orders"]
    let s := run s₀ watchedLater
    let sent := statuses "payments" (s₀.sent watchedLater)
    s.confirmed "payments" = some .created ∧ statuses "payments" s.updates = [.running] ∧
      sent = [.created, .running] ∧ s.worker.lastSeen.get? "payments" = some .running := by
  intro s₀ s sent
  obtain ⟨hstatuses, -, hseen⟩ := statuses_are_delivered { maxStreamFailures := 1 } none ["orders"]
    watchedLater "payments" (by simp [watchedLater]) (.inr (.inl rfl))
  have hconfirmed : s.confirmed "payments" = some .created := by decide
  have hqueued : statuses "payments" s.updates = [.running] := by decide
  refine ⟨hconfirmed, hqueued, hstatuses.symm.trans (by decide), ?_⟩
  rw [← hseen, hqueued]
  rfl

end Delivery

end StatusSync

end PipelineConsole
