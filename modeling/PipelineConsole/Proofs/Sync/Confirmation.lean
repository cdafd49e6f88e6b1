import PipelineConsole.Proofs.Sync.Run

/-!
# Confirmations and overrides

An assumed status is meant to be shown until the orchestrator confirms a status. But the worker
sends a status only if it is not the one that it sent last, and does not know what the cache shows.
A check that answers what was answered before the action therefore confirms nothing, and the
override stays.

What an entry will show once the queue has been applied is the `outlook` of its pipeline. Nothing
but a new override, a revert, a call to unwatch or another answer changes it.

## Main definitions

* `StatusSync.outlook` — what an entry holds once the queued updates have been applied
* `StatusSync.Disturbs`, `StatusSync.Undisturbed` — what may change the outlook, apart from a revert
* `StatusSync.ShowsConfirmed` — an entry shows a status without an override

## Main results

* `outlook_run` — the outlook stays as it is
* `check_confirms_iff` — when a check that succeeds leads to the status being shown
* `repeated_status_keeps_override` — a run in which it does not
-/

namespace PipelineConsole.StatusSync

open Update (lastStatus lastStatus_append lastStatus_eq_none_iff)

/-- The status of an entry that is confirmed, and its override. -/
def facts (s : StatusSync) (id : String) : Option Status × Option Override :=
  let entry := (s.cache.get? id).getD {}
  (entry.confirmed, entry.override)

/-- What an entry holds once the queued updates have been applied. -/
def outlook (s : StatusSync) (id : String) : Option Status × Option Override :=
  match lastStatus id s.updates with
  | some st => (some st, none)
  | none => s.facts id

/-- The entry of a pipeline shows a status, and no override. -/
def ShowsConfirmed (s : StatusSync) (id : String) (st : Status) : Prop :=
  ∃ entry, s.cache.get? id = some entry ∧ entry.override = none ∧ entry.effective = some st

/-- The event assumes another status of the pipeline, stops tracking it, or is another check of it
that succeeds. -/
def Disturbs (s : StatusSync) (id : String) : Event → Prop
  | .assume _ other _ | .assumeAction _ other _ | .unwatch other => other = id
  | .work (.health (.ok _)) => ∃ rest, s.worker.phase = .fetching id rest
  | _ => False

/-- No event of a run disturbs a pipeline. -/
def Undisturbed (s : StatusSync) (id : String) : List Event → Prop
  | [] => True
  | e :: rest => ¬ s.Disturbs id e ∧ (step s e).Undisturbed id rest

/-- How many updates a run takes from the queue, if there are as many. -/
def takes (events : List Event) : Nat := (events.map Event.takes).sum

/-- Whether an event reverts the override of a pipeline. -/
def Event.reverts (id : String) : Event → Bool
  | .revert other => other = id
  | _ => false

section Facts

variable {s s' : StatusSync} {id : String} {st : Status}

theorem showsConfirmed_iff : s.ShowsConfirmed id st ↔ s.facts id = (some st, none) := by
  unfold ShowsConfirmed facts
  cases h : s.cache.get? id with
  | none => simp
  | some entry =>
    simp only [Option.some.injEq, exists_eq_left', Option.getD_some, Prod.mk.injEq]
    constructor
    · rintro ⟨hnone, heff⟩
      rw [CacheEntry.effective, hnone] at heff
      exact ⟨heff, hnone⟩
    · rintro ⟨hconfirmed, hnone⟩
      rw [CacheEntry.effective, hnone]
      exact ⟨rfl, hconfirmed⟩

/-- Changing the entry of one pipeline matters to its facts only. -/
theorem facts_of_change {key : String} {f : CacheEntry → CacheEntry}
    (h : s'.cache = (s.cache.change key f).1) :
    s'.facts id =
      if id = key then
        ((f ((s.cache.get? key).getD {})).confirmed, (f ((s.cache.get? key).getD {})).override)
      else s.facts id := by
  rw [facts, facts, entry_of_change h]
  split <;> rfl

theorem facts_of_cache (h : s'.cache = s.cache) : s'.facts id = s.facts id := by
  rw [facts, facts, h]

end Facts

/-! ### The outlook stays -/

section Outlook

variable {s s' : StatusSync} {id : String} {e : Event} {events : List Event}

/-- The cache and the queue determine the outlook. -/
theorem outlook_of_cache (hcache : s'.cache = s.cache) (hupdates : s'.updates = s.updates) :
    s'.outlook id = s.outlook id := by
  rw [outlook, outlook, hupdates, facts_of_cache hcache]

/-- Updates that hold no status of a pipeline may be queued without change to its outlook. -/
theorem outlook_of_queued {more : List Update} (hcache : s'.cache = s.cache)
    (hupdates : s'.updates = s.updates ++ more) (hmore : lastStatus id more = none) :
    s'.outlook id = s.outlook id := by
  rw [outlook, outlook, hupdates, lastStatus_append, hmore, Option.none_or, facts_of_cache hcache]

/-- Changes of other entries leave the outlook alone. -/
theorem outlook_of_change {key : String} {f : CacheEntry → CacheEntry} (hne : id ≠ key)
    (hcache : s'.cache = (s.cache.change key f).1) (hupdates : s'.updates = s.updates) :
    s'.outlook id = s.outlook id := by
  rw [outlook, outlook, hupdates, facts_of_change hcache, if_neg hne]

theorem cache_assume (now : Nat) (st : Status) :
    (s.assume now id st).1.cache =
      (s.cache.change id fun e => { e with override := some ⟨st, now⟩ }).1 := rfl

theorem cache_revert :
    (s.revert id).1.cache = (s.cache.change id fun e => { e with override := none }).1 := rfl

/-- An update is a fact about its pipeline, if it tells a status. -/
theorem facts_apply (u : Update) (hwatched : id ∈ s.watched) :
    (s.apply u).1.facts id =
      match lastStatus id [u] with
      | some st => (some st, none)
      | none => s.facts id := by
  by_cases hkey : id = u.id
  · subst hkey
    rw [facts_of_change (cache_apply s hwatched), if_pos rfl]
    cases u with
    | status key st => simp [lastStatus, Update.id, Update.effect]
    | failed key error => rfl
  · have hkept : (s.apply u).1.facts id = s.facts id := by
      by_cases hmem : u.id ∈ s.watched
      · rw [facts_of_change (cache_apply s hmem), if_neg hkey]
      · rw [apply_of_not_mem s hmem]
    have hnone : lastStatus id [u] = none := by
      rw [lastStatus_eq_none_iff]
      rintro st hst
      obtain rfl := List.mem_singleton.1 hst
      exact hkey rfl
    rw [hkept, hnone]

/-- The outlook has the next update in it already. -/
theorem outlook_applyNext (hwatched : id ∈ s.watched) :
    s.applyNext.1.outlook id = s.outlook id := by
  unfold applyNext
  split
  · rfl
  · next u rest hqueue =>
    rw [outlook, outlook, updates_apply, hqueue, ← List.singleton_append (x := u),
      lastStatus_append]
    dsimp only
    -- A later status in the queue wins over the one that is applied now.
    cases lastStatus id rest with
    | some st => rfl
    | none => exact facts_apply (s := { s with updates := rest }) u hwatched

/-- A revert ends the override, whether it is there or is about to go. -/
theorem outlook_revert : (s.revert id).1.outlook id = ((s.outlook id).1, none) := by
  have hfacts : (s.revert id).1.facts id = ((s.facts id).1, none) := by
    rw [facts_of_change cache_revert, if_pos rfl]
    rfl
  have hupdates : (s.revert id).1.updates = s.updates := rfl
  rw [outlook, outlook, hfacts, hupdates]
  split <;> rfl

/-- An event that does not disturb a pipeline queues no status of it. -/
theorem queue_step (hrounds : s.worker.InRounds) (hcalm : ¬ s.Disturbs id e) :
    ∃ more, lastStatus id more = none ∧ (step s e).updates = s.updates.drop e.takes ++ more := by
  rcases worker_step s e with ⟨-, hupdates⟩ | ⟨htakes, input, hinput, -, hupdates⟩
  · exact ⟨[], rfl, by rw [hupdates, List.append_nil]⟩
  · refine ⟨_, Worker.lastStatus_step_of_inRounds hrounds ?_,
      by rw [hupdates, htakes, List.drop_zero]⟩
    rintro rest st hphase rfl
    rcases hinput with ⟨c, hc⟩ | rfl
    · cases hc
    · exact hcalm ⟨rest, hphase⟩

/-- An event that does not disturb a pipeline leaves its outlook alone, except that a revert ends
the override. -/
theorem outlook_step (hrounds : s.worker.InRounds) (hlife : s.life = none)
    (hwatched : id ∈ s.watched) (hcalm : ¬ s.Disturbs id e) :
    (step s e).outlook id =
      ((s.outlook id).1, if e.reverts id then none else (s.outlook id).2) := by
  cases e with
  | enlist other => exact outlook_of_cache rfl rfl
  | announce other => exact outlook_of_cache rfl rfl
  | unwatch other =>
    have hne : id ≠ other := fun heq => hcalm heq.symm
    have hfacts : (s.unwatch other).facts id = s.facts id := by
      rw [facts, facts, unwatch, Table.get?_erase, if_neg hne]
    have hupdates : (s.unwatch other).updates = s.updates := rfl
    show (s.unwatch other).outlook id = s.outlook id
    rw [outlook, outlook, hfacts, hupdates]
  | assume now other st =>
    exact outlook_of_change (fun heq => hcalm heq.symm) (cache_assume now st) rfl
  | assumeAction now other action =>
    exact outlook_of_change (fun heq => hcalm heq.symm) (cache_assume now action.optimistic) rfl
  | revert other =>
    show (s.revert other).1.outlook id = _
    by_cases hkey : other = id
    · subst hkey
      simpa [Event.reverts] using outlook_revert
    · have hne : id ≠ other := fun heq => hkey heq.symm
      rw [outlook_of_change hne cache_revert rfl]
      simp [Event.reverts, hkey]
  | obey =>
    have hcache : s.obey.cache = s.cache := by
      unfold obey
      split
      · rfl
      · split <;> rfl
    obtain ⟨more, hmore, hupdates⟩ := queue_step hrounds hcalm
    exact outlook_of_queued hcache hupdates hmore
  | work input =>
    have hcache : (step s (.work input)).cache = s.cache := by cases input <;> rfl
    obtain ⟨more, hmore, hupdates⟩ := queue_step hrounds hcalm
    exact outlook_of_queued hcache hupdates hmore
  | applyNext => exact outlook_applyNext hwatched
  | expire now =>
    show (s.expire now).1.outlook id = s.outlook id
    unfold expire
    rw [hlife]
    rfl

theorem watched_of_calm (hwatched : id ∈ s.watched) (hcalm : ¬ s.Disturbs id e) :
    id ∈ (step s e).watched := by
  refine watched_step hwatched ?_
  rintro rfl
  exact hcalm rfl

/-- A run that does not disturb a pipeline leaves its outlook alone, except that a revert ends the
override. -/
theorem outlook_run (hrounds : s.worker.InRounds) (hlife : s.life = none)
    (hwatched : id ∈ s.watched) (hcalm : s.Undisturbed id events) :
    (run s events).outlook id =
      ((s.outlook id).1, if events.any (Event.reverts id) then none else (s.outlook id).2) := by
  induction events generalizing s with
  | nil => rfl
  | cons e rest ih =>
    obtain ⟨he, hrest⟩ := hcalm
    rw [run_cons, ih (inRounds_step hrounds e) ((life_step s e).trans hlife)
      (watched_of_calm hwatched he) hrest, outlook_step hrounds hlife hwatched he, List.any_cons]
    cases e.reverts id <;> simp

/-- Once a run that does not disturb a pipeline has taken the statuses of it that were waiting, none
is waiting. -/
theorem lastStatus_run (hrounds : s.worker.InRounds) (hcalm : s.Undisturbed id events)
    (hwaiting : lastStatus id (s.updates.drop (takes events)) = none) :
    lastStatus id (run s events).updates = none := by
  induction events generalizing s with
  | nil => exact hwaiting
  | cons e rest ih =>
    obtain ⟨he, hrest⟩ := hcalm
    refine ih (inRounds_step hrounds e) hrest ?_
    obtain ⟨more, hmore, hupdates⟩ := queue_step hrounds he
    have htakes : takes (e :: rest) = e.takes + takes rest := List.sum_cons
    rw [htakes, ← List.drop_drop] at hwaiting
    rw [hupdates, List.drop_append, lastStatus_append, hwaiting,
      Update.lastStatus_drop_eq_none hmore, Option.none_or]

end Outlook

/-! ### A check that succeeds -/

section Check

variable {s : StatusSync} {id : String} {rest : List String} {st : Status}

/-- What an answer that is a success leaves to show: the answer, if it is news or if a status is
still waiting, and otherwise what was there. -/
theorem outlook_check (hchecks : s.worker.ChecksWatched) (hqueue : s.QueueAgrees)
    (hphase : s.worker.phase = .fetching id rest) :
    (step s (.work (.health (.ok st)))).outlook id =
      if s.worker.lastSeen.get? id ≠ some st ∨ lastStatus id s.updates ≠ none then (some st, none)
      else s.facts id := by
  have hmem : id ∈ s.worker.watched := hchecks id rest hphase id (.head _)
  have hsent : (s.worker.step (.health (.ok st))).2 =
      if s.worker.lastSeen.get? id = some st then [] else [.status id st] :=
    Worker.step_answer hphase hmem
  have hupdates : (step s (.work (.health (.ok st)))).updates =
      s.updates ++ (s.worker.step (.health (.ok st))).2 := rfl
  have hfacts : (step s (.work (.health (.ok st)))).facts id = s.facts id := rfl
  rw [outlook, hupdates, hsent, lastStatus_append, hfacts]
  by_cases hseen : s.worker.lastSeen.get? id = some st
  · rw [if_pos hseen]
    cases hwaits : lastStatus id s.updates with
    | none => simp [hseen]
    | some waiting =>
      -- A status that waits is the one that the worker remembers, which is the answer.
      obtain rfl := hqueue id st waiting hseen hwaits
      simp
  · rw [if_neg hseen]
    simp [hseen, lastStatus]

/-- A check of a watched pipeline answers a status, and then the updates that are queued by then are
applied, while no other status of the pipeline is assumed or answered. The status is then shown
without an override exactly when the worker had sent another status last, or a status of the
pipeline was waiting, or the status was there already and its override was not or is reverted. -/
theorem check_confirms_iff (config : TransportConfig) (ids : List String)
    (history after : List Event) (id : String) (rest : List String) (st : Status) :
    let before := run (start config none ids) history
    let answered := step before (.work (.health (.ok st)))
    before.worker.phase = .fetching id rest → id ∈ before.watched → answered.Undisturbed id after →
      answered.updates.length ≤ takes after →
      ((run answered after).ShowsConfirmed id st ↔
        before.worker.lastSeen.get? id ≠ some st ∨
          (∃ waiting, .status id waiting ∈ before.updates) ∨
          (before.facts id).1 = some st ∧
            ((before.facts id).2 = none ∨ after.any (Event.reverts id) = true)) := by
  intro before answered hphase hwatched hcalm happlied
  have hrounds : answered.worker.InRounds := inRounds_step (.inr ⟨id, rest, hphase⟩) _
  have hlife : answered.life = none := life_run (start config none ids) history
  have hout := outlook_run hrounds hlife (watched_step hwatched Event.noConfusion) hcalm
  have hdrained : lastStatus id (run answered after).updates = none := by
    refine lastStatus_run hrounds hcalm ?_
    rw [List.drop_eq_nil_of_le happlied]
    rfl
  have hcheck : answered.outlook id =
      if before.worker.lastSeen.get? id ≠ some st ∨ lastStatus id before.updates ≠ none
      then (some st, none) else before.facts id :=
    outlook_check (checksWatched_run (Worker.checksWatched_start config ids) history)
      (queueAgrees_run (queueAgrees_start config none ids) history) hphase
  have hfacts : (run answered after).outlook id = (run answered after).facts id := by
    rw [outlook, hdrained]
  have hwaiting : lastStatus id before.updates ≠ none ↔
      ∃ waiting, .status id waiting ∈ before.updates := by
    rw [ne_eq, lastStatus_eq_none_iff]
    exact Classical.not_forall_not
  rw [showsConfirmed_iff, ← hfacts, hout, hcheck, ← or_assoc, ← hwaiting]
  split
  · next hnews => simp [hnews]
  · next hold =>
    simp only [hold, false_or, Prod.mk.injEq]
    cases after.any (Event.reverts id) <;> simp

end Check

/-! ### An override that stays -/

/-- The stream is refused, and checks take over: a pipeline runs, and is asked to pause. -/
def pauseRequested : List Event :=
  [.work .refused, .work .roundDue, .work (.health (.ok .running)), .applyNext,
    .assume 500 "orders" .pausing]

/-- When the next check answers another status, this one is shown. -/
theorem new_status_ends_override :
    let before := run (start { maxStreamFailures := 1 } none ["orders"])
      (pauseRequested ++ [.work .roundDue])
    let answered := step before (.work (.health (.ok .paused)))
    before.facts "orders" = (some .running, some ⟨.pausing, 500⟩) ∧
      (run answered [.applyNext]).ShowsConfirmed "orders" .paused := by
  intro before answered
  have hshows := check_confirms_iff { maxStreamFailures := 1 } ["orders"]
    (pauseRequested ++ [.work .roundDue]) [.applyNext] "orders" [] .paused
    (by decide) (by decide) ⟨id, trivial⟩ (by decide)
  have hnews : before.worker.lastSeen.get? "orders" ≠ some .paused := by decide
  exact ⟨by decide, hshows.2 (.inl hnews)⟩

/-- When the next check, begun after the status was assumed, answers that the pipeline still runs,
the override stays although nothing is waiting any more. -/
theorem repeated_status_keeps_override :
    ¬ ∀ (config : TransportConfig) (ids : List String) (earlier between after : List Event)
        (now : Nat) (id : String) (assumed : Status) (rest : List String) (st : Status),
      let reported := run (start config none ids) (earlier ++ [.assume now id assumed])
      let before := run reported between
      let answered := step before (.work (.health (.ok st)))
      reported.worker.phase = .polling → before.worker.phase = .fetching id rest →
        id ∈ before.watched → answered.Undisturbed id after →
        answered.updates.length ≤ takes after → (run answered after).ShowsConfirmed id st := by
  intro h
  have hshows := h { maxStreamFailures := 1 } ["orders"]
    [.work .refused, .work .roundDue, .work (.health (.ok .running)), .applyNext]
    [.work .roundDue] [.applyNext] 500 "orders" .pausing [] .running
    (by decide) (by decide) (by decide) ⟨id, trivial⟩ (by decide)
  rw [showsConfirmed_iff] at hshows
  exact absurd hshows (by decide)

end PipelineConsole.StatusSync
