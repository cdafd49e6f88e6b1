import Mathlib.Data.List.Nodup
import PipelineConsole.Proofs.StatusStream.Rounds

/-!
# The stream tells the changes of each round

A round of checks finds a status or a failure for each pipeline. The stream tells a status if it
differs from the one found last, however many failures there have been in between, and a failure if
the round before has not met with the same one. A listener who takes in the changes one after
another knows the last status that was found for each pipeline.

The rounds so far are given last first.

## Main definitions

* `Feed.lastOk`, `Feed.lastFailure` — what the rounds so far have found for a pipeline
* `Feed.changesOf`, `Feed.faultsOf` — what a round adds to that
* `Feed.closing` — the event at the end of a round
* `Feed.learn` — what a listener knows who takes in some changes

## Main results

* `observe_results` — the feed tells what is new
* `learn_changesOf` — the changes of a round lead from what was known to what was found
* `events_are_deltas` — so it is on every tick of a stream
-/

namespace PipelineConsole

namespace Feed

open TickingFeed (results)

/-- The status known of a pipeline after one more result. -/
def knownAfter (known : Option Status) : CheckResult → Option Status
  | .ok status => some status
  | .error _ => known

/-- The failure that a result is. -/
def failure? : CheckResult → Option ErrorBody
  | .ok _ => none
  | .error error => some error

/-- The status of a pipeline that was found last. -/
def lastOk (id : String) : List (String → CheckResult) → Option Status
  | [] => none
  | answers :: past => knownAfter (lastOk id past) (answers id)

/-- The failure of a pipeline in the last round. -/
def lastFailure (id : String) (past : List (String → CheckResult)) : Option ErrorBody :=
  past.head?.bind fun answers => failure? (answers id)

/-- The change that a result is, after some status was known. -/
def change? (known : Option Status) (id : String) : CheckResult → Option StatusChange
  | .ok status => if known = some status then none else some ⟨id, status, known⟩
  | .error _ => none

/-- The failure that a result brings up, after some failure was told. -/
def fault? (told : Option ErrorBody) (id : String) : CheckResult → Option StreamFault
  | .ok _ => none
  | .error error =>
    if told = some error then none else some ⟨some id, error.code, error.message⟩

/-- The changes of a round. -/
def changesOf (ids : List String) (past : List (String → CheckResult))
    (answers : String → CheckResult) : List StatusChange :=
  ids.filterMap fun id => change? (lastOk id past) id (answers id)

/-- The failures that a round brings up. -/
def faultsOf (ids : List String) (past : List (String → CheckResult))
    (answers : String → CheckResult) : List StreamFault :=
  ids.filterMap fun id => fault? (lastFailure id past) id (answers id)

/-- The event at the end of a round: always a batch at the end of the first one, and later none, a
single change or a batch. -/
def closing (past : List (String → CheckResult)) (changes : List StatusChange)
    (time : Timestamp) : List StatusEvent :=
  match past, changes with
  | [], changes => [.batchUpdate changes time]
  | _ :: _, [] => []
  | _ :: _, [change] => [.statusUpdate change time]
  | _ :: _, changes => [.batchUpdate changes time]

/-- What a listener knows who takes in some changes. -/
def learn (known : String → Option Status) (changes : List StatusChange) :
    String → Option Status :=
  changes.foldl (fun known c => Function.update known c.id (some c.status)) known

/-! ### Results -/

section Result

variable {s : Seen} {id i : String} {ids : List String} {past : List (String → CheckResult)}
  {answers : String → CheckResult}

/-- The feed tells what is new in a result. -/
theorem observeOne_eq (s : Seen) (id : String) (result : CheckResult) :
    (s.observeOne id result).2 =
      ((change? (s.statuses.get? id) id result).toList,
        (fault? (s.errors.get? id) id result).toList) := by
  cases result with
  | ok status =>
    simp only [Seen.observeOne, change?, fault?]
    split <;> rfl
  | error error =>
    simp only [Seen.observeOne, change?, fault?]
    split <;> rfl

theorem statuses_observeOne (result : CheckResult) :
    (s.observeOne id result).1.statuses.get? i =
      if i = id then knownAfter (s.statuses.get? id) result else s.statuses.get? i := by
  cases result with
  | ok status => exact Table.get?_insert ..
  | error error =>
    rw [(observeOne_error s id error).2, knownAfter]
    split
    · next heq => rw [heq]
    · rfl

theorem errors_observeOne (result : CheckResult) :
    (s.observeOne id result).1.errors.get? i =
      if i = id then failure? result else s.errors.get? i := by
  cases result with
  | ok status => exact Table.get?_erase ..
  | error error =>
    simp only [Seen.observeOne, failure?]
    split
    · next htold =>
      split
      · next heq => rw [heq, htold]
      · rfl
    · exact Table.get?_insert ..

theorem knownAfter_knownAfter (known : Option Status) (result : CheckResult) :
    knownAfter (knownAfter known result) result = knownAfter known result := by
  cases result <;> rfl

/-- A pipeline that is checked twice in a round gives the same answer twice. -/
theorem statuses_observe (s : Seen) (ids : List String) (answers : String → CheckResult) :
    (s.observe (results ids answers)).1.statuses.get? i =
      if i ∈ ids then knownAfter (s.statuses.get? i) (answers i) else s.statuses.get? i := by
  induction ids generalizing s with
  | nil => rfl
  | cons id ids ih =>
    refine (ih (s.observeOne id (answers id)).1).trans ?_
    rw [statuses_observeOne]
    by_cases heq : i = id
    · simp [heq, knownAfter_knownAfter]
    · simp [heq]

theorem errors_observe (s : Seen) (ids : List String) (answers : String → CheckResult) :
    (s.observe (results ids answers)).1.errors.get? i =
      if i ∈ ids then failure? (answers i) else s.errors.get? i := by
  induction ids generalizing s with
  | nil => rfl
  | cons id ids ih =>
    refine (ih (s.observeOne id (answers id)).1).trans ?_
    rw [errors_observeOne]
    by_cases heq : i = id
    · simp [heq]
    · simp [heq]

theorem filterMap_cons_toList {α β : Type} (f : α → Option β) (a : α) (rest : List α) :
    (a :: rest).filterMap f = (f a).toList ++ rest.filterMap f := by
  rw [List.filterMap_cons]
  cases f a <;> rfl

theorem sublist_map_filterMap {α β γ : Type} {f : α → Option β} {g : β → γ} {h : α → γ}
    (hf : ∀ a b, f a = some b → g b = h a) (l : List α) :
    ((l.filterMap f).map g).Sublist (l.map h) := by
  induction l with
  | nil => exact .slnil
  | cons a l ih =>
    rw [List.filterMap_cons]
    cases ha : f a with
    | none => exact ih.cons _
    | some b =>
      rw [List.map_cons, List.map_cons, hf a b ha]
      exact ih.cons_cons _

/-- The feed tells what is new in a round. -/
theorem observe_results (hnodup : ids.Nodup) (s : Seen) (answers : String → CheckResult) :
    (s.observe (results ids answers)).2 =
      (ids.filterMap fun id => change? (s.statuses.get? id) id (answers id),
        ids.filterMap fun id => fault? (s.errors.get? id) id (answers id)) := by
  induction ids generalizing s with
  | nil => rfl
  | cons id ids ih =>
    obtain ⟨hnew, hrest⟩ := List.nodup_cons.1 hnodup
    have hobserve : (s.observe (results (id :: ids) answers)).2 =
        ((s.observeOne id (answers id)).2.1 ++
            ((s.observeOne id (answers id)).1.observe (results ids answers)).2.1,
          (s.observeOne id (answers id)).2.2 ++
            ((s.observeOne id (answers id)).1.observe (results ids answers)).2.2) := rfl
    -- The pipelines that follow are others, of which nothing new is known.
    have hsame {i : String} (hi : i ∈ ids) : i ≠ id := fun heq => hnew (heq ▸ hi)
    have hchanges : (ids.filterMap fun i =>
          change? ((s.observeOne id (answers id)).1.statuses.get? i) i (answers i)) =
        ids.filterMap fun i => change? (s.statuses.get? i) i (answers i) :=
      List.filterMap_congr fun i hi => by rw [statuses_observeOne, if_neg (hsame hi)]
    have hfaults : (ids.filterMap fun i =>
          fault? ((s.observeOne id (answers id)).1.errors.get? i) i (answers i)) =
        ids.filterMap fun i => fault? (s.errors.get? i) i (answers i) :=
      List.filterMap_congr fun i hi => by rw [errors_observeOne, if_neg (hsame hi)]
    rw [hobserve, ih hrest, observeOne_eq, hchanges, hfaults, filterMap_cons_toList,
      filterMap_cons_toList]

end Result

/-! ### Changes -/

section Changes

variable {known : String → Option Status} {ids : List String} {id i : String}
  {past : List (String → CheckResult)} {answers : String → CheckResult}

@[simp] theorem learn_nil (known : String → Option Status) : learn known [] = known := rfl

theorem learn_append (known : String → Option Status) (changes later : List StatusChange) :
    learn known (changes ++ later) = learn (learn known changes) later :=
  List.foldl_append

/-- A change leads from what was known to what was found. -/
theorem learn_change? (known : String → Option Status) (id : String) (result : CheckResult) :
    learn known (change? (known id) id result).toList =
      Function.update known id (knownAfter (known id) result) := by
  cases result with
  | ok status =>
    rw [change?, knownAfter]
    split
    · next heq => exact (heq ▸ Function.update_eq_self id known).symm
    · rfl
  | error error => exact (Function.update_eq_self id known).symm

/-- The changes of a round lead from what was known to what was found. -/
theorem learn_changesOf (hnodup : ids.Nodup) (hknown : ∀ id ∈ ids, known id = lastOk id past) :
    learn known (changesOf ids past answers) i =
      if i ∈ ids then lastOk i (answers :: past) else known i := by
  induction ids generalizing known with
  | nil => rfl
  | cons id ids ih =>
    obtain ⟨hnew, hrest⟩ := List.nodup_cons.1 hnodup
    have hchanges : changesOf (id :: ids) past answers =
        (change? (known id) id (answers id)).toList ++ changesOf ids past answers := by
      rw [changesOf, filterMap_cons_toList, ← hknown id (.head _)]
      rfl
    have hothers (j : String) (hj : j ∈ ids) :
        Function.update known id (knownAfter (known id) (answers id)) j = lastOk j past := by
      have hne : j ≠ id := fun heq => hnew (heq ▸ hj)
      rw [Function.update_of_ne hne]
      exact hknown j (.tail _ hj)
    rw [hchanges, learn_append, learn_change?, ih hrest hothers]
    by_cases heq : i = id
    · subst heq
      rw [if_neg hnew, if_pos (.head _), Function.update_self, lastOk, hknown i (.head _)]
    · simp only [Function.update_of_ne heq, List.mem_cons, heq, false_or]

theorem change?_eq_some_iff {result : CheckResult} {told : Option Status} {c : StatusChange} :
    change? told id result = some c ↔ c.id = id ∧ result = .ok c.status ∧
      told ≠ some c.status ∧ c.previous = told := by
  obtain ⟨other, status, previous⟩ := c
  cases result with
  | ok found =>
    rw [change?]
    split
    · next htold =>
      exact iff_of_false nofun fun ⟨_, hfound, hnew, _⟩ => hnew (Except.ok.inj hfound ▸ htold)
    · next htold =>
      constructor
      · rintro ⟨⟩
        exact ⟨rfl, rfl, htold, rfl⟩
      · rintro ⟨rfl, hfound, -, rfl⟩
        rw [Except.ok.inj hfound]
  | error error => exact iff_of_false nofun fun h => nomatch h.2.1

theorem fault?_eq_some_iff {result : CheckResult} {told : Option ErrorBody} {fault : StreamFault} :
    fault? told id result = some fault ↔ ∃ error, result = .error error ∧ told ≠ some error ∧
      fault = ⟨some id, error.code, error.message⟩ := by
  cases result with
  | ok found => exact iff_of_false nofun fun ⟨_, h, _⟩ => nomatch h
  | error error =>
    rw [fault?]
    split
    · next htold =>
      exact iff_of_false nofun fun ⟨_, hfound, hnew, _⟩ => hnew (Except.error.inj hfound ▸ htold)
    · next htold =>
      constructor
      · rintro ⟨⟩
        exact ⟨error, rfl, htold, rfl⟩
      · rintro ⟨_, hfound, -, rfl⟩
        rw [Except.error.inj hfound]

/-- A pipeline is among the changes of a round if its status differs from the last one, which the
change tells as well. -/
theorem mem_changesOf {c : StatusChange} :
    c ∈ changesOf ids past answers ↔ c.id ∈ ids ∧ answers c.id = .ok c.status ∧
      lastOk c.id past ≠ some c.status ∧ c.previous = lastOk c.id past := by
  rw [changesOf, List.mem_filterMap]
  simp only [change?_eq_some_iff]
  exact ⟨fun ⟨id, hid, heq, hrest⟩ => heq ▸ ⟨hid, hrest⟩, fun ⟨hid, hrest⟩ => ⟨_, hid, rfl, hrest⟩⟩

theorem lastFailure_eq_some_iff {error : ErrorBody} :
    lastFailure id past = some error ↔ ∃ before ∈ past.head?, before id = .error error := by
  rw [lastFailure, Option.bind_eq_some_iff]
  refine exists_congr fun before => and_congr_right fun _ => ?_
  cases before id with
  | ok status => exact iff_of_false nofun nofun
  | error other => simp [failure?]

/-- A failure is brought up unless the last round has met with the same. -/
theorem mem_faultsOf {fault : StreamFault} :
    fault ∈ faultsOf ids past answers ↔ ∃ id ∈ ids, ∃ error, answers id = .error error ∧
      (∀ before ∈ past.head?, before id ≠ .error error) ∧
      fault = ⟨some id, error.code, error.message⟩ := by
  rw [faultsOf, List.mem_filterMap]
  simp only [fault?_eq_some_iff, ne_eq, lastFailure_eq_some_iff, not_exists, not_and]

/-- No pipeline changes twice in a round, and the changes come in the order of the pipelines. -/
theorem sublist_changesOf : ((changesOf ids past answers).map (·.id)).Sublist ids := by
  have h : ((changesOf ids past answers).map (·.id)).Sublist (ids.map fun id => id) :=
    sublist_map_filterMap (fun id c hc => (change?_eq_some_iff.1 hc).1) ids
  rwa [List.map_id'] at h

theorem sublist_faultsOf : ((faultsOf ids past answers).map (·.id)).Sublist (ids.map some) := by
  refine sublist_map_filterMap (fun id fault hfault => ?_) ids
  obtain ⟨error, -, -, rfl⟩ := fault?_eq_some_iff.1 hfault
  rfl

theorem closing_eq (past : List (String → CheckResult)) (changes : List StatusChange)
    (time : Timestamp) : closing past changes time =
      if past.isEmpty then [.batchUpdate changes time]
      else (StatusEvent.ofChanges? changes time).toList := by
  match past, changes with
  | [], _ => rfl
  | _ :: _, [] => rfl
  | _ :: _, [_] => rfl
  | _ :: _, _ :: _ :: _ => rfl

end Changes

end Feed

namespace TickingFeed

open Feed (lastOk lastFailure changesOf faultsOf closing learn)

/-- The feed after some ticks. -/
def after (t : TickingFeed) (ticks : List Tick) : TickingFeed :=
  ticks.foldl (fun t tick => (t.tell tick).1) t

/-- What a feed knows after some rounds. -/
structure Knows (ids : List String) (past : List (String → CheckResult)) (t : TickingFeed) :
    Prop where
  ids_eq : t.ids = ids
  statuses : ∀ id ∈ ids, t.feed.seen.statuses.get? id = lastOk id past
  errors : ∀ id ∈ ids, t.feed.seen.errors.get? id = lastFailure id past
  started : t.feed.started = !past.isEmpty

section Ticks

variable {ids : List String} {past : List (String → CheckResult)} {t : TickingFeed}
  {answers : String → CheckResult} {clock : Nat → Timestamp}

theorem tells_append (t : TickingFeed) (ticks later : List Tick) :
    t.tells (ticks ++ later) = t.tells ticks ++ (t.after ticks).tells later := by
  induction ticks generalizing t with
  | nil => rfl
  | cons tick ticks ih => rw [List.cons_append, tells, tells, ih, List.append_assoc]; rfl

theorem Knows.observe (h : Knows ids past t) (hnodup : ids.Nodup) :
    (t.feed.seen.observe (results t.ids answers)).2 =
      (changesOf ids past answers, faultsOf ids past answers) := by
  have hchanges : (ids.filterMap fun id =>
        Feed.change? (t.feed.seen.statuses.get? id) id (answers id)) =
      changesOf ids past answers :=
    List.filterMap_congr fun id hid => by rw [h.statuses id hid]
  have hfaults : (ids.filterMap fun id =>
        Feed.fault? (t.feed.seen.errors.get? id) id (answers id)) = faultsOf ids past answers :=
    List.filterMap_congr fun id hid => by rw [h.errors id hid]
  rw [h.ids_eq, Feed.observe_results hnodup, hchanges, hfaults]

/-- The events of a round tell what is new in it. -/
theorem Knows.tell_round (h : Knows ids past t) (hnodup : ids.Nodup) :
    (t.tell (.round answers clock)).2 =
      (faultsOf ids past answers).mapIdx (fun n fault => .fault fault (clock n)) ++
        closing past (changesOf ids past answers) (clock (faultsOf ids past answers).length) := by
  let news := (t.feed.seen.observe (results t.ids answers)).2
  have hround : (t.tell (.round answers clock)).2 =
      news.2.mapIdx (fun n fault => .fault fault (clock n)) ++
        if t.feed.started then (StatusEvent.ofChanges? news.1 (clock news.2.length)).toList
        else [.batchUpdate news.1 (clock news.2.length)] := rfl
  have hnews : news = (changesOf ids past answers, faultsOf ids past answers) := h.observe hnodup
  rw [hround, hnews, h.started, Feed.closing_eq]
  cases past.isEmpty <;> rfl

theorem Knows.round (h : Knows ids past t) :
    Knows ids (answers :: past) (t.tell (.round answers clock)).1 where
  ids_eq := h.ids_eq
  statuses id hid := by
    refine (Feed.statuses_observe ..).trans ?_
    rw [h.ids_eq, if_pos hid, h.statuses id hid]
    rfl
  errors id hid := by
    refine (Feed.errors_observe ..).trans ?_
    rw [h.ids_eq, if_pos hid]
    rfl
  started := rfl

/-- A listener of the stream knows the last status that was found for each pipeline. -/
theorem Knows.learn_tells (h : Knows ids past t) (hnodup : ids.Nodup)
    {known : String → Option Status}
    (hknown : ∀ id, known id = if id ∈ ids then lastOk id past else none) (ticks : List Tick) :
    Knows ids ((Tick.rounds ticks).reverse ++ past) (t.after ticks) ∧
      ∀ id, learn known ((t.tells ticks).flatMap StatusEvent.changes) id =
        if id ∈ ids then lastOk id ((Tick.rounds ticks).reverse ++ past) else none := by
  induction ticks generalizing t past known with
  | nil => exact ⟨h, hknown⟩
  | cons tick ticks ih =>
    rw [tells, List.flatMap_append, Feed.learn_append]
    cases tick with
    | round answers clock =>
      have hchanges : (t.tell (.round answers clock)).2.flatMap StatusEvent.changes =
          changesOf ids past answers := by
        refine (Feed.changes_round ..).trans ?_
        rw [h.observe hnodup]
      have hrounds : Tick.rounds (.round answers clock :: ticks) =
          answers :: Tick.rounds ticks := rfl
      rw [hchanges, hrounds, List.reverse_cons, List.append_assoc]
      refine ih h.round fun id => ?_
      rw [Feed.learn_changesOf hnodup fun id hid => (hknown id).trans (if_pos hid)]
      split
      · rfl
      · next hid => exact (hknown id).trans (if_neg hid)
    | heartbeat now time =>
      have hrounds : Tick.rounds (.heartbeat now time :: ticks) = Tick.rounds ticks := rfl
      have hchanges : (t.tell (.heartbeat now time)).2.flatMap StatusEvent.changes = [] := rfl
      rw [hchanges, hrounds, Feed.learn_nil]
      have hnext : Knows ids past (t.tell (.heartbeat now time)).1 :=
        ⟨h.ids_eq, h.statuses, h.errors, h.started⟩
      exact ih hnext hknown

theorem knows_start (ids : List String) (pollPeriod heartbeatPeriod now : Nat) :
    Knows ids [] (start ids pollPeriod heartbeatPeriod now) where
  ids_eq := rfl
  statuses _ _ := rfl
  errors _ _ := rfl
  started := rfl

end Ticks

/-- Whatever the ticks so far, a heartbeat is told as such. A round tells first its failures and
then its changes: the first round in one batch, and every later one in no event, a single change or
a batch. A pipeline is among the changes just if a status was found that differs from the one found
last, which is told as well, and among the failures just if there is one that the last round has not
met with. Every event is told with what the clock shows at its turn. Who takes in all changes so far
knows the status found last for every pipeline. -/
theorem events_are_deltas {ids : List String} (hnodup : ids.Nodup)
    (pollPeriod heartbeatPeriod now : Nat) (done : List Tick) :
    let first := start ids pollPeriod heartbeatPeriod now
    let past := (Tick.rounds done).reverse
    (∀ now time, first.tells (done ++ [.heartbeat now time]) =
        first.tells done ++ [.heartbeat time]) ∧
      (∀ answers clock, ∃ (faults : List StreamFault) (changes : List StatusChange),
        first.tells (done ++ [.round answers clock]) =
            first.tells done ++ (faults.mapIdx (fun n fault => .fault fault (clock n)) ++
              closing past changes (clock faults.length)) ∧
          (changes.map (·.id)).Sublist ids ∧
          (∀ c, c ∈ changes ↔ c.id ∈ ids ∧ answers c.id = .ok c.status ∧
            lastOk c.id past ≠ some c.status ∧ c.previous = lastOk c.id past) ∧
          (faults.map (·.id)).Sublist (ids.map some) ∧
          ∀ fault, fault ∈ faults ↔ ∃ id ∈ ids, ∃ error, answers id = .error error ∧
            (∀ before ∈ past.head?, before id ≠ .error error) ∧
            fault = ⟨some id, error.code, error.message⟩) ∧
      ∀ id ∈ ids, learn (fun _ => none) ((first.tells done).flatMap StatusEvent.changes) id =
        lastOk id past := by
  intro first past
  have hnothing (id : String) : (none : Option Status) = if id ∈ ids then lastOk id [] else none :=
    (ite_self _).symm
  obtain ⟨hknows, hlearned⟩ :=
    (knows_start ids pollPeriod heartbeatPeriod now).learn_tells hnodup hnothing done
  rw [List.append_nil] at hknows hlearned
  refine ⟨fun now time => ?_, fun answers clock => ?_, fun id hid => ?_⟩
  · rw [tells_append]
    rfl
  · refine ⟨faultsOf ids past answers, changesOf ids past answers, ?_, Feed.sublist_changesOf,
      fun _ => Feed.mem_changesOf, Feed.sublist_faultsOf, fun _ => Feed.mem_faultsOf⟩
    rw [tells_append, tells, hknows.tell_round hnodup, tells, List.append_nil]
  · rw [hlearned, if_pos hid]

/-- A first round in which one of two pipelines fails, a heartbeat, a round in which the other one
does, and a round like the first. -/
def flapping : List Tick :=
  let clock (n : Nat) : Timestamp := ⟨⟨2026, 1, 19, by decide⟩, 50400, n % 1000, by omega⟩
  let down : String → CheckResult := fun id =>
    if id = "orders" then .error ⟨503, "no answer"⟩ else .ok .running
  let up : String → CheckResult := fun id =>
    if id = "orders" then .ok .paused else .error ⟨503, "no answer"⟩
  [.round down clock, .heartbeat 15000 (clock 2), .round up fun n => clock (n + 3),
    .round down fun n => clock (n + 5)]

/-- The failure is told anew in the last round, and the status that is there again is not. -/
theorem flapping_told :
    let first := start ["orders", "views"] 2000 15000 0
    let clock (n : Nat) : Timestamp := ⟨⟨2026, 1, 19, by decide⟩, 50400, n % 1000, by omega⟩
    first.tells flapping =
        [.fault ⟨some "orders", 503, "no answer"⟩ (clock 0),
          .batchUpdate [⟨"views", .running, none⟩] (clock 1),
          .heartbeat (clock 2),
          .fault ⟨some "views", 503, "no answer"⟩ (clock 3),
          .statusUpdate ⟨"orders", .paused, none⟩ (clock 4),
          .fault ⟨some "orders", 503, "no answer"⟩ (clock 5)] ∧
      ["orders", "views"].Nodup ∧
      learn (fun _ => none) ((first.tells flapping).flatMap StatusEvent.changes) "orders" =
        some .paused := by
  intro first clock
  have hnodup : ["orders", "views"].Nodup := by decide
  exact ⟨by decide, hnodup, (events_are_deltas hnodup 2000 15000 0 flapping).2.2 "orders" (.head _)⟩

end TickingFeed

end PipelineConsole
