import PipelineConsole.Proofs.Sync.Course
import PipelineConsole.Proofs.Sync.IdSet
import PipelineConsole.Proofs.Sync.Membership

/-!
# Reports of changes only

Statuses come to the worker on the events of its streams and as answers to its checks, of watched
pipelines or of others, and again and again the same. It reports those of the watched pipelines that
differ from what it has reported last, and it forgets what it has reported of a pipeline when it is
told to watch it no more. Where a status comes from makes no difference.

The log of a run lists the commands and the statuses that have come in, with the mark of those that
were reported. As one looks back on it, the log is given last first.

## Main definitions

* `Worker.Entry`, `Worker.log` — the log of a run
* `Worker.watches`, `Worker.lastReported` — what the log says of a pipeline
* `Worker.Lawful` — the statuses that are reported are the changes of watched pipelines
* `Worker.Remembers` — the worker knows what the log says
* `Worker.Logged` — how a worker gets on with the log

## Main results

* `Remembers.reacts` — every reaction is lawful, and the worker remembers it
* `reports_are_changes` — in every run the changes of watched pipelines are reported and no more
-/

namespace PipelineConsole

/-- The pipeline and the status that an update reports. -/
def Update.report? : Update → Option (String × Status)
  | .status id st => some (id, st)
  | .failed .. => none

namespace Worker

/-- An entry of the log. -/
inductive Entry where
  /-- A command is carried out. -/
  | told (c : Command)
  /-- A status comes in; whether it is reported. -/
  | found (id : String) (status : Status) (reported : Bool)
  deriving DecidableEq, Repr

namespace Entry

/-- The pipeline and the status that are reported. -/
def report? : Entry → Option (String × Status)
  | .found id status true => some (id, status)
  | _ => none

/-- The entry without its mark. -/
def news : Entry → Command ⊕ String × Status
  | .told c => .inl c
  | .found id status _ => .inr (id, status)

end Entry

/-- The commands and the statuses that an incident brings. -/
def Incident.news : Incident → List (Command ⊕ String × Status)
  | .told c => [.inl c]
  | .event e => e.changes.map fun c => .inr (c.id, c.status)
  | .checked id (.ok status) => [.inr (id, status)]
  | _ => []

/-- Whether the worker reports a status that comes in. -/
def reports (w : Worker) (id : String) (status : Status) : Bool :=
  !(w.observe id status).2.isEmpty

/-- The entries for the changes of an event. -/
def looks : Worker → List StatusChange → List Entry
  | _, [] => []
  | w, c :: rest =>
    .found c.id c.status (w.reports c.id c.status) :: looks (w.observe c.id c.status).1 rest

/-- The entries for an incident. -/
def entries (w : Worker) : Incident → List Entry
  | .told c => [.told c]
  | .event e => w.looks e.changes
  | .checked id (.ok status) => w.looks [{ id, status }]
  | _ => []

/-- The log of a run. -/
def log : Worker → List Input → List Entry
  | _, [] => []
  | w, input :: inputs =>
    (w.incident? input).toList.flatMap w.entries ++ log (w.step input).1 inputs

/-- Whether a pipeline is watched, by the commands that have been carried out since some ids were
watched. -/
def watches (ids : List String) (id : String) : List Entry → Bool
  | [] => decide (id ∈ ids)
  | .told c :: past => StatusSync.toldBy id (watches ids id past) c
  | .found .. :: past => watches ids id past

/-- The status of a pipeline that was reported last, since the last command to watch it no more. -/
def lastReported (id : String) : List Entry → Option Status
  | [] => none
  | .told c :: past => if c = .unwatch id then none else lastReported id past
  | .found other status reported :: past =>
    if reported = true ∧ other = id then some status else lastReported id past

/-- A status is reported just if its pipeline is watched and the status reported last is another. -/
def Entry.Lawful (ids : List String) (past : List Entry) : Entry → Prop
  | .told _ => True
  | .found id status reported =>
    reported = true ↔ watches ids id past = true ∧ lastReported id past ≠ some status

/-- All entries are lawful, one after another. -/
def Lawful (ids : List String) : List Entry → List Entry → Prop
  | _, [] => True
  | past, e :: later => e.Lawful ids past ∧ Lawful ids (e :: past) later

/-- The worker knows what the log says. -/
structure Remembers (ids : List String) (past : List Entry) (w : Worker) : Prop where
  watched : ∀ id, decide (id ∈ w.watched) = watches ids id past
  lastSeen : ∀ id, w.lastSeen.get? id = lastReported id past

/-- A worker gets from what has been logged to some entries more, on which it sends updates. -/
structure Logged (ids : List String) (past entries : List Entry) (w : Worker)
    (updates : List Update) : Prop where
  lawful : Lawful ids past entries
  remembers : Remembers ids (entries.reverse ++ past) w
  reports : updates.filterMap Update.report? = entries.filterMap Entry.report?

/-! ### The log -/

section Log

variable {ids : List String} {past entries later before after : List Entry} {id : String}
  {status : Status} {reported : Bool}

theorem lawful_append :
    Lawful ids past (entries ++ later) ↔
      Lawful ids past entries ∧ Lawful ids (entries.reverse ++ past) later := by
  induction entries generalizing past with
  | nil => exact (and_iff_right trivial).symm
  | cons e entries ih =>
    rw [List.cons_append, Lawful, Lawful, ih, and_assoc, List.reverse_cons, List.append_assoc]
    rfl

/-- Each entry of a lawful log is lawful after those before it. -/
theorem Lawful.found (h : Lawful ids [] (before ++ .found id status reported :: after)) :
    reported = true ↔
      watches ids id before.reverse = true ∧ lastReported id before.reverse ≠ some status := by
  have hentry := (lawful_append.1 h).2.1
  rwa [List.append_nil] at hentry

/-- A status is the one reported last until the next report, or until it is forgotten. -/
theorem lastReported_append (hforget : .told (.unwatch id) ∉ later)
    (hreport : ∀ status, .found id status true ∉ later) :
    lastReported id (later ++ past) = lastReported id past := by
  induction later with
  | nil => rfl
  | cons e later ih =>
    have hlater := ih (fun hmem => hforget (.tail _ hmem)) fun st hmem => hreport st (.tail _ hmem)
    cases e with
    | told c =>
      have hne : c ≠ .unwatch id := fun heq => hforget (heq ▸ .head _)
      exact (if_neg hne).trans hlater
    | found other st reported =>
      refine (if_neg fun hnew => ?_).trans hlater
      obtain ⟨rfl, rfl⟩ := hnew
      exact hreport st (.head _)

end Log

/-! ### Reactions -/

section Reactions

variable {ids : List String} {past entries later : List Entry} {w w' v : Worker} {i : Incident}
  {updates more : List Update}

theorem reports_eq_true_iff {id : String} {status : Status} :
    w.reports id status = true ↔ id ∈ w.watched ∧ w.lastSeen.get? id ≠ some status := by
  unfold reports observe
  split
  · next h => exact iff_of_false nofun fun hnew => h.elim (· hnew.1) hnew.2
  · next h =>
    obtain ⟨hid, hne⟩ := not_or.1 h
    exact iff_of_true rfl ⟨not_not.1 hid, hne⟩

/-- The status that was reported last, after one more has come in. -/
theorem get?_lastSeen_observe_eq (id other : String) (status : Status) :
    (w.observe other status).1.lastSeen.get? id =
      if w.reports other status = true ∧ other = id then some status
      else w.lastSeen.get? id := by
  unfold reports observe
  split
  · exact (if_neg fun hnew => nomatch hnew.1).symm
  · refine (Table.get?_insert ..).trans ?_
    simp [eq_comm]

/-- Workers that report alike write the same log. -/
theorem Agree.looks (h : Agree w v) (changes : List StatusChange) :
    w.looks changes = v.looks changes := by
  induction changes generalizing w v with
  | nil => rfl
  | cons c rest ih =>
    obtain ⟨hnext, hupdates⟩ := h.observe c.id c.status
    rw [Worker.looks, Worker.looks, reports, reports, hupdates, ih hnext]

theorem Remembers.of_agree (h : Remembers ids past w) (hagree : Agree w' w) :
    Remembers ids past w' :=
  ⟨hagree.watched ▸ h.watched, hagree.lastSeen ▸ h.lastSeen⟩

theorem Logged.of_agree (h : Logged ids past entries w updates) (hagree : Agree w' w) :
    Logged ids past entries w' updates :=
  ⟨h.lawful, h.remembers.of_agree hagree, h.reports⟩

theorem Logged.append (h : Logged ids past entries w updates)
    (h' : Logged ids (entries.reverse ++ past) later w' more) :
    Logged ids past (entries ++ later) w' (updates ++ more) where
  lawful := lawful_append.2 ⟨h.lawful, h'.lawful⟩
  remembers := by
    rw [List.reverse_append, List.append_assoc]
    exact h'.remembers
  reports := by rw [List.filterMap_append, List.filterMap_append, h.reports, h'.reports]

/-- Nothing is logged while nothing comes in. -/
theorem Remembers.quiet (h : Remembers ids past w) : Logged ids past [] w [] := ⟨trivial, h, rfl⟩

theorem Remembers.observe (h : Remembers ids past w) (id : String) (status : Status) :
    Logged ids past [.found id status (w.reports id status)] (w.observe id status).1
      (w.observe id status).2 where
  lawful := by
    refine ⟨?_, trivial⟩
    rw [Entry.Lawful, reports_eq_true_iff, ← h.watched, ← h.lastSeen, decide_eq_true_iff]
  remembers := by
    refine ⟨fun i => ?_, fun i => ?_⟩
    · rw [watched_observe, h.watched]
      rfl
    · rw [get?_lastSeen_observe_eq, h.lastSeen]
      rfl
  reports := by
    unfold reports Worker.observe
    split <;> rfl

theorem Remembers.looks (h : Remembers ids past w) (changes : List StatusChange) :
    Logged ids past (w.looks changes) (w.observeAll changes).1 (w.observeAll changes).2 := by
  induction changes generalizing past w with
  | nil => exact h.quiet
  | cons c rest ih =>
    have hnow := h.observe c.id c.status
    rw [observeAll_cons]
    exact hnow.append (ih hnow.remembers)

/-- A command is remembered, and one to watch a pipeline no more forgets what was reported of it. -/
theorem Remembers.apply (h : Remembers ids past w) (c : Command) :
    Logged ids past [.told c] (w.apply c) [] where
  lawful := ⟨trivial, trivial⟩
  remembers := by
    refine ⟨fun id => ?_, fun id => ?_⟩
    · rw [StatusSync.mem_watched_apply, h.watched]
      rfl
    · show (w.apply c).lastSeen.get? id = if c = .unwatch id then none else lastReported id past
      rw [← h.lastSeen]
      cases c with
      | watch other => exact (if_neg nofun).symm
      | unwatch other =>
        refine (Table.get?_erase ..).trans ?_
        simp only [Command.unwatch.injEq, eq_comm]
  reports := rfl

/-- Every reaction is lawful, and the worker remembers it. -/
theorem Remembers.reacts (h : Remembers ids past w) (hreacts : w.Reacts i w' updates) :
    Logged ids past (w.entries i) w' updates := by
  cases hreacts with
  | toldIdle _ c | toldAnew _ c _ | toldReading _ c _ | toldPausing _ c =>
    exact (h.apply c).of_agree ⟨rfl, rfl⟩
  | toldPolling _ c => exact (h.apply c).of_agree (by cases c <;> exact ⟨rfl, rfl⟩)
  | opened _ | ended _ | rested _ => exact h.quiet.of_agree ⟨rfl, rfl⟩
  | refused _ | broken _ | endedEmpty _ =>
    exact h.quiet.of_agree ⟨watched_attemptFailed w, lastSeen_attemptFailed w⟩
  | round _ => exact h.quiet.of_agree ⟨watched_fetchNext .., lastSeen_fetchNext ..⟩
  | @event delivered _ e =>
    have hears : Agree (w.hears delivered) w := ⟨rfl, rfl⟩
    have hlooks := (h.of_agree hears).looks e.changes
    rwa [hears.looks] at hlooks
  | @checked id rest _ result =>
    cases result with
    | ok status =>
      have hsame : Agree { w with pollFailures := w.pollFailures.erase id } w := ⟨rfl, rfl⟩
      have hlooks := (h.of_agree hsame).looks [{ id, status }]
      rw [hsame.looks, observeAll_singleton] at hlooks
      exact hlooks.of_agree ⟨watched_fetchNext .., lastSeen_fetchNext ..⟩
    | error error =>
      -- A check that fails may give the pipeline up, which is no report of a status.
      have hsame : Agree ((w.checked id (.error error)).1.fetchNext rest) w :=
        ⟨(watched_fetchNext ..).trans (watched_checked ..),
          (lastSeen_fetchNext ..).trans (checked_error w id id error).2⟩
      refine ⟨trivial, h.of_agree hsame, ?_⟩
      simp only [checked]
      split <;> rfl

end Reactions

/-! ### Runs -/

section Run

variable {ids : List String} {past : List Entry} {w : Worker}

theorem news_looks (w : Worker) (changes : List StatusChange) :
    (w.looks changes).map Entry.news = changes.map fun c => .inr (c.id, c.status) := by
  induction changes generalizing w with
  | nil => rfl
  | cons c rest ih => exact congrArg _ (ih _)

theorem news_entries (w : Worker) (i : Incident) : (w.entries i).map Entry.news = i.news := by
  cases i with
  | event e => exact news_looks w e.changes
  | checked id result => cases result <;> rfl
  | _ => rfl

/-- The log has all commands and statuses of a run, in their order. -/
theorem news_log (w : Worker) (inputs : List Input) :
    (w.log inputs).map Entry.news = (w.course inputs).flatMap Incident.news := by
  induction inputs generalizing w with
  | nil => rfl
  | cons input inputs ih =>
    rw [log, course, List.map_append, ih, List.flatMap_append]
    cases w.incident? input with
    | none => rfl
    | some i => simp [news_entries]

theorem remembers_start (config : TransportConfig) (ids : List String) :
    Remembers ids [] (start config ids) where
  watched _ := decide_eq_decide.2 IdSet.mem_ofList
  lastSeen _ := rfl

theorem Remembers.run (h : Remembers ids past w) (inputs : List Input) :
    Logged ids past (w.log inputs) (w.run inputs).1 (w.run inputs).2 := by
  induction inputs generalizing past w with
  | nil => exact h.quiet
  | cons input inputs ih =>
    rw [log, run_cons]
    cases hinput : w.incident? input with
    | none =>
      rw [step_of_ignored hinput]
      exact ih h
    | some i =>
      have hnow := h.reacts (Worker.reacts hinput)
      rw [Option.toList_some, List.flatMap_singleton]
      exact hnow.append (ih hnow.remembers)

end Run

/-- The log of a run has the commands and the statuses that have come in, and the worker sends the
statuses that are marked in it. It watches what the log says, and a status is marked just if its
pipeline is watched by then and the status reported last since it was forgotten is another. Between
two equal reports in a row the pipeline has been forgotten. -/
theorem reports_are_changes (config : TransportConfig) (ids : List String)
    (inputs : List Input) :
    let first := start config ids
    let log := first.log inputs
    log.map Entry.news = (first.course inputs).flatMap Incident.news ∧
      (first.run inputs).2.filterMap Update.report? = log.filterMap Entry.report? ∧
      (∀ id, id ∈ (first.run inputs).1.watched ↔ watches ids id log.reverse = true) ∧
      (∀ before id status reported after, log = before ++ .found id status reported :: after →
        (reported = true ↔ watches ids id before.reverse = true ∧
          lastReported id before.reverse ≠ some status)) ∧
      ∀ before id status between next after,
        log = before ++ .found id status true :: (between ++ .found id next true :: after) →
          (∀ other, .found id other true ∉ between) → .told (.unwatch id) ∉ between →
            next ≠ status := by
  intro first log
  obtain ⟨hlawful, hlast, hupdates⟩ : Logged ids [] log (first.run inputs).1 _ :=
    (remembers_start config ids).run inputs
  have hmarked (before : List Entry) (id : String) (status : Status) (reported : Bool)
      (after : List Entry) (hlog : log = before ++ .found id status reported :: after) :=
    Lawful.found (hlog ▸ hlawful)
  refine ⟨news_log first inputs, hupdates, fun id => ?_, hmarked, ?_⟩
  · have hwatched := hlast.watched id
    rw [List.append_nil] at hwatched
    rw [← hwatched, decide_eq_true_iff]
  · intro before id status between next after hlog hreport hforget
    have hnext := hmarked (before ++ .found id status true :: between) id next true after
      (by rw [hlog, List.append_assoc, List.cons_append])
    rw [List.reverse_append, List.reverse_cons, List.append_assoc] at hnext
    have hlast := (hnext.1 rfl).2
    rw [lastReported_append (by simpa using hforget) (by simpa using hreport)] at hlast
    intro heq
    exact hlast (heq ▸ if_pos ⟨rfl, rfl⟩)

/-- A batch that tells of a pipeline that nobody asked for; the same status again on the same
stream, on the next one, and as an answer to a check; and once more after the pipeline was
forgotten. -/
def sameAgain : List Input :=
  let time : Timestamp := ⟨⟨2025, 12, 5, by decide⟩, 41400, 0, by decide⟩
  let same : StatusEvent := .statusUpdate ⟨"orders", .running, none⟩ time
  [.opened,
    .event (.batchUpdate [⟨"orders", .running, none⟩, ⟨"views", .running, none⟩] time),
    .event same, .streamEnd, .pauseOver, .opened, .event same, .streamFault,
    .roundDue, .health (.ok .running),
    .command (.unwatch "orders"), .command (.watch "orders"), .roundDue, .health (.ok .running)]

theorem sameAgain_reports :
    let first := start { maxStreamFailures := 1 } ["orders"]
    first.log sameAgain =
        [.found "orders" .running true, .found "views" .running false,
          .found "orders" .running false, .found "orders" .running false,
          .found "orders" .running false, .told (.unwatch "orders"), .told (.watch "orders"),
          .found "orders" .running true] ∧
      (first.run sameAgain).2.filterMap Update.report? =
        [("orders", .running), ("orders", .running)] := by
  intro first
  refine ⟨by decide, ?_⟩
  rw [(reports_are_changes { maxStreamFailures := 1 } ["orders"] sameAgain).2.1]
  decide

end Worker

end PipelineConsole
