import PipelineConsole.Proofs.Sync.Course

/-!
# Turning from the stream to polling

An attempt to follow the stream fails if the stream is refused, if it fails, or if it is over before
any event. Whether the worker still follows the stream depends on nothing but the attempts that have
failed since the last event: commands, pauses and times at which nothing is watched make no
difference, and neither do attempts that a command cuts short.

What has happened is given last first here, as one looks back on it.

## Main definitions

* `Worker.fails` — whether an attempt fails with what happens now
* `Worker.failedAttempts` — the attempts that have failed since the last event
* `Worker.Counts` — what the worker knows of its attempts

## Main results

* `Counts.reacts` — every reaction keeps the count, and when one changes the mode
* `run_of_polling` — a worker that polls goes on polling
* `falls_back_iff` — in every run, when the worker turns to polling, and what it asks for
-/

namespace PipelineConsole.Worker

/-- Whether an event has come in since the stream was opened. -/
def delivered : List Incident → Bool
  | .event _ :: _ => true
  | [] | .opened :: _ => false
  | _ :: past => delivered past

/-- Whether an attempt fails with what happens now, after what has happened before. -/
def fails (past : List Incident) : Incident → Bool
  | .refused | .broken => true
  | .ended => !delivered past
  | _ => false

/-- How many attempts have failed since the last event. -/
def failedAttempts : List Incident → Nat
  | [] | .event _ :: _ => 0
  | i :: past => failedAttempts past + if fails past i then 1 else 0

theorem failedAttempts_ended (past : List Incident) :
    failedAttempts (.ended :: past) = failedAttempts past + if delivered past then 0 else 1 := by
  cases h : delivered past <;> simp [failedAttempts, fails, h]

/-- What the worker knows of its attempts after what has happened. -/
structure Counts (config : TransportConfig) (past : List Incident) (w : Worker) : Prop where
  config_eq : w.config = config
  mode : w.mode = if w.phase.streams then .streaming else .polling
  delivered : ∀ d, w.phase = .reading d → d = delivered past
  /-- An event makes up for the attempts before it. -/
  heard : w.phase = .reading true → failedAttempts past = 0
  count : w.phase.streams = true → w.streamFailures = failedAttempts past
  below : w.phase.streams = true → failedAttempts past < max 1 config.maxStreamFailures

section Counts

variable {config : TransportConfig} {past : List Incident} {w w' : Worker} {i : Incident}
  {updates : List Update}

theorem phase_attempt_ne_reading (w : Worker) (d : Bool) : w.attempt.phase ≠ .reading d := by
  unfold attempt
  split <;> exact Phase.noConfusion

theorem counts_start (config : TransportConfig) (ids : List String) :
    Counts config [] (start config ids) where
  config_eq := rfl
  mode := by
    rw [start, streams_attempt]
    rfl
  delivered d h := absurd h (phase_attempt_ne_reading _ d)
  heard _ := rfl
  count _ := rfl
  below _ := Nat.lt_of_lt_of_le Nat.one_pos (Nat.le_max_left ..)

/-- Whatever is no failure and no event leaves the count as it is. -/
theorem Counts.keep (h : Counts config past w) (hstreams : w.phase.streams = true)
    (hpast : failedAttempts (i :: past) = failedAttempts past) (hconfig : w'.config = w.config)
    (hmode : w'.mode = w.mode) (hcount : w'.streamFailures = w.streamFailures)
    (hphase : w'.phase.streams = true)
    (hdelivered : ∀ d, w'.phase = .reading d → d = Worker.delivered (i :: past))
    (hheard : w'.phase = .reading true → w.phase = .reading true) :
    Counts config (i :: past) w' where
  config_eq := hconfig.trans h.config_eq
  mode := by rw [hmode, h.mode, hstreams, hphase]
  delivered := hdelivered
  heard hread := hpast.trans (h.heard (hheard hread))
  count _ := by rw [hcount, h.count hstreams, hpast]
  below _ := hpast ▸ h.below hstreams

/-- A new attempt leaves the count as it is. -/
theorem Counts.attempt (h : Counts config past w) (hstreams : w.phase.streams = true)
    (hpast : failedAttempts (i :: past) = failedAttempts past) (hconfig : w'.config = w.config)
    (hmode : w'.mode = w.mode) (hcount : w'.streamFailures = w.streamFailures) :
    Counts config (i :: past) w'.attempt :=
  h.keep hstreams hpast hconfig hmode hcount (streams_attempt w')
    (fun d hd => absurd hd (phase_attempt_ne_reading w' d))
    fun hd => absurd hd (phase_attempt_ne_reading w' true)

/-- Once the worker polls, nothing is counted any more. -/
theorem Counts.poll (h : Counts config past w) (hstreams : w.phase.streams = false)
    (hconfig : w'.config = w.config) (hmode : w'.mode = w.mode)
    (hphase : w'.phase.streams = false) : Counts config (i :: past) w' where
  config_eq := hconfig.trans h.config_eq
  mode := by rw [hmode, h.mode, hstreams, hphase]
  delivered d hd := by rw [hd] at hphase; cases hphase
  heard hd := by rw [hd] at hphase; cases hphase
  count hs := by rw [hphase] at hs; cases hs
  below hs := by rw [hphase] at hs; cases hs

/-- A failed attempt is counted, and the worker turns to polling when there are too many. -/
theorem Counts.fail (h : Counts config past w) (hstreams : w.phase.streams = true)
    (hfails : failedAttempts (i :: past) = failedAttempts past + 1) :
    Counts config (i :: past) w.attemptFailed ∧
      (w.attemptFailed.mode ≠ w.mode ↔
        failedAttempts (i :: past) = max 1 config.maxStreamFailures) := by
  obtain rfl := h.config_eq
  have hmode : w.mode = .streaming := by rw [h.mode, hstreams]; rfl
  have hcount := h.count hstreams
  have hbelow := h.below hstreams
  by_cases hlast : w.config.maxStreamFailures ≤ w.streamFailures + 1
  · rw [attemptFailed_of_le w hlast]
    have hphase : ({ w with streamFailures := w.streamFailures + 1 } :
        Worker).turnToPolling.phase.streams = false := by
      unfold turnToPolling
      dsimp only
      split <;> rfl
    refine ⟨⟨rfl, ?_, fun d hd => ?_, fun hd => ?_, fun hs => ?_, fun hs => ?_⟩, ?_⟩
    · rw [hphase]; rfl
    · rw [hd] at hphase; cases hphase
    · rw [hd] at hphase; cases hphase
    · rw [hphase] at hs; cases hs
    · rw [hphase] at hs; cases hs
    · exact iff_of_true (by simp [turnToPolling, hmode]) (by omega)
  · have hfew := Nat.not_le.1 hlast
    rw [attemptFailed_of_lt w hfew]
    refine ⟨⟨rfl, hmode, fun d hd => Phase.noConfusion hd, fun hd => Phase.noConfusion hd,
      fun _ => ?_, fun _ => ?_⟩, ?_⟩
    · rw [hfails, ← hcount]
    · omega
    · exact iff_of_false (fun hne => hne rfl) (by omega)

/-- Every reaction keeps the count, and it changes the mode just when an attempt fails that is the
last of those that may. -/
theorem Counts.reacts (h : Counts config past w) (hreacts : w.Reacts i w' updates) :
    Counts config (i :: past) w' ∧
      (w'.mode ≠ w.mode ↔ fails past i = true ∧
        failedAttempts (i :: past) = max 1 config.maxStreamFailures) := by
  have hcalm {v : Worker} (hkeeps : Counts config (i :: past) v) (hmode : v.mode = w.mode)
      (hcalm : fails past i = false) : Counts config (i :: past) v ∧
        (v.mode ≠ w.mode ↔ fails past i = true ∧
          failedAttempts (i :: past) = max 1 config.maxStreamFailures) :=
    ⟨hkeeps, iff_of_false (fun hne => hne hmode) fun hfails => by simp [hcalm] at hfails⟩
  have hfailed (hstreams : w.phase.streams = true) (hfails : fails past i = true)
      (hone : failedAttempts (i :: past) = failedAttempts past + 1) :
      Counts config (i :: past) w.attemptFailed ∧
        (w.attemptFailed.mode ≠ w.mode ↔ fails past i = true ∧
          failedAttempts (i :: past) = max 1 config.maxStreamFailures) := by
    obtain ⟨hkeeps, hmode⟩ := h.fail hstreams hone
    exact ⟨hkeeps, hmode.trans (and_iff_right hfails).symm⟩
  have hstreaming {phase : Phase} (hphase : w.phase = phase) (hs : phase.streams = true) :
      w.phase.streams = true := hphase ▸ hs
  cases hreacts with
  | toldIdle hphase c | toldAnew hphase c _ =>
    obtain ⟨ids, seen, heq⟩ := w.apply_eq c
    rw [heq]
    exact hcalm (h.attempt (hstreaming hphase rfl) rfl rfl rfl rfl) rfl rfl
  | opened hphase =>
    refine hcalm (h.keep (hstreaming hphase rfl) rfl rfl rfl rfl rfl ?_ ?_) rfl rfl
    · exact fun d hd => (Phase.reading.inj hd).symm
    · exact fun hd => absurd (Phase.reading.inj hd) Bool.false_ne_true
  | refused hphase => exact hfailed (hstreaming hphase rfl) rfl rfl
  | toldReading hphase c _ | toldPausing hphase c =>
    obtain ⟨ids, seen, heq⟩ := w.apply_eq c
    rw [heq]
    have hstreams := hstreaming hphase rfl
    exact hcalm (h.keep hstreams rfl rfl rfl rfl hstreams h.delivered id) rfl rfl
  | @event delivered hphase e =>
    obtain ⟨seen, heq⟩ := (w.hears delivered).observeAll_eq e.changes
    rw [heq]
    have hstreams := hstreaming hphase rfl
    refine hcalm ⟨h.config_eq, ?_, fun d hd => (Phase.reading.inj hd).symm, fun _ => rfl,
      fun _ => ?_, fun _ => ?_⟩ rfl rfl
    · exact h.mode.trans (by rw [hstreams]; rfl)
    · cases delivered with
      | false => rfl
      | true => exact (h.count hstreams).trans (h.heard hphase)
    · exact Nat.lt_of_lt_of_le Nat.one_pos (Nat.le_max_left ..)
  | broken hphase => exact hfailed (hstreaming hphase rfl) rfl rfl
  | ended hphase =>
    have hdelivered := h.delivered true hphase
    have hspared : fails past .ended = false := by simp [fails, ← hdelivered]
    refine hcalm (h.keep (hstreaming hphase rfl) ?_ rfl rfl rfl rfl ?_ ?_) rfl hspared
    · rw [failedAttempts_ended, ← hdelivered]
      rfl
    · exact fun d hd => Phase.noConfusion hd
    · exact fun hd => Phase.noConfusion hd
  | endedEmpty hphase =>
    have hdelivered := h.delivered false hphase
    refine hfailed (hstreaming hphase rfl) (by simp [fails, ← hdelivered]) ?_
    rw [failedAttempts_ended, ← hdelivered]
    rfl
  | rested hphase => exact hcalm (h.attempt (hstreaming hphase rfl) rfl rfl rfl rfl) rfl rfl
  | toldPolling hphase c =>
    obtain ⟨ids, seen, heq⟩ := (w.refresh c.id).apply_eq c
    rw [heq]
    have hpolls : w.phase.streams = false := hphase ▸ rfl
    exact hcalm (h.poll hpolls rfl rfl hpolls) rfl rfl
  | round hphase =>
    obtain ⟨phase, heq, hpolling⟩ := w.fetchNext_eq (w.watched.filter (· ∉ w.exhausted))
    rw [heq]
    exact hcalm (h.poll (hphase ▸ rfl) rfl rfl hpolling) rfl rfl
  | @checked id rest hphase result =>
    obtain ⟨phase, heq, hpolling⟩ := (w.checked id result).1.fetchNext_eq rest
    obtain ⟨seen, counts, spent, hchecked⟩ := w.checked_eq id result
    rw [heq, hchecked]
    exact hcalm (h.poll (hphase ▸ rfl) rfl rfl hpolling) rfl rfl

/-- A worker that streams asks for streams, and one that polls asks for statuses. -/
theorem Counts.call (h : Counts config past w) {call : Tracking.Call}
    (hcall : w.phase.call? = some call) :
    (w.mode = .streaming → ∃ ids, call = .openStream ids) ∧
      (w.mode = .polling → ∃ id, call = .check id) := by
  have hmode := h.mode
  cases hphase : w.phase with
  | opening ids =>
    rw [hphase] at hcall hmode
    refine ⟨fun _ => ⟨ids, (Option.some.inj hcall).symm⟩, fun hpolls => ?_⟩
    cases hpolls.symm.trans hmode
  | fetching id rest =>
    rw [hphase] at hcall hmode
    refine ⟨fun hstreams => ?_, fun _ => ⟨id, (Option.some.inj hcall).symm⟩⟩
    cases hstreams.symm.trans hmode
  | _ =>
    rw [hphase] at hcall
    cases hcall

/-- Once the worker polls there are no attempts that could fail, so that it goes on polling. -/
theorem Counts.stays (h : Counts config past w) (hpolls : w.mode = .polling)
    (hreacts : w.Reacts i w' updates) : w'.mode = .polling := by
  have hphase : w.phase.streams = false := by
    have hmode := h.mode
    cases hstreams : w.phase.streams with
    | false => rfl
    | true =>
      rw [hpolls, hstreams] at hmode
      cases hmode
  refine Decidable.byContradiction fun hchanged => ?_
  have hfails := ((h.reacts hreacts).2.1 (hpolls ▸ hchanged)).1
  cases hreacts with
  | refused hopening => rw [hopening] at hphase; cases hphase
  | broken hreading | ended hreading | endedEmpty hreading =>
    rw [hreading] at hphase
    cases hphase
  | _ => cases hfails

end Counts

/-! ### Runs -/

section Run

variable {config : TransportConfig} {past : List Incident} {w : Worker}

theorem counts_run (h : Counts config past w) (inputs : List Input) :
    Counts config ((w.course inputs).reverse ++ past) (w.run inputs).1 :=
  run_induction h (fun hcounts hreacts => (hcounts.reacts hreacts).1) inputs

/-- A worker that polls goes on polling and asks for nothing but statuses. -/
theorem run_of_polling (h : Counts config past w) (hpolls : w.mode = .polling)
    (inputs : List Input) :
    (w.run inputs).1.mode = .polling ∧ ∀ call ∈ w.calls inputs, ∃ id, call = .check id := by
  induction inputs generalizing w past with
  | nil => exact ⟨hpolls, nofun⟩
  | cons input inputs ih =>
    rw [run_cons, calls]
    cases hinput : w.incident? input with
    | none =>
      rw [step_of_ignored hinput, call?_of_ignored hinput]
      exact ih h hpolls
    | some i =>
      have hreacts := reacts hinput
      have hnext := (h.reacts hreacts).1
      have hstays := h.stays hpolls hreacts
      obtain ⟨hlast, hlater⟩ := ih hnext hstays
      refine ⟨hlast, fun call hcall => ?_⟩
      rcases List.mem_append.1 hcall with hnow | hcall
      · rw [call?_of_taken hinput, Option.mem_toList] at hnow
        exact (hnext.call hnow).2 hstays
      · exact hlater call hcall

/-- A worker that streams has been streaming all along, and has asked for nothing but streams. -/
theorem calls_of_streaming (h : Counts config past w) {inputs : List Input}
    (hstreams : (w.run inputs).1.mode = .streaming) :
    ∀ call ∈ w.calls inputs, ∃ ids, call = .openStream ids := by
  induction inputs generalizing w past with
  | nil => exact nofun
  | cons input inputs ih =>
    rw [run_cons] at hstreams
    rw [calls]
    cases hinput : w.incident? input with
    | none =>
      rw [step_of_ignored hinput] at hstreams ⊢
      rw [call?_of_ignored hinput]
      exact ih h hstreams
    | some i =>
      have hnext := (h.reacts (reacts hinput)).1
      have hnow : (w.step input).1.mode = .streaming := by
        cases hmode : (w.step input).1.mode with
        | streaming => rfl
        | polling => cases hstreams.symm.trans (run_of_polling hnext hmode inputs).1
      intro call hcall
      rcases List.mem_append.1 hcall with hcall | hcall
      · rw [call?_of_taken hinput, Option.mem_toList] at hcall
        exact (hnext.call hcall).1 hnow
      · exact ih hnext hstreams call hcall

end Run

/-- A worker starts with the stream, and asks for nothing but streams while it is with the stream.
It turns to polling at once when an attempt fails that is, counted from the last event, the last of
those that may, and at no other moment. From then on it polls and asks for nothing but statuses. -/
theorem falls_back_iff (config : TransportConfig) (ids : List String) (inputs : List Input) :
    let first := start config ids
    let w := (first.run inputs).1
    let past := (first.course inputs).reverse
    first.mode = .streaming ∧
      (∀ input, (w.step input).1.mode ≠ w.mode ↔ ∃ i, w.incident? input = some i ∧
        fails past i = true ∧ failedAttempts (i :: past) = max 1 config.maxStreamFailures) ∧
      (w.mode = .streaming →
        ∀ call ∈ first.phase.call?.toList ++ first.calls inputs, ∃ ids, call = .openStream ids) ∧
      (w.mode = .polling → ∀ more, (w.run more).1.mode = .polling ∧
        ∀ call ∈ w.calls more, ∃ id, call = .check id) := by
  intro first w past
  have hfirst := counts_start config ids
  have hcounts : Counts config past w := by
    have h := counts_run hfirst inputs
    rwa [List.append_nil] at h
  refine ⟨rfl, fun input => ?_, fun hstreams call hcall => ?_, run_of_polling hcounts⟩
  · cases hinput : w.incident? input with
    | none =>
      rw [step_of_ignored hinput]
      exact iff_of_false (fun hne => hne rfl) (by simp)
    | some i =>
      rw [(hcounts.reacts (reacts hinput)).2]
      exact ⟨fun hlast => ⟨i, rfl, hlast⟩, fun ⟨_, heq, hlast⟩ => Option.some.inj heq ▸ hlast⟩
  · rcases List.mem_append.1 hcall with hcall | hcall
    · exact (hfirst.call (Option.mem_toList.1 hcall)).1 rfl
    · exact calls_of_streaming hfirst hstreams call hcall

/-- A refusal before the last event, a failure after it, an idle time, and an attempt that a command
cuts short; the stream that is open at the end has said nothing. -/
def mixedAttempts : List Input :=
  let time : Timestamp := ⟨⟨2025, 11, 3, by decide⟩, 32400, 0, by decide⟩
  [.refused, .command (.unwatch "orders"), .pauseOver, .command (.watch "orders"), .opened,
    .event (.heartbeat time), .streamFault, .pauseOver, .opened, .command (.watch "views"), .opened]

/-- If it ends now, that is the second failure in a row, and the last that may be. -/
theorem mixedAttempts_turn :
    let first := start { maxStreamFailures := 2 } ["orders"]
    let w := (first.run mixedAttempts).1
    w.mode = .streaming ∧ (w.step .streamEnd).1.mode ≠ w.mode ∧
      first.calls mixedAttempts = [.openStream ["orders"], .openStream ["orders"],
        .openStream ["orders", "views"]] ∧
      ∀ call ∈ first.phase.call?.toList ++ first.calls mixedAttempts,
        ∃ ids, call = .openStream ids := by
  obtain ⟨-, hturns, hstreams, -⟩ :=
    falls_back_iff { maxStreamFailures := 2 } ["orders"] mixedAttempts
  refine ⟨by decide, (hturns .streamEnd).2 ⟨.ended, ?_, by decide, by decide⟩, by decide,
    hstreams (by decide)⟩
  have hphase : ((start { maxStreamFailures := 2 } ["orders"]).run mixedAttempts).1.phase =
      .reading false := by decide
  rw [incident?, hphase]
  rfl

end PipelineConsole.Worker
