import PipelineConsole.Proofs.Sync.Turns

/-!
# The budget of failed checks

While the worker polls, every pipeline has a budget of checks that may fail in a row. A pipeline
that has used up its budget is given up: it is reported once, with the error of its last check, and
is checked no more until a command about it gives it a new budget. Each pipeline has a budget of its
own, so that the checks of the others make no difference to it.

What has happened is given last first, as one looks back on it.

## Main definitions

* `Worker.failedChecks` — the checks of a pipeline that have failed in a row
* `Worker.Tallies` — what the worker knows of its checks

## Main results

* `Tallies.reacts` — every reaction keeps the tallies
* `Tallies.failed_mem_iff` — when a reaction gives a pipeline up
* `run_spent` — a pipeline that is given up is left alone
* `budget_is_exact` — all of this in every run, and to each pipeline its own budget
-/

namespace PipelineConsole.Worker

/-- How many checks of a pipeline have failed in a row, since the last one that succeeded and the
last command about the pipeline. Checks are made in polling only, so that they are counted from its
start. -/
def failedChecks (id : String) : List Incident → Nat
  | [] => 0
  | .told c :: past => if c.id = id then 0 else failedChecks id past
  | .checked other result :: past =>
    if other = id then countAfter (failedChecks id past) result else failedChecks id past
  | _ :: past => failedChecks id past

theorem failedChecks_checked {id x : String} {past : List Incident} (result : CheckResult) :
    failedChecks x (.checked id result :: past) =
      if x = id then countAfter (failedChecks id past) result else failedChecks x past := by
  rw [failedChecks]
  by_cases hx : x = id
  · subst hx
    rw [if_pos rfl]
  · rw [if_neg hx, if_neg (Ne.symm hx)]

/-- What is neither a command about a pipeline nor a check of it does not count. -/
theorem failedChecks_of_other {id : String} {past : List Incident} {i : Incident}
    (htold : ∀ c, i = .told c → c.id ≠ id) (hchecked : ∀ result, i ≠ .checked id result) :
    failedChecks id (i :: past) = failedChecks id past := by
  cases i with
  | told c => exact if_neg (htold c rfl)
  | checked other result => exact if_neg fun heq => hchecked result (by rw [heq])
  | _ => rfl

/-- What the worker knows of its checks after what has happened. -/
structure Tallies (config : TransportConfig) (past : List Incident) (w : Worker) : Prop where
  config_eq : w.config = config
  count : ∀ id, w.failures id = failedChecks id past
  spent : ∀ id, id ∈ w.exhausted ↔ failedChecks id past = max 1 config.maxPollFailures
  within : ∀ id, failedChecks id past ≤ max 1 config.maxPollFailures
  fresh : w.phase.streams = true → ∀ id, failedChecks id past = 0
  sorted : w.watched.Pairwise (· < ·)
  checks : ∀ id rest, w.phase = .fetching id rest →
    (id :: rest).Nodup ∧ ∀ x ∈ id :: rest, x ∉ w.exhausted

/-! ### A check -/

section Check

variable {w : Worker} {id i : String}

/-- Reports of statuses give nobody up. -/
theorem not_failed_observe {error : ErrorBody} (status : Status) :
    .failed i error ∉ (w.observe id status).2 := by
  unfold observe
  split <;> simp

theorem not_failed_observeAll {error : ErrorBody} (changes : List StatusChange) :
    .failed i error ∉ (w.observeAll changes).2 := by
  induction changes generalizing w with
  | nil => exact List.not_mem_nil
  | cons c rest ih =>
    rw [observeAll_cons]
    exact fun hmem => (List.mem_append.1 hmem).elim (not_failed_observe c.status) ih

end Check

/-! ### Reactions -/

section Tallies

variable {config : TransportConfig} {past : List Incident} {w w' : Worker} {i : Incident}
  {updates : List Update}

theorem eq_of_phase_fetchNext {ids rest : List String} {id : String}
    (h : (w.fetchNext ids).phase = .fetching id rest) : ids = id :: rest := by
  cases ids with
  | nil => cases h
  | cons x ids =>
    obtain ⟨rfl, rfl⟩ := Phase.fetching.inj h
    rfl

theorem tallies_start (config : TransportConfig) (ids : List String) :
    Tallies config [] (start config ids) where
  config_eq := rfl
  count _ := rfl
  spent id := by simp [start, Worker.attempt, failedChecks]; omega
  within _ := Nat.zero_le _
  fresh _ _ := rfl
  sorted := IdSet.pairwise_ofList ids
  checks _ rest h := absurd h (phase_attempt_ne _ rest)

/-- What concerns no check leaves the tallies alone. -/
theorem Tallies.keep (h : Tallies config past w)
    (hpast : ∀ id, failedChecks id (i :: past) = failedChecks id past)
    (hconfig : w'.config = w.config) (hcounts : w'.pollFailures = w.pollFailures)
    (hspent : w'.exhausted = w.exhausted) (hsorted : w'.watched.Pairwise (· < ·))
    (hstreams : w'.phase.streams = true → w.phase.streams = true)
    (hchecks : ∀ id rest, w'.phase = .fetching id rest →
      (id :: rest).Nodup ∧ ∀ x ∈ id :: rest, x ∉ w.exhausted) : Tallies config (i :: past) w' where
  config_eq := hconfig.trans h.config_eq
  count id := by rw [failures, hcounts, hpast, ← h.count, failures]
  spent id := by rw [hspent, hpast, h.spent]
  within id := hpast id ▸ h.within id
  fresh hs id := (hpast id).trans (h.fresh (hstreams hs) id)
  sorted := hsorted
  checks := hspent ▸ hchecks

/-- A command before polling finds nothing counted yet. -/
theorem Tallies.told (h : Tallies config past w) (hstreams : w.phase.streams = true) (c : Command)
    (id : String) : failedChecks id (.told c :: past) = failedChecks id past := by
  rw [failedChecks, h.fresh hstreams id, ite_self]

section Check

variable {id : String} {rest : List String} {result : CheckResult}

/-- One more failure of a pipeline that is checked uses up its budget, or is within it. -/
theorem Tallies.last_iff (h : Tallies config past w) (hphase : w.phase = .fetching id rest) :
    w.config.maxPollFailures ≤ w.failures id + 1 ↔
      failedChecks id past + 1 = max 1 config.maxPollFailures := by
  have hspared : failedChecks id past ≠ max 1 config.maxPollFailures := fun hspent =>
    (h.checks id rest hphase).2 id (.head _) ((h.spent id).2 hspent)
  have hwithin := h.within id
  rw [h.count, h.config_eq]
  omega

theorem Tallies.spent_checked (h : Tallies config past w) (hphase : w.phase = .fetching id rest)
    (result : CheckResult) (x : String) : x ∈ (w.checked id result).1.exhausted ↔
      failedChecks x (.checked id result :: past) = max 1 config.maxPollFailures := by
  have hspared := (h.checks id rest hphase).2 id (.head _)
  rw [failedChecks_checked]
  cases result with
  | ok status =>
    rw [exhausted_checked_ok]
    split
    · next hx =>
      rw [countAfter]
      exact iff_of_false (hx ▸ hspared) (by omega)
    · exact h.spent x
  | error error =>
    rw [exhausted_checked_error]
    simp only [h.last_iff hphase]
    by_cases hx : x = id
    · rw [if_pos hx, countAfter, hx]
      split
      · next heq => exact iff_of_true (.head _) heq
      · next hne => exact iff_of_false hspared hne
    · rw [if_neg hx, ← h.spent]
      split
      · exact ⟨fun hmem => (List.mem_cons.1 hmem).resolve_left hx, .tail _⟩
      · exact Iff.rfl

theorem Tallies.within_checked (h : Tallies config past w)
    (hphase : w.phase = .fetching id rest) (x : String) :
    failedChecks x (.checked id result :: past) ≤ max 1 config.maxPollFailures := by
  have hspared := (h.checks id rest hphase).2 id (.head _)
  have hwithin := h.within id
  rw [h.spent] at hspared
  rw [failedChecks_checked]
  split
  · cases result <;> simp only [countAfter] <;> omega
  · exact h.within x

/-- The checks that are left in a round are of other pipelines, which nothing has happened to. -/
theorem Tallies.checked (h : Tallies config past w) (hphase : w.phase = .fetching id rest) :
    Tallies config (.checked id result :: past) ((w.checked id result).1.fetchNext rest) := by
  obtain ⟨hnodup, hchecks⟩ := h.checks id rest hphase
  obtain ⟨hfresh, hrest⟩ := List.nodup_cons.1 hnodup
  have hspent := h.spent_checked hphase result
  obtain ⟨phase, hnext, hpolling⟩ := (w.checked id result).1.fetchNext_eq rest
  obtain ⟨seen, counts, spent, hchecked⟩ := w.checked_eq id result
  constructor
  case config_eq => rw [hnext, hchecked]; exact h.config_eq
  case count =>
    intro x
    rw [hnext, failedChecks_checked, ← h.count, ← h.count]
    exact failures_checked
  case spent => rw [hnext]; exact hspent
  case within => exact h.within_checked hphase
  case fresh =>
    rw [hnext]
    intro hs
    cases hpolling.symm.trans hs
  case sorted => rw [hnext, hchecked]; exact h.sorted
  case checks =>
    -- Whoever is given up now has just been checked, and is not among those that are left.
    intro x later hlater
    obtain rfl := eq_of_phase_fetchNext hlater
    refine ⟨hrest, fun y hy hexhausted => ?_⟩
    have hne : y ≠ id := fun heq => hfresh (heq ▸ hy)
    rw [hnext] at hexhausted
    rw [hspent y, failedChecks_checked, if_neg hne, ← h.spent] at hexhausted
    exact hchecks y (.tail _ hy) hexhausted

end Check

/-- A command gives its pipeline a new budget, and leaves those of the others alone. -/
theorem Tallies.refreshed (h : Tallies config past w) (hphase : w.phase = .polling) (c : Command) :
    Tallies config (.told c :: past) ((w.refresh c.id).apply c) := by
  have hsorted : ((w.refresh c.id).apply c).watched.Pairwise (· < ·) :=
    sorted_apply (w := w.refresh c.id) h.sorted c
  have hpolling : w.phase.streams = false := hphase ▸ rfl
  have hfailures (x : String) : (w.refresh c.id).failures x =
      failedChecks x (.told c :: past) := by
    rw [failures_refresh, failedChecks]
    by_cases hx : x = c.id
    · rw [if_pos hx, if_pos hx.symm]
    · rw [if_neg hx, if_neg (Ne.symm hx), h.count]
  obtain ⟨ids, seen, heq⟩ := (w.refresh c.id).apply_eq c
  rw [heq] at hsorted ⊢
  refine ⟨h.config_eq, hfailures, fun x => ?_, fun x => ?_, fun hs => ?_, hsorted, ?_⟩
  · refine mem_exhausted_refresh.trans ?_
    rw [failedChecks, h.spent]
    by_cases hx : c.id = x
    · rw [if_pos hx]
      exact iff_of_false (fun hmem => hmem.2 hx.symm) (by omega)
    · rw [if_neg hx]
      exact and_iff_left (Ne.symm hx)
  · rw [failedChecks]
    split
    · exact Nat.zero_le _
    · exact h.within x
  · cases hpolling.symm.trans hs
  · intro id rest hfetching
    cases hphase.symm.trans hfetching

/-- Every reaction keeps the tallies. -/
theorem Tallies.reacts (h : Tallies config past w) (hreacts : w.Reacts i w' updates) :
    Tallies config (i :: past) w' := by
  have hstreaming {phase : Phase} (hphase : w.phase = phase) (hs : phase.streams = true) :
      w.phase.streams = true := hphase ▸ hs
  have hattempt {v : Worker} (hpast : ∀ id, failedChecks id (i :: past) = failedChecks id past)
      (hstreams : w.phase.streams = true) (hconfig : v.config = w.config)
      (hcounts : v.pollFailures = w.pollFailures) (hspent : v.exhausted = w.exhausted)
      (hsorted : v.watched.Pairwise (· < ·)) : Tallies config (i :: past) v.attempt :=
    h.keep hpast hconfig hcounts hspent hsorted (fun _ => hstreams)
      fun _ rest hfetching => absurd hfetching (phase_attempt_ne v rest)
  have hfailed (hpast : ∀ id, failedChecks id (i :: past) = failedChecks id past)
      (hstreams : w.phase.streams = true) : Tallies config (i :: past) w.attemptFailed := by
    have hchecks (id : String) (rest : List String) : w.attemptFailed.phase ≠ .fetching id rest :=
      phase_attemptFailed_ne w rest
    have hsame : w.attemptFailed.config = w.config ∧
        w.attemptFailed.pollFailures = w.pollFailures ∧
        w.attemptFailed.exhausted = w.exhausted := by
      simp only [attemptFailed]
      split <;> exact ⟨rfl, rfl, rfl⟩
    exact h.keep hpast hsame.1 hsame.2.1 hsame.2.2 (watched_attemptFailed w ▸ h.sorted)
      (fun _ => hstreams) fun id rest hfetching => absurd hfetching (hchecks id rest)
  cases hreacts with
  | toldIdle hphase c | toldAnew hphase c _ =>
    have hstreams := hstreaming hphase rfl
    have hsorted := sorted_apply h.sorted c
    obtain ⟨ids, seen, heq⟩ := w.apply_eq c
    rw [heq] at hsorted ⊢
    exact hattempt (h.told hstreams c) hstreams rfl rfl rfl hsorted
  | opened hphase =>
    exact h.keep (fun _ => rfl) rfl rfl rfl h.sorted (fun _ => hstreaming hphase rfl)
      fun _ _ hfetching => Phase.noConfusion hfetching
  | refused hphase => exact hfailed (fun _ => rfl) (hstreaming hphase rfl)
  | toldReading hphase c _ | toldPausing hphase c =>
    have hstreams := hstreaming hphase rfl
    have hsorted := sorted_apply h.sorted c
    obtain ⟨ids, seen, heq⟩ := w.apply_eq c
    rw [heq] at hsorted ⊢
    exact h.keep (h.told hstreams c) rfl rfl rfl hsorted id h.checks
  | @event delivered hphase e =>
    obtain ⟨seen, heq⟩ := (w.hears delivered).observeAll_eq e.changes
    rw [heq]
    exact h.keep (fun _ => rfl) rfl rfl rfl h.sorted (fun _ => hstreaming hphase rfl)
      fun _ _ hfetching => Phase.noConfusion hfetching
  | broken hphase => exact hfailed (fun _ => rfl) (hstreaming hphase rfl)
  | ended hphase =>
    exact h.keep (fun _ => rfl) rfl rfl rfl h.sorted (fun _ => hstreaming hphase rfl)
      fun _ _ hfetching => Phase.noConfusion hfetching
  | endedEmpty hphase => exact hfailed (fun _ => rfl) (hstreaming hphase rfl)
  | rested hphase => exact hattempt (fun _ => rfl) (hstreaming hphase rfl) rfl rfl rfl h.sorted
  | toldPolling hphase c => exact h.refreshed hphase c
  | round hphase =>
    obtain ⟨phase, heq, hpolling⟩ := w.fetchNext_eq (w.watched.filter (· ∉ w.exhausted))
    refine h.keep (fun _ => rfl) ?_ ?_ ?_ ?_ (fun hs => ?_) fun id rest hfetching => ?_
    · rw [heq]
    · rw [heq]
    · rw [heq]
    · rw [watched_fetchNext]
      exact h.sorted
    · rw [heq] at hs
      cases hpolling.symm.trans hs
    · rw [← eq_of_phase_fetchNext hfetching]
      refine ⟨(IdSet.nodup_of_pairwise h.sorted).filter _, fun x hx => ?_⟩
      exact of_decide_eq_true (List.mem_filter.1 hx).2
  | checked hphase result => exact h.checked hphase

/-- A reaction gives a pipeline up just when a check of it fails that uses up its budget. -/
theorem Tallies.failed_mem_iff (h : Tallies config past w) (hreacts : w.Reacts i w' updates)
    {id : String} {error : ErrorBody} :
    .failed id error ∈ updates ↔ i = .checked id (.error error) ∧
      failedChecks id (i :: past) = max 1 config.maxPollFailures := by
  cases hreacts with
  | event _ e => exact iff_of_false (not_failed_observeAll e.changes) (by simp)
  | @checked other rest hphase result =>
    cases result with
    | ok status =>
      rw [checked_ok]
      exact iff_of_false (not_failed_observe status) (by simp)
    | error error' =>
      rw [updates_checked_error]
      simp only [h.last_iff hphase, Incident.checked.injEq, Except.error.injEq]
      constructor
      · intro hmem
        split at hmem
        · next hlast =>
          obtain ⟨rfl, rfl⟩ := Update.failed.inj (List.mem_singleton.1 hmem)
          rw [failedChecks_checked, if_pos rfl]
          exact ⟨⟨rfl, rfl⟩, hlast⟩
        · cases hmem
      · rintro ⟨⟨rfl, rfl⟩, hlast⟩
        rw [failedChecks_checked, if_pos rfl, countAfter] at hlast
        rw [if_pos hlast]
        exact List.mem_singleton_self _
  | _ => simp

/-- Nothing else is reported with it. -/
theorem updates_of_failed_mem (hreacts : w.Reacts i w' updates) {id : String} {error : ErrorBody}
    (hmem : .failed id error ∈ updates) : updates = [.failed id error] := by
  cases hreacts with
  | event _ e => exact absurd hmem (not_failed_observeAll e.changes)
  | checked _ result =>
    cases result with
    | ok status => exact absurd hmem (not_failed_observe status)
    | error error' =>
      rw [updates_checked_error] at hmem ⊢
      split at hmem
      · next hlast => rw [if_pos hlast, List.mem_singleton.1 hmem]
      · cases hmem
  | _ => cases hmem

/-- A pipeline that is given up is not checked, and stays so until a command about it. -/
theorem Tallies.stays_spent (h : Tallies config past w) (hreacts : w.Reacts i w' updates)
    {id : String} (hspent : id ∈ w.exhausted) (htold : ∀ c, i = .told c → c.id ≠ id) :
    id ∈ w'.exhausted ∧ ∀ error, .failed id error ∉ updates := by
  have hchecked (result : CheckResult) : i ≠ .checked id result := by
    rintro rfl
    cases hreacts with
    | checked hphase result => exact (h.checks _ _ hphase).2 id (.head _) hspent
  constructor
  · rw [(h.reacts hreacts).spent, failedChecks_of_other htold hchecked, ← h.spent]
    exact hspent
  · exact fun error hmem => hchecked _ ((h.failed_mem_iff hreacts).1 hmem).1

/-- Nobody asks for the status of a pipeline that is given up. -/
theorem Tallies.call_ne (h : Tallies config past w) {id : String} (hspent : id ∈ w.exhausted) :
    w.phase.call? ≠ some (.check id) := by
  intro hcall
  cases hphase : w.phase with
  | fetching other rest =>
    rw [hphase] at hcall
    obtain rfl := Tracking.Call.check.inj (Option.some.inj hcall)
    exact (h.checks other rest hphase).2 other (.head _) hspent
  | opening ids =>
    rw [hphase] at hcall
    cases hcall
  | _ =>
    rw [hphase] at hcall
    cases hcall

end Tallies

/-! ### Runs -/

section Run

variable {config : TransportConfig} {past : List Incident} {w : Worker} {id : String}

theorem tallies_run (h : Tallies config past w) (inputs : List Input) :
    Tallies config ((w.course inputs).reverse ++ past) (w.run inputs).1 :=
  run_induction h (fun htallies hreacts => htallies.reacts hreacts) inputs

/-- A pipeline that is given up is neither checked nor reported again until a command about it. -/
theorem run_spent (h : Tallies config past w) (hspent : id ∈ w.exhausted) {inputs : List Input}
    (htold : ∀ c, .told c ∈ w.course inputs → c.id ≠ id) :
    .check id ∉ w.calls inputs ∧ ∀ error, .failed id error ∉ (w.run inputs).2 := by
  induction inputs generalizing w past with
  | nil => exact ⟨List.not_mem_nil, fun _ => List.not_mem_nil⟩
  | cons input inputs ih =>
    rw [calls, run_cons]
    rw [course] at htold
    cases hinput : w.incident? input with
    | none =>
      rw [step_of_ignored hinput, call?_of_ignored hinput]
      rw [step_of_ignored hinput, hinput] at htold
      exact ih h hspent htold
    | some i =>
      rw [hinput] at htold
      have hreacts := reacts hinput
      have hnext := h.reacts hreacts
      obtain ⟨hstays, hnow⟩ := h.stays_spent hreacts hspent fun c heq =>
        htold c (heq ▸ List.mem_append_left _ (.head _))
      obtain ⟨hcalls, hlater⟩ := ih hnext hstays fun c hc => htold c (List.mem_append_right _ hc)
      constructor
      · rw [call?_of_taken hinput]
        intro hmem
        rcases List.mem_append.1 hmem with hmem | hmem
        · exact hnext.call_ne hstays (Option.mem_toList.1 hmem)
        · exact hcalls hmem
      · exact fun error hmem => (List.mem_append.1 hmem).elim (hnow error) (hlater error)

end Run

/-- A pipeline is given up just when a check of it fails that uses up its budget; it is reported
with the error of this check. Until a command about it, it is neither checked nor reported again.
A round checks the watched pipelines that have budget left. Polling is a series of turns, and what
it does for a pipeline depends on nothing but the commands about it and the answers to its
checks. -/
theorem budget_is_exact (config : TransportConfig) (ids : List String) (inputs : List Input) :
    let first := start config ids
    let w := (first.run inputs).1
    let past := (first.course inputs).reverse
    let bound := max 1 config.maxPollFailures
    (∀ input id error, .failed id error ∈ (w.step input).2 ↔
      w.incident? input = some (.checked id (.error error)) ∧
        failedChecks id (.checked id (.error error) :: past) = bound) ∧
    (∀ input id error, .failed id error ∈ (w.step input).2 →
      (w.step input).2 = [.failed id error] ∧
        ∀ more, (∀ c, .told c ∈ (w.step input).1.course more → c.id ≠ id) →
          .check id ∉ w.calls (input :: more) ∧
            ∀ error, .failed id error ∉ ((w.step input).1.run more).2) ∧
    (w.phase = .polling →
      (∀ answers, w.calls (roundInputs w.due answers) = w.due.map .check) ∧
      (∀ id, id ∈ w.due ↔ id ∈ w.watched ∧ failedChecks id past < bound) ∧
      (∀ more, (w.run more).1.phase = .polling → ∃ turns, w.Same more (w.turns turns)) ∧
      ∀ id (these those : List Turn),
        these.filterMap (Turn.own id) = those.filterMap (Turn.own id) →
          Alike id (w.run (w.turns these)).1 (w.run (w.turns those)).1 ∧
          (w.run (w.turns these)).2.filter (·.id = id) =
            (w.run (w.turns those)).2.filter (·.id = id) ∧
          (w.calls (w.turns these)).filter (· = .check id) =
            (w.calls (w.turns those)).filter (· = .check id)) := by
  intro first w past bound
  have htallies : Tallies config past w := by
    have h := tallies_run (tallies_start config ids) inputs
    rwa [List.append_nil] at h
  refine ⟨fun input id error => ?_, fun input id error hmem => ?_, fun hphase => ?_⟩
  · cases hinput : w.incident? input with
    | none =>
      rw [step_of_ignored hinput]
      exact iff_of_false List.not_mem_nil (by simp)
    | some i =>
      rw [htallies.failed_mem_iff (reacts hinput), Option.some.injEq]
      exact and_congr_right fun heq => heq ▸ .rfl
  · cases hinput : w.incident? input with
    | none =>
      rw [step_of_ignored hinput] at hmem
      cases hmem
    | some i =>
      have hreacts := reacts hinput
      have hnext := htallies.reacts hreacts
      have hspent := (hnext.spent id).2 ((htallies.failed_mem_iff hreacts).1 hmem).2
      refine ⟨updates_of_failed_mem hreacts hmem, fun more htold => ?_⟩
      obtain ⟨hcalls, hlater⟩ := run_spent hnext hspent htold
      refine ⟨fun hcall => ?_, hlater⟩
      rw [calls, call?_of_taken hinput] at hcall
      rcases List.mem_append.1 hcall with hcall | hcall
      · exact hnext.call_ne hspent (Option.mem_toList.1 hcall)
      · exact hcalls hcall
  · refine ⟨calls_round hphase, fun id => ?_, fun more => exists_turns hphase htallies.sorted,
      fun id these those => turns_own hphase htallies.sorted⟩
    rw [mem_due, htallies.spent]
    exact and_congr_right fun _ => (htallies.within id).lt_iff_ne.symm

/-- The checks of one pipeline fail until it is given up, it is watched anew, and they fail again;
those of another now and then. A round has just begun. -/
def spentAnew (error : ErrorBody) : List Input :=
  [.refused, .roundDue, .health (.error error), .health (.ok .running),
    .roundDue, .health (.error error), .health (.error error),
    .command (.watch "orders"),
    .roundDue, .health (.error error), .health (.ok .running), .roundDue]

/-- With the next failure it is given up again, and the round after that leaves it out. -/
theorem spentAnew_failed :
    let error : ErrorBody := ⟨503, "no answer"⟩
    let w := ((start { maxStreamFailures := 1, maxPollFailures := 2 } ["orders", "views"]).run
      (spentAnew error)).1
    let more := [.health (.error error), .roundDue, .health (.error error)]
    (w.step (.health (.error error))).2 = [.failed "orders" error] ∧
      w.calls (.health (.error error) :: more) = [.check "views", .check "views"] ∧
      .check "orders" ∉ w.calls (.health (.error error) :: more) := by
  intro error w more
  obtain ⟨hfailed, hspent, -⟩ := budget_is_exact { maxStreamFailures := 1, maxPollFailures := 2 }
    ["orders", "views"] (spentAnew error)
  have hphase : w.phase = .fetching "orders" ["views"] := by decide
  have hmem := (hfailed (.health (.error error)) "orders" error).2
    ⟨incident?_health hphase _, by decide⟩
  obtain ⟨honly, hleft⟩ := hspent _ _ _ hmem
  have htold (c : Command) (h : .told c ∈ (w.step (.health (.error error))).1.course more) :
      c.id ≠ "orders" := absurd (command_mem_of_told h) (by simp [more])
  exact ⟨honly, by decide, (hleft more htold).1⟩

end PipelineConsole.Worker
