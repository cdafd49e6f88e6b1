import PipelineConsole.Proofs.Sync.Calls

/-!
# What the cache remembers

The cache holds no history, only what is left of it. What is left can be told from the history
alone, by looking back from its end: the confirmed status is the one that was confirmed last, the
failure is the last one since then, and the override is the status assumed last, if nothing has
ended it. A removal cuts off all that came before it.

## Main definitions

* `Cache.Stands` — a call was made, and no later one has ended what it brought about
* `Cache.Call.replacesStatus`, `Cache.Call.endsFailure`, `Cache.EndsOverride` — what ends it
* `Cache.Call.concerns` — the calls that play a part in the entry of a pipeline

## Main results

* `confirmed_replay_iff`, `error_replay_iff`, `override_replay_iff` — the parts of an entry
* `get?_replay_filter` — calls on other pipelines play no part
* `mem_expired_iff` — what a sweep tells
* `replay_follows_history` — all of this together
-/

namespace PipelineConsole.Cache

/-- A call was made in a history, and no later call ends what it brought about. -/
def Stands (history : List (Nat × Call)) (made : Nat × Call) (ends : Nat × Call → Prop) : Prop :=
  ∃ earlier later, history = earlier ++ made :: later ∧ ∀ call ∈ later, ¬ ends call

section Stands

variable {history : List (Nat × Call)} {made last : Nat × Call} {ends : Nat × Call → Prop}

@[simp] theorem not_stands_nil : ¬ Stands [] made ends := by
  rintro ⟨earlier, later, h, -⟩
  simp at h

/-- The last call stands, and the others stand as before unless the last one ends them. -/
theorem stands_concat :
    Stands (history ++ [last]) made ends ↔
      last = made ∨ Stands history made ends ∧ ¬ ends last := by
  constructor
  · rintro ⟨earlier, later, hsplit, hlater⟩
    rcases List.eq_nil_or_concat later with rfl | ⟨init, call, rfl⟩
    · obtain ⟨-, hlast⟩ := List.append_inj' hsplit rfl
      exact .inl (List.cons.inj hlast).1
    · rw [List.concat_eq_append, ← List.cons_append, ← List.append_assoc] at hsplit
      obtain ⟨hinit, hlast⟩ := List.append_inj' hsplit rfl
      obtain rfl := (List.cons.inj hlast).1
      refine .inr ⟨⟨earlier, init, hinit, fun call hcall => hlater call ?_⟩, hlater last ?_⟩
      · simp [hcall]
      · simp
  · rintro (rfl | ⟨⟨earlier, later, rfl, hlater⟩, hlast⟩)
    · exact ⟨history, [], rfl, by simp⟩
    · refine ⟨earlier, later ++ [last], by simp, fun call hcall => ?_⟩
      rcases List.mem_append.1 hcall with hcall | hcall
      · exact hlater call hcall
      · rw [List.mem_singleton.1 hcall]
        exact hlast

end Stands

/-- A call after which the confirmed status of a pipeline is another one, or none. -/
def Call.replacesStatus (id : String) : Call → Prop
  | .confirm other _ | .remove other => other = id
  | _ => False

/-- A call after which the failure of a pipeline is another one, or none. -/
def Call.endsFailure (id : String) : Call → Prop
  | .confirm other _ | .remove other | .fail other _ => other = id
  | _ => False

/-- A call after which the override that a pipeline has had since a time is another one, or none. A
sweep is such a call if the override has reached its life time by then. -/
def EndsOverride (life : Option Nat) (id : String) (since : Nat) : Nat × Call → Prop
  | (_, .assume other _) | (_, .revert other) | (_, .confirm other _) | (_, .remove other) =>
    other = id
  | (_, .fail ..) => False
  | (now, .expire) => ∃ span, life = some span ∧ span ≤ now - since

/-- The pipeline that a call is about; a sweep is about none. -/
def Call.about? : Call → Option String
  | .assume id _ | .revert id | .confirm id _ | .fail id _ | .remove id => some id
  | .expire => none

/-- Whether a call may play a part in the entry of a pipeline: it is about no other pipeline. -/
def Call.concerns (id : String) (call : Call) : Bool := call.about?.all (· = id)

/-! ### What a call does to the parts of an entry -/

section Effect

variable {life : Option Nat} {now : Nat} {id : String} {e : Option CacheEntry}

theorem confirmed_effect_iff (call : Call) {st : Status} :
    ((call.effect life now id e).getD {}).confirmed = some st ↔
      call = .confirm id st ∨ (e.getD {}).confirmed = some st ∧ ¬ call.replacesStatus id := by
  cases call with
  | confirm other st' =>
    by_cases h : id = other
    · simp [Call.effect, Call.replacesStatus, h]
    · simp [Call.effect, Call.replacesStatus, h, Ne.symm h]
  | remove other =>
    by_cases h : id = other
    · simp [Call.effect, Call.replacesStatus, h]
    · simp [Call.effect, Call.replacesStatus, h, Ne.symm h]
  | expire => cases life <;> cases e <;> simp [Call.effect, Call.replacesStatus]
  | assume other _ | revert other | fail other _ =>
    by_cases h : id = other <;> simp [Call.effect, Call.replacesStatus, h]

theorem error_effect_iff (call : Call) {error : ErrorBody} :
    ((call.effect life now id e).getD {}).error = some error ↔
      call = .fail id error ∨ (e.getD {}).error = some error ∧ ¬ call.endsFailure id := by
  cases call with
  | confirm other _ | remove other =>
    by_cases h : id = other
    · simp [Call.effect, Call.endsFailure, h]
    · simp [Call.effect, Call.endsFailure, h, Ne.symm h]
  | fail other _ =>
    by_cases h : id = other
    · simp [Call.effect, Call.endsFailure, h]
    · simp [Call.effect, Call.endsFailure, h, Ne.symm h]
  | expire => cases life <;> cases e <;> simp [Call.effect, Call.endsFailure]
  | assume other _ | revert other =>
    by_cases h : id = other <;> simp [Call.effect, Call.endsFailure, h]

theorem override_effect_iff (call : Call) {st : Status} {since : Nat} :
    ((call.effect life now id e).getD {}).override = some ⟨st, since⟩ ↔
      (now, call) = (since, .assume id st) ∨
        (e.getD {}).override = some ⟨st, since⟩ ∧ ¬ EndsOverride life id since (now, call) := by
  cases call with
  | assume other st' =>
    by_cases h : id = other
    · simp [Call.effect, EndsOverride, h, and_comm]
    · simp [Call.effect, EndsOverride, h, Ne.symm h]
  | revert other | confirm other _ | remove other =>
    by_cases h : id = other
    · simp [Call.effect, EndsOverride, h]
    · simp [Call.effect, EndsOverride, h, Ne.symm h]
  | fail other _ =>
    by_cases h : id = other <;> simp [Call.effect, EndsOverride, h]
  | expire =>
    cases life with
    | none => simp [Call.effect, EndsOverride]
    | some span =>
      cases e with
      | none => simp [Call.effect]
      | some e =>
        simp only [Call.effect, EndsOverride, Option.map_some, Option.getD_some,
          CacheEntry.override_withoutStale, Option.some.injEq, exists_eq_left', Prod.mk.injEq,
          reduceCtorEq, and_false, false_or]
        constructor
        · intro hkept
          split at hkept
          · cases hkept
          · next h => exact ⟨hkept, fun hold => h (CacheEntry.isStale_iff.2 ⟨_, hkept, hold⟩)⟩
        · rintro ⟨hoverride, hyoung⟩
          rw [if_neg, hoverride]
          intro hstale
          obtain ⟨o, ho, hold⟩ := CacheEntry.isStale_iff.1 hstale
          obtain rfl := Option.some.inj (hoverride.symm.trans ho)
          exact hyoung hold

/-- A call that does not concern a pipeline leaves its entry alone. -/
theorem effect_of_not_concerns {call : Call} (h : call.concerns id = false) :
    call.effect life now id e = e := by
  cases call with
  | expire => simp [Call.concerns, Call.about?] at h
  | assume other _ | revert other | confirm other _ | fail other _ | remove other =>
    have hne : other ≠ id := by simpa [Call.concerns, Call.about?] using h
    exact if_neg hne.symm

end Effect

/-! ### What is shown, and what a sweep tells -/

section Cache

variable {c : Cache} {life : Option Nat} {now : Nat} {id : String}

/-- The status to show is the override if there is one, and the confirmed status otherwise. -/
theorem status_eq_some_iff {st : Status} :
    c.status id = some st ↔
      (∃ since, (c.entry id).override = some ⟨st, since⟩) ∨
        (c.entry id).override = none ∧ (c.entry id).confirmed = some st := by
  have hstatus : c.status id = (c.entry id).effective := by
    rw [status, entry]
    cases c.get? id <;> rfl
  rw [hstatus, CacheEntry.effective]
  cases (c.entry id).override with
  | none => simp
  | some o =>
    obtain ⟨assumed, since⟩ := o
    simp

/-- A sweep tells whose override it has dropped. -/
theorem mem_expired_iff :
    id ∈ (c.expire now life).2.2 ↔
      (c.entry id).override ≠ none ∧ ((c.perform life now .expire).1.entry id).override = none := by
  cases life with
  | none => simp [expire, perform]
  | some span =>
    refine mem_stale_iff.trans ?_
    rw [entry_expire, CacheEntry.override_withoutStale]
    by_cases h : (c.entry id).isStale now span = true
    · obtain ⟨o, ho, -⟩ := CacheEntry.isStale_iff.1 h
      simp [h, ho]
    · simp [h]

theorem nodup_expired : (c.expire now life).2.2.Nodup := by
  cases life with
  | none => exact List.nodup_nil
  | some span => exact nodup_stale

end Cache

/-! ### Looking back -/

section Replay

variable {life : Option Nat} {history : List (Nat × Call)} {id : String}

/-- A part of an entry which each call sets, ends or leaves alone is what the last call has set it
to that still stands. -/
theorem eq_some_iff_stands {α : Type} {a : α} {ends : Nat × Call → Prop}
    (part : CacheEntry → Option α) (sets : Nat × Call → Prop) (hnone : part {} = none)
    (hstep : ∀ (e : Option CacheEntry) (made : Nat × Call),
      part ((made.2.effect life made.1 id e).getD {}) = some a ↔
        sets made ∨ part (e.getD {}) = some a ∧ ¬ ends made) :
    part ((replay life history).entry id) = some a ↔
      ∃ made, sets made ∧ Stands history made ends := by
  -- From the end, as the last call decides whether those before it still stand.
  induction history using List.reverseRecOn with
  | nil => simp [entry, hnone]
  | append_singleton history last ih =>
    rw [entry, replay_concat, get?_perform, hstep, ← entry, ih]
    simp only [stands_concat]
    constructor
    · rintro (hlast | ⟨⟨made, hmade, hstands⟩, hkept⟩)
      · exact ⟨last, hlast, .inl rfl⟩
      · exact ⟨made, hmade, .inr ⟨hstands, hkept⟩⟩
    · rintro ⟨made, hmade, rfl | ⟨hstands, hkept⟩⟩
      · exact .inl hmade
      · exact .inr ⟨⟨made, hmade, hstands⟩, hkept⟩

theorem confirmed_replay_iff {st : Status} :
    ((replay life history).entry id).confirmed = some st ↔
      ∃ t, Stands history (t, .confirm id st) fun later => later.2.replacesStatus id := by
  rw [eq_some_iff_stands CacheEntry.confirmed (fun made => made.2 = .confirm id st) rfl
    fun _ made => confirmed_effect_iff made.2]
  simp

theorem error_replay_iff {error : ErrorBody} :
    ((replay life history).entry id).error = some error ↔
      ∃ t, Stands history (t, .fail id error) fun later => later.2.endsFailure id := by
  rw [eq_some_iff_stands CacheEntry.error (fun made => made.2 = .fail id error) rfl
    fun _ made => error_effect_iff made.2]
  simp

theorem override_replay_iff {st : Status} {since : Nat} :
    ((replay life history).entry id).override = some ⟨st, since⟩ ↔
      Stands history (since, .assume id st) (EndsOverride life id since) := by
  rw [eq_some_iff_stands CacheEntry.override (fun made => made = (since, .assume id st)) rfl
    fun _ made => override_effect_iff made.2]
  simp

/-- The calls on other pipelines play no part in the entry of a pipeline. -/
theorem get?_replay_filter :
    (replay life (history.filter fun made => made.2.concerns id)).get? id =
      (replay life history).get? id := by
  rw [get?_replay, get?_replay, List.foldl_filter]
  congr 1
  funext e made
  split
  · rfl
  · next h => exact (effect_of_not_concerns (by simpa using h)).symm

end Replay

/-- After any history, an entry holds the status confirmed last; the failure that was recorded last,
if that was after the last confirmation; and the status assumed last, if no confirmation and no
revert came after it and no sweep at which it had reached its life time. A removal is the end of all
of them. What is shown is the override, or else the confirmed status. The next sweep, whenever it
comes, tells just those pipelines whose override it drops, which are none if overrides have no life
time. Calls on other pipelines make no difference. -/
theorem replay_follows_history (life : Option Nat) (history : List (Nat × Call)) (id : String) :
    let c := replay life history
    (∀ st, (c.entry id).confirmed = some st ↔
        ∃ t, Stands history (t, .confirm id st) fun later => later.2.replacesStatus id) ∧
      (∀ error, (c.entry id).error = some error ↔
        ∃ t, Stands history (t, .fail id error) fun later => later.2.endsFailure id) ∧
      (∀ st since, (c.entry id).override = some ⟨st, since⟩ ↔
        Stands history (since, .assume id st) (EndsOverride life id since)) ∧
      (∀ st, c.status id = some st ↔
        (∃ since, (c.entry id).override = some ⟨st, since⟩) ∨
          (c.entry id).override = none ∧ (c.entry id).confirmed = some st) ∧
      (∀ now, (c.expire now life).2.2.Nodup ∧ ∀ other, other ∈ (c.expire now life).2.2 ↔
        (c.entry other).override ≠ none ∧
          ((c.perform life now .expire).1.entry other).override = none) ∧
      (∀ now, (c.expire now none).2.2 = []) ∧
      (replay life (history.filter fun made => made.2.concerns id)).get? id = c.get? id :=
  ⟨fun _ => confirmed_replay_iff, fun _ => error_replay_iff, fun _ _ => override_replay_iff,
    fun _ => status_eq_some_iff, fun _ => ⟨nodup_expired, fun _ => mem_expired_iff⟩, fun _ => rfl,
    get?_replay_filter⟩

/-- A failure leaves the override alone; the sweep comes a millisecond too early to drop it. -/
example :
    let c := replay (some 30) [(0, .confirm "orders" .running), (10, .assume "orders" .pausing),
      (20, .fail "orders" ⟨503, "busy"⟩), (39, .expire)]
    c.get? "orders" = some ⟨some .running, some ⟨.pausing, 10⟩, some ⟨503, "busy"⟩⟩ ∧
      (c.expire 40 (some 30)).2.2 = ["orders"] := by
  decide

end PipelineConsole.Cache
