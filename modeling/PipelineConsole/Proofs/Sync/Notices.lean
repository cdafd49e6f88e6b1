import Mathlib.Data.List.Chain
import PipelineConsole.Proofs.Sync.Calls

/-!
# What subscribers are told

A notice is drawn up by comparing what a user sees of a pipeline before and after a change. So a
subscriber who hears all notices always knows what there is to see, and hears nothing twice.

A pipeline is removed without a notice: whoever removes it has to tell the observers himself. They
then take it that nothing is known of the pipeline.

## Main definitions

* `CacheNotice.id`, `CacheEntry.View.unknown` — what a notice is about; the view of what is unknown
* `Cache.Sign`, `Cache.signs` — what there is to learn of a history: its notices and its removals
* `Cache.Sign.see`, `Cache.Sign.news` — what an observer of one pipeline makes of them
* `Cache.Listener` — a cache with a subscriber, who takes notices when he likes

## Main results

* `notices_perform` — the notices that a call sends about a pipeline
* `foldl_see_signs` — an observer who follows the signs knows the view
* `isChain_news` — no observer is told what he knows
* `reached_run` — a subscriber who has missed nothing gets every notice in order
* `subscribers_follow_views` — all of this together
-/

namespace PipelineConsole

/-- The pipeline that a notice is about. -/
def CacheNotice.id : CacheNotice → String
  | .changed id _ | .failed id _ => id

/-- What is seen of a pipeline of which nothing is known. -/
def CacheEntry.View.unknown : CacheEntry.View := ⟨none, false⟩

namespace Cache

/-- The notice of a failure that a call sends about a pipeline, whatever is seen of it. -/
def Call.failures (id : String) : Call → List CacheNotice
  | .fail other error => if id = other then [.failed other error] else []
  | _ => []

/-- A call that removes a pipeline. -/
def Call.isRemoval : Call → Bool
  | .remove _ => true
  | _ => false

/-! ### The notices of a call -/

section Notices

variable {c : Cache} {life : Option Nat} {now : Nat} {id key : String}

/-- The notice that is due about a pipeline of which `before` was seen and `after` is. -/
def due (id : String) (before after : CacheEntry.View) : List CacheNotice :=
  if before = after then [] else [.changed id after]

theorem filter_due (before after : CacheEntry.View) :
    (due key before after).filter (·.id = id) = if id = key then due key before after else [] := by
  unfold due
  by_cases h : id = key
  · subst h
    split <;> simp [CacheNotice.id]
  · rw [if_neg h]
    split <;> simp [CacheNotice.id, Ne.symm h]

/-- A change sends the notice that is due, about its own pipeline only. -/
theorem notices_change (f : CacheEntry → CacheEntry) :
    (c.change key f).2.filter (·.id = id) = due id (c.view id) ((c.change key f).1.view id) := by
  have hnotices : (c.change key f).2 = due key (c.entry key).view (f (c.entry key)).view := rfl
  rw [hnotices, filter_due, view, view, entry_change]
  by_cases h : id = key
  · simp [h]
  · simp [h, due]

/-- A sweep sends one notice about each pipeline whose override it drops. -/
theorem notices_dropStale {life : Nat} (ids : List String) :
    (c.dropStale now life ids).2.filter (·.id = id) =
      if id ∈ ids then due id (c.view id) ((c.entry id).withoutStale now life).view else [] := by
  induction ids generalizing c with
  | nil => simp [dropStale]
  | cons key rest ih =>
    show ((c.change key (·.withoutStale now life)).2 ++
      ((c.change key (·.withoutStale now life)).1.dropStale now life rest).2).filter _ = _
    rw [List.filter_append, notices_change, ih, view, view, entry_change]
    by_cases h : id = key
    · subst h
      simp [due]
    · simp [due, h]

/-- The notices that a call sends about a pipeline: one that carries what is seen of it if that has
changed, except for a removal, and one of a failure that is recorded. -/
theorem notices_perform (call : Call) :
    (c.perform life now call).2.filter (·.id = id) =
      if call.isRemoval then []
      else due id (c.view id) ((c.perform life now call).1.view id) ++ call.failures id := by
  cases call with
  | assume key st => exact (notices_change _).trans (List.append_nil _).symm
  | revert key => exact (notices_change _).trans (List.append_nil _).symm
  | confirm key st => exact (notices_change _).trans (List.append_nil _).symm
  | fail key error =>
    have hnotices : (c.perform life now (.fail key error)).2 =
        (c.change key fun e => { e with error := some error }).2 ++ [.failed key error] := rfl
    rw [hnotices, List.filter_append, notices_change]
    congr 1
    by_cases h : id = key
    · simp [CacheNotice.id, Call.failures, h]
    · simp [CacheNotice.id, Call.failures, h, Ne.symm h]
  | expire =>
    refine Eq.trans ?_ (List.append_nil _).symm
    cases life with
    | none => simp [perform, expire, due]
    | some span =>
      refine (notices_dropStale (c.stale now span)).trans ?_
      rw [view, view, entry_expire]
      split
      · rfl
      · next h =>
        rw [mem_stale_iff, Bool.not_eq_true] at h
        simp [CacheEntry.withoutStale_of_not_isStale h, due]
  | remove key => rfl

end Notices

/-! ### What observers make of the notices -/

/-- What there is to learn from a history: a notice, or that a pipeline is removed. -/
inductive Sign where
  | notice (n : CacheNotice)
  | removal (id : String)

namespace Sign

/-- What an observer sees of a pipeline once he has learnt something. -/
def see (id : String) (seen : CacheEntry.View) : Sign → CacheEntry.View
  | .notice (.changed other v) => if id = other then v else seen
  | .notice (.failed ..) => seen
  | .removal other => if id = other then .unknown else seen

/-- What there is to learn of a pipeline: a view of it, or `none` that it is removed. -/
def news (id : String) : Sign → Option (Option CacheEntry.View)
  | .notice (.changed other v) => if id = other then some (some v) else none
  | .notice (.failed ..) => none
  | .removal other => if id = other then some none else none

/-- News after news tell what is not known, or that a pipeline is removed. -/
def IsNew (known news : Option CacheEntry.View) : Prop :=
  news = none ∨ known.getD .unknown ≠ news.getD .unknown

/-- The notice, if it is one. -/
def notice? : Sign → Option CacheNotice
  | .notice n => some n
  | .removal _ => none

end Sign

/-- What there is to learn from a call that has sent some notices. -/
def Call.signs (notices : List CacheNotice) : Call → List Sign
  | .remove id => [.removal id]
  | _ => notices.map .notice

/-- What there is to learn from more calls, in its order. -/
def signs (life : Option Nat) (c : Cache) : List (Nat × Call) → List Sign
  | [] => []
  | (now, call) :: rest =>
    call.signs (c.perform life now call).2 ++ signs life (c.perform life now call).1 rest

section Signs

variable {c : Cache} {life : Option Nat} {now : Nat} {id : String} {history : List (Nat × Call)}

/-- The news are all that an observer of a pipeline needs. -/
theorem foldl_see (signs : List Sign) (seen : CacheEntry.View) :
    signs.foldl (Sign.see id) seen =
      (signs.filterMap (Sign.news id)).foldl (fun _ news => news.getD .unknown) seen := by
  rw [List.foldl_filterMap]
  congr 1
  funext seen sign
  cases sign with
  | notice n =>
    cases n with
    | changed other v => by_cases h : id = other <;> simp [Sign.see, Sign.news, h]
    | failed other error => rfl
  | removal other => by_cases h : id = other <;> simp [Sign.see, Sign.news, h]

/-- Only the notices about a pipeline hold news of it. -/
theorem news_notices (notices : List CacheNotice) :
    (notices.map .notice).filterMap (Sign.news id) =
      (notices.filter (·.id = id)).filterMap fun n => Sign.news id (.notice n) := by
  rw [List.filterMap_map, List.filterMap_filter]
  congr 1
  funext n
  cases n with
  | changed other v =>
    by_cases h : other = id
    · simp [Sign.news, CacheNotice.id, h]
    · simp [Sign.news, CacheNotice.id, h, Ne.symm h]
  | failed other error => simp [Sign.news]

theorem news_failures (call : Call) :
    (call.failures id).filterMap (fun n => Sign.news id (.notice n)) = [] := by
  cases call with
  | fail other error =>
    rw [Call.failures]
    split <;> rfl
  | _ => rfl

theorem signs_of_not_isRemoval {call : Call} (h : call.isRemoval = false)
    (notices : List CacheNotice) : call.signs notices = notices.map .notice := by
  cases call with
  | remove other => cases h
  | _ => rfl

/-- The news of a pipeline that a call brings, if it removes none. -/
theorem news_signs_of_not_isRemoval {call : Call} (h : call.isRemoval = false) :
    (call.signs (c.perform life now call).2).filterMap (Sign.news id) =
      if c.view id = (c.perform life now call).1.view id then []
      else [some ((c.perform life now call).1.view id)] := by
  rw [signs_of_not_isRemoval h, news_notices, notices_perform, h, if_neg Bool.false_ne_true,
    List.filterMap_append, news_failures, List.append_nil, due]
  split <;> simp [Sign.news]

/-- The news of a pipeline that a call brings. -/
theorem news_signs (call : Call) :
    (call.signs (c.perform life now call).2).filterMap (Sign.news id) =
      if call = .remove id then [none]
      else if c.view id = (c.perform life now call).1.view id then []
      else [some ((c.perform life now call).1.view id)] := by
  cases call with
  | remove other =>
    by_cases h : id = other
    · simp [Call.signs, Sign.news, h]
    · -- A removal of another pipeline tells nothing of this one, of which the same is seen.
      have hview : (c.perform life now (.remove other)).1.view id = c.view id := by
        rw [view, view, entry, entry, get?_perform, Call.effect, if_neg h]
      simp [Call.signs, Sign.news, h, Ne.symm h, hview]
  | assume | revert | confirm | fail | expire =>
    rw [if_neg (by simp)]
    exact news_signs_of_not_isRemoval rfl

/-- A failure changes nothing of what is seen, so that its own notice is the only one. -/
theorem notices_fail (error : ErrorBody) :
    (c.perform life now (.fail id error)).2 = [.failed id error] := by
  have hview : (c.entry id).view = { c.entry id with error := some error }.view := rfl
  show (if (c.entry id).view = { c.entry id with error := some error }.view then [] else _) ++
    [CacheNotice.failed id error] = _
  rw [if_pos hview, List.nil_append]

/-- A pipeline that is removed is unknown. -/
theorem view_remove : (c.perform life now (.remove id)).1.view id = .unknown := by
  rw [view, entry, get?_perform, Call.effect, if_pos rfl]
  rfl

/-- An observer who follows the signs of a call goes on to know what there is to see. -/
theorem foldl_see_call (call : Call) :
    (call.signs (c.perform life now call).2).foldl (Sign.see id) (c.view id) =
      (c.perform life now call).1.view id := by
  rw [foldl_see, news_signs]
  by_cases hremoval : call = .remove id
  · subst hremoval
    rw [if_pos rfl, view_remove]
    rfl
  · rw [if_neg hremoval]
    split
    · next h => exact h
    · rfl

/-- An observer who starts with the view of a pipeline and follows the signs knows its view. -/
theorem foldl_see_signs :
    (signs life c history).foldl (Sign.see id) (c.view id) = (c.resume life history).view id := by
  induction history generalizing c with
  | nil => rfl
  | cons made rest ih => rw [signs, List.foldl_append, foldl_see_call, ih, resume_cons]

/-- No observer is told what he knows, where after a removal he knows nothing. -/
theorem isChain_news :
    (some (c.view id) :: (signs life c history).filterMap (Sign.news id)).IsChain Sign.IsNew := by
  induction history generalizing c with
  | nil => exact .singleton _
  | cons made rest ih =>
    obtain ⟨now, call⟩ := made
    rw [signs, List.filterMap_append, news_signs]
    have hrest := ih (c := (c.perform life now call).1)
    by_cases hremoval : call = .remove id
    · subst hremoval
      rw [view_remove] at hrest
      rw [if_pos rfl]
      -- What comes next is new to an observer who knows nothing, and so it is after the removal.
      obtain ⟨hhead, htail⟩ := List.isChain_cons.1 hrest
      exact .cons_cons (.inl rfl) (List.isChain_cons.2 ⟨hhead, htail⟩)
    · rw [if_neg hremoval]
      split
      · next h => rwa [List.nil_append, h]
      · next h => exact .cons_cons (.inr h) hrest

end Signs

/-! ### A subscriber -/

/-- A cache with a subscriber: the notices that wait for him, and those that he has taken. -/
structure Listener where
  cache : Cache := {}
  inbox : Subscription := {}
  heard : List CacheNotice := []

/-- What can happen to a cache with a subscriber: a call at a time, or he takes some of the notices
that wait for him. -/
inductive Turn where
  | make (made : Nat × Call)
  | take (count : Nat)

/-- The call of a turn. -/
def Turn.call? : Turn → Option (Nat × Call)
  | .make made => some made
  | .take _ => none

namespace Listener

/-- The cache and the subscriber after a turn. -/
def step (life : Option Nat) (l : Listener) : Turn → Listener
  | .make made =>
    { l with
      cache := (l.cache.perform life made.1 made.2).1
      inbox := l.inbox.add (l.cache.perform life made.1 made.2).2 }
  | .take count =>
    { l with
      inbox := { l.inbox with pending := l.inbox.pending.drop count }
      heard := l.heard ++ l.inbox.pending.take count }

/-- The cache and the subscriber after some turns. -/
def run (l : Listener) (life : Option Nat) (turns : List Turn) : Listener :=
  turns.foldl (step life) l

/-- All notices that have reached the subscriber. -/
def reached (l : Listener) : List CacheNotice := l.heard ++ l.inbox.pending

section Run

variable {l : Listener} {life : Option Nat} {turn : Turn} {turns : List Turn}

theorem missed_step_le : l.inbox.missed ≤ (l.step life turn).inbox.missed := by
  cases turn with
  | make made => exact Nat.le_add_right ..
  | take count => exact Nat.le_refl _

theorem missed_le : l.inbox.missed ≤ (l.run life turns).inbox.missed := by
  induction turns generalizing l with
  | nil => exact Nat.le_refl _
  | cons turn rest ih => exact Nat.le_trans missed_step_le ih

/-- The subscriber does not interfere with the cache. -/
theorem cache_run :
    (l.run life turns).cache = l.cache.resume life (turns.filterMap Turn.call?) := by
  induction turns generalizing l with
  | nil => rfl
  | cons turn rest ih =>
    cases turn with
    | make made => exact ih (l := l.step life (.make made))
    | take count => exact ih (l := l.step life (.take count))

/-- Notices are added behind those that wait, as long as none is missed. -/
theorem pending_add {s : Subscription} {notices : List CacheNotice}
    (h : (s.add notices).missed = 0) : (s.add notices).pending = s.pending ++ notices := by
  rw [Subscription.add] at h ⊢
  rw [Nat.eq_zero_of_add_eq_zero_left h, List.drop_zero]

/-- The notices among the signs of a call are those that it sends. -/
theorem notices_signs (c : Cache) (made : Nat × Call) :
    (made.2.signs (c.perform life made.1 made.2).2).filterMap Sign.notice? =
      (c.perform life made.1 made.2).2 := by
  obtain ⟨now, call⟩ := made
  cases call with
  | remove id => rfl
  | assume | revert | confirm | fail | expire =>
    rw [signs_of_not_isRemoval rfl, List.filterMap_map]
    exact List.filterMap_some

/-- A subscriber who misses nothing gets every notice, in the order in which they are sent. -/
theorem reached_run (h : (l.run life turns).inbox.missed = 0) :
    (l.run life turns).reached =
      l.reached ++ (signs life l.cache (turns.filterMap Turn.call?)).filterMap Sign.notice? := by
  induction turns generalizing l with
  | nil => exact (List.append_nil _).symm
  | cons turn rest ih =>
    have hstep : (l.step life turn).inbox.missed = 0 := Nat.eq_zero_of_le_zero (h ▸ missed_le)
    refine (ih (l := l.step life turn) h).trans ?_
    cases turn with
    | make made =>
      have hreached : (l.step life (.make made)).reached =
          l.reached ++ (l.cache.perform life made.1 made.2).2 := by
        rw [reached, reached, List.append_assoc]
        exact congrArg _ (pending_add hstep)
      have hcall : (Turn.make made :: rest).filterMap Turn.call? =
          made :: rest.filterMap Turn.call? := rfl
      rw [hreached, hcall, signs, List.filterMap_append, notices_signs, List.append_assoc]
      rfl
    | take count =>
      have hreached : (l.step life (.take count)).reached = l.reached := by
        simp [reached, step]
      rw [hreached]
      rfl

end Run

/-- A subscriber who misses nothing hears of every visible change and of nothing else: he gets the
notices of all calls in their order, and an observer who is also told of removals always knows what
there is to see, and is not told what he knows. A call sends one notice about a pipeline that
carries its view if that has changed, and one of a failure if it records one, which is then the only
one; a removal sends none. -/
theorem subscribers_follow_views (life : Option Nat) (turns : List Turn)
    (hkept : (run {} life turns).inbox.missed = 0) :
    let l := run {} life turns
    let told := signs life {} (turns.filterMap Turn.call?)
    l.reached = told.filterMap Sign.notice? ∧
      (∀ id, told.foldl (Sign.see id) .unknown = l.cache.view id ∧
        (some .unknown :: told.filterMap (Sign.news id)).IsChain Sign.IsNew) ∧
      (∀ now call id, (l.cache.perform life now call).2.filter (·.id = id) =
        if call.isRemoval then []
        else due id (l.cache.view id) ((l.cache.perform life now call).1.view id) ++
          call.failures id) ∧
      ∀ now id error, (l.cache.perform life now (.fail id error)).2 = [.failed id error] := by
  intro l told
  refine ⟨reached_run hkept, fun id => ⟨?_, isChain_news (c := {})⟩,
    fun now call id => notices_perform call, fun now id error => notices_fail error⟩
  calc told.foldl (Sign.see id) .unknown
      = (resume {} life (turns.filterMap Turn.call?)).view id := foldl_see_signs (c := {})
    _ = l.cache.view id := by rw [cache_run]

/-- A status is confirmed and replaced by an assumed one, which a sweep drops; then the pipeline
cannot be reached, is removed, and runs again. The subscriber takes his notices in between. -/
def eventfulLife : List Turn :=
  [.make (0, .confirm "orders" .running), .take 1, .make (10, .assume "orders" .pausing),
    .make (40, .expire), .make (50, .fail "orders" ⟨503, "busy"⟩), .make (60, .remove "orders"),
    .take 2, .make (70, .confirm "orders" .running)]

/-- The subscriber gets five notices, and what he has heard last is what there is to see. -/
theorem eventful_life_is_followed :
    let l := run {} (some 30) eventfulLife
    l.inbox.missed = 0 ∧
      l.reached = [.changed "orders" ⟨some .running, false⟩,
        .changed "orders" ⟨some .pausing, true⟩, .changed "orders" ⟨some .running, false⟩,
        .failed "orders" ⟨503, "busy"⟩, .changed "orders" ⟨some .running, false⟩] ∧
      l.cache.view "orders" = ⟨some .running, false⟩ := by
  intro l
  have hkept : l.inbox.missed = 0 := by decide
  obtain ⟨hreached, hviews, -⟩ := subscribers_follow_views (some 30) eventfulLife hkept
  exact ⟨hkept, hreached, (hviews "orders").1.symm⟩

end Listener

end Cache

end PipelineConsole
