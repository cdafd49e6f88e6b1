import PipelineConsole.DeadLetter.Queue

/-!
# What a queue hands out

Batches are taken from the front of a queue, so that its messages go out in their order and each of
them once, until somebody drops what is left. The counters are kept beside the messages, and an
empty batch leaves them as they are. They are right all the same, after whatever has been done with
the queue.

## Main definitions

* `Queue.Call`, `Queue.call` — what is done with a queue
* `Queue.run`, `Queue.batches`, `Queue.handedOut` — calls one after another, and what they hand out
* `Queue.Counted` — the counter of messages is right

## Main results

* `Queue.prefix_handedOut` — messages go out from the front
* `Queue.messages_run` — what is left
* `Queue.messages_leave_once` — what a new queue hands out, and its counters
-/

namespace PipelineConsole.DeadLetter.Queue

/-- What can be done with a queue. -/
inductive Call where
  | consume (size : Nat) (now : Timestamp)
  | purge
  deriving DecidableEq, Repr

/-- The batch that a call hands out, and the queue after it. A purge hands out nothing. -/
def call (q : Queue) : Call → List Message × Queue
  | .consume size now => q.consume size now
  | .purge => ([], q.purge)

/-- The queue after calls. -/
def run (q : Queue) (calls : List Call) : Queue := calls.foldl (fun q c => (q.call c).2) q

/-- The batches that calls hand out, one for each of them. -/
def batches : Queue → List Call → List (List Message)
  | _, [] => []
  | q, c :: rest => (q.call c).1 :: batches (q.call c).2 rest

/-- The messages that calls hand out, in the order in which they do. -/
def handedOut (q : Queue) (calls : List Call) : List Message := (q.batches calls).flatten

/-- As many messages are counted as there are. -/
def Counted (q : Queue) : Prop := q.state.unconsumed = .ofNat q.messages.length

variable {q : Queue} {size : Nat} {now : Timestamp} {calls before later : List Call}

/-! ### One call -/

@[simp] theorem call_consume (q : Queue) (size : Nat) (now : Timestamp) :
    q.call (.consume size now) = q.consume size now := rfl

@[simp] theorem call_purge (q : Queue) : q.call .purge = ([], q.purge) := rfl

/-- Either there is no batch and nothing changes, or a batch leaves the front and is counted out. -/
theorem consume_cases (q : Queue) (size : Nat) (now : Timestamp) :
    (q.messages.take size = [] ∧ q.consume size now = ([], q)) ∨
      (q.messages.take size ≠ [] ∧ q.consume size now =
        (q.messages.take size, ⟨q.messages.drop size,
          { q.state with
            consumedAt := some now, unconsumed := .ofNat (q.messages.drop size).length }⟩)) := by
  unfold consume
  dsimp only
  split
  · next hempty =>
    have hnil := List.isEmpty_iff.1 hempty
    exact .inl ⟨hnil, by rw [hnil]⟩
  · next hfilled => exact .inr ⟨mt List.isEmpty_iff.2 hfilled, rfl⟩

@[simp] theorem fst_consume (q : Queue) (size : Nat) (now : Timestamp) :
    (q.consume size now).1 = q.messages.take size := by
  obtain ⟨hnil, h⟩ | ⟨-, h⟩ := q.consume_cases size now
  · rw [h, hnil]
  · rw [h]

/-- What is left is what is behind the batch, also where the batch is empty. -/
@[simp] theorem messages_consume (q : Queue) (size : Nat) (now : Timestamp) :
    (q.consume size now).2.messages = q.messages.drop size := by
  obtain ⟨hnil, h⟩ | ⟨-, h⟩ := q.consume_cases size now
  · have hsplit := List.take_append_drop size q.messages
    rw [hnil, List.nil_append] at hsplit
    rw [h, hsplit]
  · rw [h]

@[simp] theorem total_call (q : Queue) (c : Call) : (q.call c).2.state.total = q.state.total := by
  cases c with
  | purge => rfl
  | consume size now =>
    obtain ⟨-, h⟩ | ⟨-, h⟩ := q.consume_cases size now <;> rw [call_consume, h]

theorem Counted.call (h : q.Counted) (c : Call) : (q.call c).2.Counted := by
  cases c with
  | purge => rfl
  | consume size now =>
    obtain ⟨-, hq⟩ | ⟨-, hq⟩ := q.consume_cases size now <;> rw [call_consume, hq]
    · exact h
    · rfl

/-- A call notes the time just when it hands out something. -/
theorem isSome_consumedAt_call (q : Queue) (c : Call) :
    (q.call c).2.state.consumedAt.isSome ↔ q.state.consumedAt.isSome ∨ (q.call c).1 ≠ [] := by
  cases c with
  | purge => simp [purge]
  | consume size now =>
    obtain ⟨-, h⟩ | ⟨hne, h⟩ := q.consume_cases size now <;> rw [call_consume, h]
    · simp only [ne_eq, not_true, or_false]
    · simp only [Option.isSome_some, ne_eq, hne, not_false_eq_true, or_true]

/-- A batch is what is missing from the front afterwards. -/
theorem messages_eq_append (q : Queue) (size : Nat) (now : Timestamp) :
    q.messages = (q.consume size now).1 ++ (q.consume size now).2.messages := by
  rw [fst_consume, messages_consume, List.take_append_drop]

/-! ### Calls one after another -/

@[simp] theorem run_nil (q : Queue) : q.run [] = q := rfl

@[simp] theorem run_cons (q : Queue) (c : Call) (rest : List Call) :
    q.run (c :: rest) = (q.call c).2.run rest := rfl

@[simp] theorem handedOut_cons (q : Queue) (c : Call) (rest : List Call) :
    q.handedOut (c :: rest) = (q.call c).1 ++ (q.call c).2.handedOut rest := by
  rw [handedOut, batches, List.flatten_cons, handedOut]

@[simp] theorem length_batches (q : Queue) (calls : List Call) :
    (q.batches calls).length = calls.length := by
  induction calls generalizing q with
  | nil => rfl
  | cons c rest ih => rw [batches, List.length_cons, ih, List.length_cons]

theorem batches_append (q : Queue) (before later : List Call) :
    q.batches (before ++ later) = q.batches before ++ (q.run before).batches later := by
  induction before generalizing q with
  | nil => rfl
  | cons c rest ih => rw [List.cons_append, batches, batches, ih, List.cons_append, run_cons]

theorem handedOut_append (q : Queue) (before later : List Call) :
    q.handedOut (before ++ later) = q.handedOut before ++ (q.run before).handedOut later := by
  rw [handedOut, batches_append, List.flatten_append, handedOut, handedOut]

/-- Messages go out from the front, in their order. -/
theorem prefix_handedOut (q : Queue) (calls : List Call) : q.handedOut calls <+: q.messages := by
  induction calls generalizing q with
  | nil => exact List.nil_prefix
  | cons c rest ih =>
    rw [handedOut_cons]
    cases c with
    | consume size now =>
      rw [messages_eq_append q size now]
      exact (List.prefix_append_right_inj _).2 (ih _)
    | purge =>
      have hnothing : q.purge.handedOut rest = [] := List.prefix_nil.1 (ih q.purge)
      rw [call_purge, hnothing]
      exact List.nil_prefix

/-- Nothing comes out of an empty queue. -/
theorem handedOut_of_empty (h : q.messages = []) (calls : List Call) : q.handedOut calls = [] :=
  List.prefix_nil.1 (h ▸ prefix_handedOut q calls)

/-- Nothing more is handed out from a purge on. -/
theorem handedOut_purge (q : Queue) (before later : List Call) :
    q.handedOut (before ++ .purge :: later) = q.handedOut before := by
  have hnothing : (q.run before).purge.handedOut later = [] := handedOut_of_empty rfl later
  rw [handedOut_append, handedOut_cons, call_purge, hnothing, List.append_nil, List.append_nil]

theorem messages_run_of_empty (h : q.messages = []) (calls : List Call) :
    (q.run calls).messages = [] := by
  induction calls generalizing q with
  | nil => exact h
  | cons c rest ih =>
    rw [run_cons]
    refine ih ?_
    cases c with
    | consume size now => rw [call_consume, messages_consume, h, List.drop_nil]
    | purge => rfl

/-- What is left is what has not gone out, unless it has been dropped. -/
theorem messages_run (q : Queue) (calls : List Call) :
    (q.run calls).messages =
      if .purge ∈ calls then [] else q.messages.drop (q.handedOut calls).length := by
  induction calls generalizing q with
  | nil => rfl
  | cons c rest ih =>
    cases c with
    | purge => rw [run_cons, messages_run_of_empty rfl, if_pos List.mem_cons_self]
    | consume size now =>
      -- To skip the batch is to go on with what it leaves.
      have hskip : q.messages.drop (q.consume size now).1.length =
          (q.consume size now).2.messages :=
        (congrArg (List.drop _) (messages_eq_append q size now)).trans List.drop_left
      rw [run_cons, ih, handedOut_cons, List.length_append, ← List.drop_drop, call_consume, hskip]
      simp only [List.mem_cons, reduceCtorEq, false_or]

theorem total_run (q : Queue) (calls : List Call) :
    (q.run calls).state.total = q.state.total := by
  induction calls generalizing q with
  | nil => rfl
  | cons c rest ih => rw [run_cons, ih, total_call]

theorem Counted.run (h : q.Counted) (calls : List Call) : (q.run calls).Counted := by
  induction calls generalizing q with
  | nil => exact h
  | cons c rest ih => exact ih (h.call c)

theorem isSome_consumedAt_run (q : Queue) (calls : List Call) :
    (q.run calls).state.consumedAt.isSome ↔
      q.state.consumedAt.isSome ∨ ∃ batch ∈ q.batches calls, batch ≠ [] := by
  induction calls generalizing q with
  | nil => simp [batches]
  | cons c rest ih =>
    rw [run_cons, ih, isSome_consumedAt_call, batches, or_assoc]
    simp only [List.mem_cons, exists_eq_or_imp]

/-! ### A new queue -/

theorem counted_seeded (messages : List Message) (start : Timestamp) :
    (seeded messages start).Counted := rfl

/-- Whatever is done with a new queue, batches go out from the front of its messages, until there is
a purge, and what is left is what has not gone out. Each batch is as great as was asked for, or as
there were messages left. The count of all messages stays, the count of messages left is right, and
there is a time of consumption just when something has gone out. -/
theorem messages_leave_once (messages : List Message) (start : Timestamp) (calls : List Call) :
    let q := seeded messages start
    let after := q.run calls
    q.handedOut calls <+: messages ∧
      after.messages =
        (if .purge ∈ calls then [] else messages.drop (q.handedOut calls).length) ∧
      (∀ before later, calls = before ++ .purge :: later →
        q.handedOut calls = q.handedOut before) ∧
      (∀ before size now later, calls = before ++ .consume size now :: later →
        ∃ batch, (q.batches calls)[before.length]? = some batch ∧
          batch.length = min size (q.run before).messages.length) ∧
      after.state.total = .ofNat messages.length ∧
      after.state.unconsumed = .ofNat after.messages.length ∧
      (messages.length < UInt64.size →
        after.state.total.toNat = messages.length ∧
          after.state.unconsumed.toNat = after.messages.length) ∧
      (after.state.consumedAt.isSome ↔ ∃ batch ∈ q.batches calls, batch ≠ []) := by
  intro q after
  have htotal : after.state.total = .ofNat messages.length := total_run q calls
  have hcounted : after.state.unconsumed = .ofNat after.messages.length :=
    (counted_seeded messages start).run calls
  refine ⟨prefix_handedOut q calls, messages_run q calls, ?_, ?_, htotal, hcounted, ?_, ?_⟩
  · rintro before later rfl
    exact handedOut_purge q before later
  · rintro before size now later rfl
    refine ⟨(q.run before).messages.take size, ?_, List.length_take⟩
    rw [batches_append, ← length_batches q before, List.getElem?_append_right (Nat.le_refl _),
      Nat.sub_self, batches, call_consume, fst_consume, List.getElem?_cons_zero]
  · intro hfits
    have hle : after.messages.length ≤ messages.length := by
      rw [messages_run q calls]
      split
      · exact Nat.zero_le _
      · exact (List.drop_sublist _ _).length_le
    rw [htotal, hcounted, UInt64.toNat_ofNat_of_lt' hfits,
      UInt64.toNat_ofNat_of_lt' (Nat.lt_of_le_of_lt hle hfits)]
    exact ⟨rfl, rfl⟩
  · rw [isSome_consumedAt_run]
    simp [q, seeded]

/-- Three messages, of which a purge leaves the last to nobody. -/
theorem purgedQueue_accounts :
    let time : Timestamp := ⟨⟨2024, 10, 7, by decide⟩, 37800, 0, by decide⟩
    let messages : List Message :=
      [⟨"source", "late", "1"⟩, ⟨"sink", "full", "2"⟩, ⟨"sink", "full", "3"⟩]
    let calls : List Call := [.consume 2 time, .consume 0 time, .purge, .consume 5 time]
    let q := seeded messages time
    messages.length < UInt64.size ∧
      q.handedOut calls = q.handedOut [.consume 2 time, .consume 0 time] ∧
      (∃ batch, (q.batches calls)[0]? = some batch ∧ batch.length = 2) ∧
      (∃ batch, (q.batches calls)[3]? = some batch ∧ batch.length = 0) ∧
      (q.run calls).state.total.toNat = 3 ∧ (q.run calls).state.unconsumed.toNat = 0 := by
  intro time messages calls q
  have hfits : messages.length < UInt64.size := by decide
  obtain ⟨-, -, hpurge, hconsume, -, -, hcounts, -⟩ := messages_leave_once messages time calls
  exact ⟨hfits, hpurge _ _ rfl, hconsume [] 2 time _ rfl,
    hconsume [.consume 2 time, .consume 0 time, .purge] 5 time [] rfl, hcounts hfits⟩

end PipelineConsole.DeadLetter.Queue
