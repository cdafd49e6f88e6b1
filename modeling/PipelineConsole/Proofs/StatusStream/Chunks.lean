import PipelineConsole.Proofs.StatusStream.Delivery
import PipelineConsole.Proofs.Text.Faults
import PipelineConsole.Proofs.Text.Pieces

/-!
# Chunks do not matter

A decoder may be thought of as one that puts a chunk behind what it has kept, and then takes line
after line out of this buffer until there is no line feed left in it. A line is read as a whole, so
that it does not matter where the network has cut it: in the middle of a character, or between a
carriage return and its line feed. The decoder that takes one octet at a time does the same.

## Main definitions

* `Decoder.Between` — no line feed is kept
* `Decoder.drain` — reads the lines of a buffer
* `Decoder.feed`, `Decoder.feedAll` — puts chunks behind what was kept and reads the lines

## Main results

* `Decoder.push_eq_feed` — one octet at a time, or line after line from a buffer
* `Decoder.decoding_ignores_cuts` — chunks are read like their octets in one piece
-/

namespace PipelineConsole.Frame.Decoder

open Text.Utf8 (Bytes decodeLenient)

/-- What is kept for the next line holds no line feed. -/
def Between (d : Decoder) : Prop := 0x0A ∉ d.line

instance (d : Decoder) : Decidable d.Between := inferInstanceAs (Decidable (_ ∉ _))

/-- A line without the line feeds and carriage returns at its end. -/
def withoutBreaks (cs : List Char) : List Char :=
  (cs.reverse.dropWhile fun c => c = '\n' || c = '\r').reverse

/-- Takes the lines out of a buffer, each with its line feed, and reads them. What is left is kept
for the next line. -/
def drain (d : Decoder) (buffer : Bytes) : Decoder × List Frame :=
  match _h : buffer.findIdx? (· = 0x0A) with
  | none => ({ d with line := buffer.reverse }, [])
  | some i =>
    let line := (decodeLenient (buffer.take (i + 1))).toList
    let (next, out) := d.readLine (withoutBreaks line)
    let (last, later) := next.drain (buffer.drop (i + 1))
    (last, out ++ later)
termination_by buffer.length
decreasing_by
  obtain ⟨hi, -⟩ := List.findIdx?_eq_some_iff_getElem.1 _h
  rw [List.length_drop]
  omega

/-- Puts a chunk behind what was kept, and reads the lines of this buffer. -/
def feed (d : Decoder) (chunk : Bytes) : Decoder × List Frame :=
  { d with line := [] }.drain (d.line.reverse ++ chunk)

/-- Feeds one chunk after another: the state after them and the frames that they complete. -/
def feedAll : Decoder → List Bytes → Decoder × List Frame
  | d, [] => (d, [])
  | d, chunk :: rest =>
    let (next, out) := d.feed chunk
    let (last, later) := feedAll next rest
    (last, out ++ later)

section Lines

variable {d : Decoder} {xs ys : Bytes} {cs : List Char}

/-- Reading a line keeps nothing for the next one. -/
@[simp] theorem line_readLine (d : Decoder) (cs : List Char) :
    (d.readLine cs).1.line = d.line := by
  unfold readLine
  split
  · rw [dispatch]
    split <;> rfl
  · rfl
  · dsimp only
    split
    · rfl
    · split <;> rfl

theorem lineFeed_not_mem_decodeLenient (h : 0x0A ∉ xs) : '\n' ∉ (decodeLenient xs).toList :=
  Text.Utf8.not_mem_decodeLenient rfl (by decide) (by decide) h

/-- Without line feeds it is carriage returns that are dropped. -/
theorem dropWhile_breaks (h : '\n' ∉ cs) :
    cs.dropWhile (fun c => c = '\n' || c = '\r') = cs.dropWhile (· = '\r') := by
  induction cs with
  | nil => rfl
  | cons c cs ih =>
    rw [List.mem_cons, not_or] at h
    obtain ⟨hc, hcs⟩ := h
    by_cases hreturn : c = '\r'
    · subst hreturn
      exact ih hcs
    · have hbreak : (decide (c = '\n') || decide (c = '\r')) = false := by
        simp [Ne.symm hc, hreturn]
      rw [List.dropWhile_cons_of_neg (by simp [hbreak]),
        List.dropWhile_cons_of_neg (by simp [hreturn])]

/-- The line feed at the end of a line goes first, and then the carriage returns before it. -/
theorem withoutBreaks_append (h : '\n' ∉ cs) :
    withoutBreaks (cs ++ ['\n']) = withoutReturns cs := by
  have hreverse : '\n' ∉ cs.reverse := fun hmem => h (List.mem_reverse.1 hmem)
  rw [withoutBreaks, withoutReturns, ← dropWhile_breaks hreverse, List.reverse_append]
  rfl

/-- What a whole line says. -/
theorem withoutBreaks_decodeLenient (h : 0x0A ∉ xs) :
    withoutBreaks (decodeLenient (xs ++ [0x0A])).toList =
      withoutReturns (decodeLenient xs).toList := by
  have hfeed : Char.ofNat (0x0A : UInt8).toNat = '\n' := by decide
  rw [Text.Utf8.toList_decodeLenient_append (by decide), hfeed]
  exact withoutBreaks_append (lineFeed_not_mem_decodeLenient h)

/-! ### Line after line -/

theorem findIdx?_of_not_mem (h : 0x0A ∉ xs) : xs.findIdx? (· = 0x0A) = none :=
  List.findIdx?_eq_none_iff.2 fun _ hb => decide_eq_false fun heq => h (heq ▸ hb)

theorem drain_of_not_mem (h : 0x0A ∉ xs) : d.drain xs = ({ d with line := xs.reverse }, []) := by
  have hnone : xs.findIdx? (· = 0x0A) = none := findIdx?_of_not_mem h
  rw [drain]
  split
  · rfl
  · next hsome =>
    rw [hnone] at hsome
    cases hsome

theorem drain_cut (h : 0x0A ∉ xs) (ys : Bytes) :
    d.drain (xs ++ 0x0A :: ys) =
      let (next, out) := d.readLine (withoutReturns (decodeLenient xs).toList)
      ((next.drain ys).1, out ++ (next.drain ys).2) := by
  have hfound : (xs ++ 0x0A :: ys).findIdx? (· = 0x0A) = some xs.length := by
    have hnone : xs.findIdx? (· = 0x0A) = none := findIdx?_of_not_mem h
    have hhead : (0x0A :: ys).findIdx? (· = 0x0A) = some 0 := rfl
    rw [List.findIdx?_append, hnone, hhead]
    simp
  have htake : (xs ++ 0x0A :: ys).take (xs.length + 1) = xs ++ [0x0A] :=
    List.take_length_add_append 1
  have hdrop : (xs ++ 0x0A :: ys).drop (xs.length + 1) = ys :=
    List.drop_length_add_append 1
  rw [drain]
  split
  · next hnone =>
    rw [hfound] at hnone
    cases hnone
  · next i hsome =>
    obtain rfl : xs.length = i := Option.some.inj (hfound.symm.trans hsome)
    dsimp only
    rw [htake, hdrop, withoutBreaks_decodeLenient h]

/-- A line that is pushed is read at its line feed. -/
theorem push_cut (hline : d.line = []) (h : 0x0A ∉ xs) (ys : Bytes) :
    d.push (xs ++ 0x0A :: ys) =
      let (next, out) := d.readLine (withoutReturns (decodeLenient xs).toList)
      ((next.push ys).1, out ++ (next.push ys).2) := by
  obtain ⟨line, event, data⟩ := d
  subst hline
  have hne : ∀ b ∈ xs, b ≠ 0x0A := fun b hb heq => h (heq ▸ hb)
  rw [push_append, push_of_forall_ne _ hne, push_cons, step, if_pos rfl]
  simp

theorem push_eq_drain (hline : d.line = []) (xs : Bytes) : d.push xs = d.drain xs := by
  -- Both take what stands before the first line feed, and go on behind it in the same state.
  induction xs using Text.pieces_induction (0x0A : UInt8) generalizing d with
  | last xs h =>
    have hne : ∀ b ∈ xs, b ≠ 0x0A := fun b hb heq => h (heq ▸ hb)
    rw [drain_of_not_mem h, push_of_forall_ne _ hne, hline, List.append_nil]
  | cut xs ys h ih =>
    rw [drain_cut h, push_cut hline h]
    dsimp only
    rw [ih ((line_readLine ..).trans hline)]

end Lines

section Chunks

variable {d : Decoder}

theorem Between.forall_ne (h : d.Between) : ∀ b ∈ d.line.reverse, b ≠ 0x0A := by
  rintro b hb rfl
  exact h (List.mem_reverse.1 hb)

/-- One octet at a time, or line after line from a buffer: the decoder reads the same. -/
theorem push_eq_feed (h : d.Between) (chunk : Bytes) : d.push chunk = d.feed chunk := by
  have hkept : push { d with line := [] } d.line.reverse = (d, []) := by
    rw [push_of_forall_ne _ h.forall_ne, List.reverse_reverse, List.append_nil]
  rw [feed, ← push_eq_drain rfl, push_append, hkept, List.nil_append]

theorem Between.step (h : d.Between) (b : UInt8) : (d.step b).1.Between := by
  unfold Decoder.step
  -- A line feed ends what is kept, and any other octet may be kept.
  split
  · have hkept : ({ d with line := [] }.readLine
        (withoutReturns (decodeLenient d.line.reverse).toList)).1.line = [] := line_readLine ..
    intro hmem
    rw [hkept] at hmem
    nomatch hmem
  · next hb =>
    intro hmem
    rcases List.mem_cons.1 hmem with heq | hline
    · exact hb heq.symm
    · exact h hline

/-- A decoder is between two chunks again after each. -/
theorem Between.push (h : d.Between) (chunk : Bytes) : (d.push chunk).1.Between := by
  induction chunk generalizing d with
  | nil => exact h
  | cons b chunk ih => exact ih (h.step b)

theorem feedAll_eq_pushAll (h : d.Between) (chunks : List Bytes) :
    d.feedAll chunks = d.pushAll chunks := by
  induction chunks generalizing d with
  | nil => rfl
  | cons chunk chunks ih =>
    rw [feedAll, pushAll, ← push_eq_feed h]
    dsimp only
    rw [ih (h.push chunk)]

/-- In whatever way octets are cut, the chunks complete the frames that the octets complete in one
piece, and leave the decoder in the same state. From every state that it can be in between two
chunks, the decoder with a buffer does the same. -/
theorem decoding_ignores_cuts (d : Decoder) (chunks : List Bytes) :
    d.pushAll chunks = d.push chunks.flatten ∧
      (d.Between → (d.pushAll chunks).1.Between ∧
        d.feedAll chunks = d.feed chunks.flatten ∧
        d.feed chunks.flatten = d.push chunks.flatten) := by
  have hall : d.pushAll chunks = d.push chunks.flatten := d.pushAll_eq_push chunks
  refine ⟨hall, fun h => ?_⟩
  have hfeed : d.push chunks.flatten = d.feed chunks.flatten := push_eq_feed h chunks.flatten
  refine ⟨?_, ?_, hfeed.symm⟩
  · rw [hall]
    exact h.push chunks.flatten
  · rw [feedAll_eq_pushAll h, hall, hfeed]

/-- A decoder that has read a name, a line of data, and the first octet of `é`. -/
def amidCharacter : Decoder where
  line := 0xC3 :: (Text.Utf8.encode "data:").reverse
  event := some "note"
  data := ["α"]

/-- The line goes on with a zero and an octet that is none of UTF-8, and is cut between its carriage
return and its line feed. A line without an end follows the frame. -/
def cutChunks : List Bytes :=
  [[], [0xA9, 0x00, 0xFF], [0x0D], [], [0x0A, 0x0D], [0x0A, 0x64, 0x61], [0x74, 0xE2, 0x82]]

theorem amidCharacter_ignores_cuts :
    let read : Decoder × List Frame :=
      ({ line := [0x82, 0xE2, 0x74, 0x61, 0x64] }, [⟨"note", "α\né\x00\uFFFD"⟩])
    amidCharacter.Between ∧ amidCharacter.pushAll cutChunks = read ∧
      amidCharacter.push cutChunks.flatten = read ∧ amidCharacter.feedAll cutChunks = read ∧
      amidCharacter.feed cutChunks.flatten = read := by
  intro read
  have hbetween : amidCharacter.Between := by decide
  have hread : amidCharacter.pushAll cutChunks = read := by decide +kernel
  obtain ⟨hpush, hchunks⟩ := decoding_ignores_cuts amidCharacter cutChunks
  obtain ⟨-, hfeedAll, hfeed⟩ := hchunks hbetween
  have hwhole : amidCharacter.push cutChunks.flatten = read := hpush.symm.trans hread
  exact ⟨hbetween, hread, hwhole, hfeedAll.trans (hfeed.trans hwhole), hfeed.trans hwhole⟩

end Chunks

end PipelineConsole.Frame.Decoder
