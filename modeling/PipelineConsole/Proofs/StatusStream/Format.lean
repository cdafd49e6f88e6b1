import Mathlib.Data.List.Basic
import PipelineConsole.Proofs.StatusStream.Chunks

/-!
# The format of event streams

The format tells what a whole stream means. Its octets are a text, which may start with a mark. The
text falls into lines, the lines fall into blocks at the empty ones, and a block that has data is a
frame. The decoder goes through the same stream line by line. Where carriage returns stand before
line feeds only, it gives the frames of the format, apart from two things: an empty name is a name
for it, where the format takes it for none, and a mark is part of the first line for it, so that it
does not know the field.

## Main definitions

* `EventStream.lines`, `EventStream.blocks` — a text in lines, and lines in blocks
* `EventStream.values`, `EventStream.frame?` — what a block says
* `EventStream.frames` — the frames of a stream in the format
* `EventStream.ReturnsPaired` — carriage returns stand before line feeds only
* `EventStream.heard`, `EventStream.sent?` — the lines and frames of the decoder
* `EventStream.NamedWell` — a block with data does not have an empty name

## Main results

* `EventStream.push_eq_heard` — what the decoder makes of a stream
* `EventStream.decoder_follows_format_iff` — when this is what the format says
-/

namespace PipelineConsole.EventStream

open PipelineConsole.Frame PipelineConsole.Frame.Decoder
open Text (pieces)
open Text.Utf8 (Bytes decodeLenient)

/-- A line, without its end. -/
abbrev Line := List Char

/-! ### What the format says -/

/-- The mark that may stand before a text. -/
def mark : Char := '\uFEFF'

/-- The characters of a stream start with the mark. -/
def Marked (cs : List Char) : Prop := cs.head? = some mark

instance (cs : List Char) : Decidable (Marked cs) := inferInstanceAs (Decidable (_ = _))

/-- A text without the mark before it. -/
def withoutMark (cs : List Char) : List Char := if Marked cs then cs.tail else cs

/-- Line feeds as the only ends of lines: a carriage return before a line feed is left out, and any
other one is replaced. -/
def unifyEnds : List Char → List Char
  | [] => []
  | c :: rest =>
    if c = '\r' then
      if rest.head? = some '\n' then unifyEnds rest else '\n' :: unifyEnds rest
    else c :: unifyEnds rest

/-- The lines of a text that have an end. -/
def lines (cs : List Char) : List Line := (pieces '\n' (unifyEnds cs)).dropLast

/-- The blocks of lines that have an empty line behind them. -/
def blocks (ls : List Line) : List (List Line) := (pieces [] ls).dropLast

/-- The value that a line gives to a field: what stands behind the first colon, if the field stands
before it. A line that starts with a colon is a comment. -/
def value? (field : String) (line : Line) : Option String :=
  if line.head? = some ':' then none
  else if line.takeWhile (· ≠ ':') = field.toList then
    some (.ofList (withoutSpace ((line.dropWhile (· ≠ ':')).drop 1)))
  else none

/-- The values that a block gives to a field, in order. -/
def values (field : String) (block : List Line) : List String := block.filterMap (value? field)

/-- The frame of a block: its data under the name given last, if it has data. -/
def frame? (block : List Line) : Option Frame :=
  let name := (values "event" block).getLast?.getD ""
  let data := values "data" block
  if data = [] then none
  else some ⟨if name = "" then defaultEvent else name, String.intercalate "\n" data⟩

/-- The frames of lines. -/
def framesOf (ls : List Line) : List Frame := (blocks ls).filterMap frame?

/-- The frames of a stream. -/
def frames (stream : Bytes) : List Frame :=
  framesOf (lines (withoutMark (decodeLenient stream).toList))

/-- Carriage returns stand directly before line feeds only. -/
def ReturnsPaired : Bytes → Prop
  | [] => True
  | b :: rest => (b = 0x0D → rest.head? = some 0x0A) ∧ ReturnsPaired rest

instance decidableReturnsPaired : DecidablePred ReturnsPaired
  | [] => .isTrue trivial
  | b :: rest =>
    have := decidableReturnsPaired rest
    inferInstanceAs (Decidable ((b = 0x0D → rest.head? = some 0x0A) ∧ ReturnsPaired rest))

/-! ### What the decoder does -/

/-- The lines that the decoder takes note of: the one behind a mark is lost. -/
def heard (stream : Bytes) : List Line :=
  let cs := (decodeLenient stream).toList
  if Marked cs then (lines cs.tail).tail else lines cs

/-- The frame that the decoder makes of a block. -/
def sent? (block : List Line) : Option Frame :=
  let data := values "data" block
  if data = [] then none
  else some ⟨(values "event" block).getLast?.getD defaultEvent, String.intercalate "\n" data⟩

/-- The name given last in a block with data is not empty. -/
def NamedWell (block : List Line) : Prop :=
  values "data" block ≠ [] → (values "event" block).getLast? ≠ some ""

instance (block : List Line) : Decidable (NamedWell block) :=
  inferInstanceAs (Decidable (_ → _))

section Blocks

variable {block : List Line} {ls : List Line} {line : Line}

/-- A name that is not empty is sent as it is. -/
theorem sent?_eq_frame? (h : NamedWell block) : sent? block = frame? block := by
  unfold sent? frame?
  by_cases hdata : values "data" block = []
  · simp [hdata]
  · cases hname : (values "event" block).getLast? with
    | none => simp [hdata]
    | some name =>
      have hne : name ≠ "" := fun heq => h hdata (heq ▸ hname)
      simp [hdata, hne]

/-- An empty name is sent as an empty name. -/
theorem event_of_sent? (h : ¬NamedWell block) : ∃ f, sent? block = some f ∧ f.event = "" := by
  unfold NamedWell at h
  rw [Classical.not_imp, Classical.not_not] at h
  obtain ⟨hdata, hname⟩ := h
  exact ⟨_, if_neg hdata, by rw [hname, Option.getD_some]⟩

/-- The format knows no frame with an empty name. -/
theorem event_ne_empty {f : Frame} (h : f ∈ framesOf ls) : f.event ≠ "" := by
  obtain ⟨block, -, hframe⟩ := List.mem_filterMap.1 h
  unfold frame? at hframe
  dsimp only at hframe
  split at hframe
  · nomatch hframe
  · obtain rfl := Option.some.inj hframe
    dsimp only
    split
    · decide
    · assumption

/-- The frames that are sent are frames of the format if and only if no empty name is sent. -/
theorem sent_eq_frames_iff {fs : List Frame} (hfs : ∀ f ∈ fs, f.event ≠ "") :
    (blocks ls).filterMap sent? = fs ↔
      (∀ block ∈ blocks ls, NamedWell block) ∧ framesOf ls = fs := by
  have hcongr (h : ∀ block ∈ blocks ls, NamedWell block) :
      (blocks ls).filterMap sent? = framesOf ls :=
    List.filterMap_congr fun block hblock => sent?_eq_frame? (h block hblock)
  constructor
  · rintro rfl
    have hnamed : ∀ block ∈ blocks ls, NamedWell block := by
      intro block hblock
      by_contra hnot
      obtain ⟨f, hsent, hevent⟩ := event_of_sent? hnot
      exact hfs f (List.mem_filterMap.2 ⟨block, hblock, hsent⟩) hevent
    exact ⟨hnamed, (hcongr hnamed).symm⟩
  · rintro ⟨hnamed, rfl⟩
    exact hcongr hnamed

/-! ### Blocks, line by line -/

/-- Reads lines: the state after them and the frames that they complete. -/
def readLines : Decoder → List Line → Decoder × List Frame
  | d, [] => (d, [])
  | d, line :: rest =>
    let (next, out) := d.readLine line
    let (last, later) := readLines next rest
    (last, out ++ later)

variable {d : Decoder}

theorem readLines_append (d : Decoder) (xs ys : List Line) :
    readLines d (xs ++ ys) =
      ((readLines (readLines d xs).1 ys).1,
        (readLines d xs).2 ++ (readLines (readLines d xs).1 ys).2) := by
  induction xs generalizing d with
  | nil => rfl
  | cons x xs ih =>
    rw [List.cons_append, readLines, readLines]
    dsimp only
    rw [ih, List.append_assoc]

/-- Field and value of a line are those that the format sees. -/
theorem fieldOf_eq (line : Line) :
    Decoder.fieldOf line =
      (line.takeWhile (· ≠ ':'), withoutSpace ((line.dropWhile (· ≠ ':')).drop 1)) := by
  unfold Decoder.fieldOf
  split
  · next hnone =>
    have hall : line.takeWhile (· ≠ ':') = line := by
      conv_rhs => rw [← List.takeWhile_append_dropWhile (p := (· ≠ ':')) (l := line), hnone]
      rw [List.append_nil]
    rw [hall, hnone]
    rfl
  · next hsome =>
    rw [hsome]
    rfl

theorem value?_eq (h : line.head? ≠ some ':') (field : String) :
    value? field line =
      if (Decoder.fieldOf line).1 = field.toList then some (.ofList (Decoder.fieldOf line).2)
      else none := by
  rw [fieldOf_eq, value?, if_neg h]

/-- A line that is not empty gives a value to the event, or one to the data, or none. -/
theorem readLine_of_ne_nil (h : line ≠ []) :
    d.readLine line =
      ({ d with
          event := (value? "event" line).or d.event
          data := (value? "data" line).toList ++ d.data }, []) := by
  unfold Decoder.readLine
  split
  · exact absurd rfl h
  · rfl
  · next hcolon =>
    have hcomment : line.head? ≠ some ':' := by
      intro hhead
      obtain ⟨rest, rfl⟩ := List.head?_eq_some_iff.1 hhead
      exact hcolon rest rfl
    rw [value?_eq hcomment, value?_eq hcomment]
    dsimp only
    split
    · next hevent =>
      have hdata : (Decoder.fieldOf line).1 ≠ "data".toList := hevent ▸ by decide
      rw [if_neg hdata]
      rfl
    · split <;> rfl

theorem values_cons (field : String) (line : Line) (block : List Line) :
    values field (line :: block) = (value? field line).toList ++ values field block := by
  unfold values
  cases hvalue : value? field line <;> simp [hvalue]

/-- Lines that are not empty are gathered: the last name counts, and all data does. -/
theorem readLines_of_not_mem (h : [] ∉ block) (d : Decoder) :
    readLines d block =
      ({ d with
          event := (values "event" block).getLast?.or d.event
          data := (values "data" block).reverse ++ d.data }, []) := by
  induction block generalizing d with
  | nil => rfl
  | cons line block ih =>
    rw [List.mem_cons, not_or] at h
    obtain ⟨hline, hblock⟩ := h
    rw [readLines, readLine_of_ne_nil (Ne.symm hline)]
    dsimp only
    rw [ih hblock]
    -- A line behind this one takes its name away, but not its data, which are kept in reverse.
    have hlast (name : Option String) (names : List String) :
        (name.toList ++ names).getLast? = names.getLast?.or name := by
      cases name <;> simp [List.getLast?_cons]
    have hrev (value : Option String) : value.toList.reverse = value.toList := by
      cases value <;> rfl
    simp only [values_cons, hlast, hrev, List.reverse_append, List.append_assoc, Option.or_assoc,
      List.nil_append]

/-- An empty line sends the frame of its block. -/
theorem readLines_cut (h : [] ∉ block) (rest : List Line) :
    (readLines {} (block ++ [] :: rest)).2 = (sent? block).toList ++ (readLines {} rest).2 := by
  rw [readLines_append, readLines_of_not_mem h]
  dsimp only
  rw [List.nil_append, readLines]
  dsimp only
  have hdispatch : Decoder.readLine
        { event := (values "event" block).getLast?.or none
          data := (values "data" block).reverse ++ [] } [] = ({}, (sent? block).toList) := by
    rw [Decoder.readLine, Decoder.dispatch, sent?, Option.or_none, List.append_nil]
    by_cases hdata : values "data" block = [] <;> simp [hdata]
  rw [hdispatch]

/-- The decoder sends the frames of the blocks that it reads. -/
theorem readLines_eq_sent (ls : List Line) :
    (readLines {} ls).2 = (blocks ls).filterMap sent? := by
  induction ls using Text.pieces_induction ([] : Line) with
  | last block h =>
    rw [readLines_of_not_mem h, blocks, Text.pieces_of_not_mem h]
    rfl
  | cut block rest h ih =>
    have hblocks : blocks (block ++ [] :: rest) = block :: blocks rest := by
      rw [blocks, Text.pieces_append_cons h, List.dropLast_cons_of_ne_nil (Text.pieces_ne_nil rest)]
      rfl
    rw [readLines_cut h, hblocks, ih]
    cases hsent : sent? block <;> simp [hsent]

end Blocks

/-! ### Lines, octet by octet -/

section Lines

variable {xs ys stream : Bytes} {cs : List Char}

/-- At most one carriage return stands before a line feed. -/
theorem ReturnsPaired.cut (h : ReturnsPaired (xs ++ 0x0A :: ys)) (hfeed : 0x0A ∉ xs) :
    (∃ front, 0x0D ∉ front ∧ (xs = front ∨ xs = front ++ [0x0D])) ∧ ReturnsPaired ys := by
  induction xs with
  | nil => exact ⟨⟨[], List.not_mem_nil, .inl rfl⟩, h.2⟩
  | cons b xs ih =>
    rw [List.mem_cons, not_or] at hfeed
    obtain ⟨hreturn, hrest⟩ := h
    obtain ⟨⟨front, hfront, hxs⟩, hys⟩ := ih hrest hfeed.2
    refine ⟨?_, hys⟩
    by_cases hb : b = 0x0D
    · subst hb
      -- A carriage return can only be the last octet before the line feed.
      have hnil : xs = [] := by
        cases xs with
        | nil => rfl
        | cons c xs =>
          have hc : c = 0x0A := Option.some.inj (hreturn rfl)
          exact absurd (hc ▸ List.mem_cons_self) hfeed.2
      subst hnil
      exact ⟨[], List.not_mem_nil, .inr rfl⟩
    · have hb' : 0x0D ∉ b :: front := by simp [Ne.symm hb, hfront]
      refine ⟨b :: front, hb', ?_⟩
      rcases hxs with rfl | rfl
      · exact .inl rfl
      · exact .inr rfl

/-- No carriage return stands in a line that has no end. -/
theorem ReturnsPaired.not_mem (h : ReturnsPaired xs) (hfeed : 0x0A ∉ xs) : 0x0D ∉ xs := by
  induction xs with
  | nil => exact List.not_mem_nil
  | cons b xs ih =>
    rw [List.mem_cons, not_or] at hfeed ⊢
    refine ⟨?_, ih h.2 hfeed.2⟩
    rintro rfl
    cases xs with
    | nil => nomatch h.1 rfl
    | cons c xs =>
      have hc : c = 0x0A := Option.some.inj (h.1 rfl)
      exact hfeed.2 (hc ▸ List.mem_cons_self)

theorem return_not_mem_decodeLenient (h : 0x0D ∉ xs) : '\r' ∉ (decodeLenient xs).toList :=
  Text.Utf8.not_mem_decodeLenient rfl (by decide) (by decide) h

theorem unifyEnds_append (h : '\r' ∉ cs) (rest : List Char) :
    unifyEnds (cs ++ rest) = cs ++ unifyEnds rest := by
  induction cs with
  | nil => rfl
  | cons c cs ih =>
    rw [List.mem_cons, not_or] at h
    rw [List.cons_append, unifyEnds, if_neg (Ne.symm h.1), ih h.2, List.cons_append]

theorem lines_of_not_mem (hreturn : '\r' ∉ cs) (hfeed : '\n' ∉ cs) : lines cs = [] := by
  have hunify : unifyEnds cs = cs := by
    rw [← List.append_nil cs, unifyEnds_append hreturn]
    rfl
  rw [lines, hunify, Text.pieces_of_not_mem hfeed]
  rfl

theorem lines_append_feed (hreturn : '\r' ∉ cs) (hfeed : '\n' ∉ cs) {ends : List Char}
    (hends : ends = ['\n'] ∨ ends = ['\r', '\n']) (rest : List Char) :
    lines (cs ++ (ends ++ rest)) = cs :: lines rest := by
  have hunify : unifyEnds (ends ++ rest) = '\n' :: unifyEnds rest := by
    rcases hends with rfl | rfl <;> rfl
  rw [lines, unifyEnds_append hreturn, hunify, Text.pieces_append_cons hfeed,
    List.dropLast_cons_of_ne_nil (Text.pieces_ne_nil _), lines]

theorem withoutReturns_append (cs : List Char) :
    withoutReturns (cs ++ ['\r']) = withoutReturns cs := by
  rw [withoutReturns, List.reverse_append, List.reverse_singleton, List.singleton_append,
    List.dropWhile_cons_of_pos (by simp), withoutReturns]

/-- Octets up to a line feed are a line of their own. -/
theorem lines_decodeLenient_cut (h : ReturnsPaired (xs ++ 0x0A :: ys)) (hfeed : 0x0A ∉ xs) :
    lines (decodeLenient (xs ++ 0x0A :: ys)).toList =
      withoutReturns (decodeLenient xs).toList :: lines (decodeLenient ys).toList := by
  obtain ⟨⟨front, hfront, hxs⟩, -⟩ := h.cut hfeed
  have hreturn : '\r' ∉ (decodeLenient front).toList := return_not_mem_decodeLenient hfront
  have hline : Char.ofNat (0x0A : UInt8).toNat = '\n' := by decide
  rw [Text.Utf8.toList_decodeLenient_append (by decide), hline]
  rcases hxs with rfl | rfl
  · rw [withoutReturns_of_not_mem hreturn]
    exact lines_append_feed hreturn (lineFeed_not_mem_decodeLenient hfeed) (.inl rfl) _
  · have hfeed' : 0x0A ∉ front := fun hmem => hfeed (List.mem_append_left _ hmem)
    have hreturn' : Char.ofNat (0x0D : UInt8).toNat = '\r' := by decide
    have hempty : (decodeLenient []).toList = [] := rfl
    rw [Text.Utf8.toList_decodeLenient_append (by decide), hreturn', hempty,
      withoutReturns_append, withoutReturns_of_not_mem hreturn, List.append_assoc]
    exact lines_append_feed hreturn (lineFeed_not_mem_decodeLenient hfeed') (.inr rfl) _

/-- The decoder reads the lines of the text. -/
theorem push_eq_readLines {d : Decoder} (hline : d.line = []) (h : ReturnsPaired stream) :
    (d.push stream).2 = (readLines d (lines (decodeLenient stream).toList)).2 := by
  induction stream using Text.pieces_induction (0x0A : UInt8) generalizing d with
  | last xs hfeed =>
    have hne : ∀ b ∈ xs, b ≠ 0x0A := fun b hb heq => hfeed (heq ▸ hb)
    rw [d.push_of_forall_ne hne, lines_of_not_mem (return_not_mem_decodeLenient (h.not_mem hfeed))
      (lineFeed_not_mem_decodeLenient hfeed)]
    rfl
  | cut xs ys hfeed ih =>
    rw [push_cut hline hfeed, lines_decodeLenient_cut h hfeed, readLines]
    dsimp only
    rw [ih ((line_readLine ..).trans hline) (h.cut hfeed).2]

/-! ### The mark -/

/-- The mark becomes a part of the first line. -/
theorem lines_mark (cs : List Char) :
    lines (mark :: cs) = match lines cs with
      | [] => []
      | line :: rest => (mark :: line) :: rest := by
  have hunify : unifyEnds (mark :: cs) = mark :: unifyEnds cs := rfl
  have hmark : mark ≠ '\n' := by decide
  rw [lines, hunify, pieces, if_neg hmark, lines]
  cases pieces '\n' (unifyEnds cs) with
  | nil => rfl
  | cons line rest => cases rest <;> rfl

/-- A line that starts with the mark is skipped. -/
theorem readLine_mark (line : Line) : Decoder.readLine {} (mark :: line) = ({}, []) := by
  rw [readLine_of_ne_nil (List.cons_ne_nil mark line)]
  rfl

theorem readLines_mark (cs : List Char) :
    (readLines {} (lines (mark :: cs))).2 = (readLines {} (lines cs).tail).2 := by
  rw [lines_mark]
  cases lines cs with
  | nil => rfl
  | cons line rest =>
    rw [readLines, readLine_mark]
    rfl

/-- What the decoder makes of a stream. -/
theorem push_eq_heard (h : ReturnsPaired stream) :
    (Decoder.push {} stream).2 = (blocks (heard stream)).filterMap sent? := by
  rw [push_eq_readLines rfl h, ← readLines_eq_sent, heard]
  split
  · next hmark =>
    -- The first line is skipped together with the mark that it starts with.
    obtain ⟨cs, hcs⟩ := List.head?_eq_some_iff.1 hmark
    rw [hcs, readLines_mark, List.tail_cons]
  · rfl

theorem heard_of_not_marked (h : ¬Marked (decodeLenient stream).toList) :
    framesOf (heard stream) = frames stream := by
  rw [frames, withoutMark, heard, if_neg h, if_neg h]

/-- The decoder gives the frames of the format if and only if no block with data that it reads has
an empty name and, where the stream starts with a mark, the line behind it does not matter. -/
theorem decoder_follows_format_iff (h : ReturnsPaired stream) :
    (Decoder.push {} stream).2 = frames stream ↔
      (∀ block ∈ blocks (heard stream), NamedWell block) ∧
        (Marked (decodeLenient stream).toList → framesOf (heard stream) = frames stream) := by
  have hnames : ∀ f ∈ frames stream, f.event ≠ "" := fun f hf => event_ne_empty hf
  rw [push_eq_heard h, sent_eq_frames_iff hnames]
  refine and_congr_right fun _ => ⟨fun hframes _ => hframes, fun hframes => ?_⟩
  by_cases hmark : Marked (decodeLenient stream).toList
  · exact hframes hmark
  · exact heard_of_not_marked hmark

/-- A comment behind the mark, a name that is given twice, data without a colon and with a faulty
octet, a block without data, fields that are not known, and a block without an end. -/
def mixedStream : Bytes :=
  Text.Utf8.encode "\uFEFF:\r\nevent:\nevent: a\r\n:\ndata\ndata:  b" ++
    0xFF :: Text.Utf8.encode "\r\n\r\nevent: c\n\ndata: x:y\nid: 7\n\nevent:\ndata: d"

theorem mixedStream_follows_format :
    ReturnsPaired mixedStream ∧
      frames mixedStream = [⟨"a", "\n b\uFFFD"⟩, ⟨"message", "x:y"⟩] ∧
      (Decoder.push {} mixedStream).2 = frames mixedStream := by
  have hpaired : ReturnsPaired mixedStream := by decide +kernel
  refine ⟨hpaired, by decide +kernel, (decoder_follows_format_iff hpaired).2 ⟨?_, ?_⟩⟩
  · decide +kernel
  · exact fun _ => by decide +kernel

/-- An empty name is told as it is, and data in the line behind a mark is lost. -/
theorem empty_name_and_mark_differ :
    let nameless := Text.Utf8.encode "event:\ndata: q\n\n"
    let marked := Text.Utf8.encode "\uFEFFdata: q\n\n"
    (ReturnsPaired nameless ∧ (Decoder.push {} nameless).2 = [⟨"", "q"⟩] ∧
        frames nameless = [⟨"message", "q"⟩]) ∧
      ReturnsPaired marked ∧ (Decoder.push {} marked).2 = [] ∧
        frames marked = [⟨"message", "q"⟩] := by
  refine ⟨⟨?_, ?_, ?_⟩, ?_, ?_, ?_⟩ <;> decide +kernel

end Lines

end PipelineConsole.EventStream
