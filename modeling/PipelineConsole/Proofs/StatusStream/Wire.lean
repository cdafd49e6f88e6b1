import PipelineConsole.Proofs.Json.Printer
import PipelineConsole.Proofs.Pipeline.Documents
import PipelineConsole.Proofs.Text.Utf8
import PipelineConsole.Sync.HttpSource

/-!
# Events on the wire

An event is written as a frame of two lines. The payload is printed without control characters, so
that it cannot break its line, and the decoder is back in its first state after every frame. As the
decoder takes one octet at a time, it does not matter how the octets are cut into chunks.

## Main definitions

* `StatusEvent.frame`, `StatusEvent.wire` — the frame of an event, and the octets of many

## Main results

* `StatusEvent.read_data` — a payload is read as its event
* `Decoder.push_write` — a frame is decoded as itself
* `StatusEvent.ofChunks_flatten` — the chunks do not matter
* `StatusEvent.ofChunks_wire` — written events are read back
-/

namespace PipelineConsole

open Text.Utf8 (Bytes encode encodeChars encodeChars_append)

/-! ### Payloads -/

open Json (Codec Field Fields)

/-- An optional status is a text when it is there. -/
theorem Status.lawful_option (depth : Nat) : Status.codec.option.Lawful depth :=
  Codec.lawful_option (lawful_codec depth) fun _ => Json.Tree.noConfusion

theorem StatusChange.lawful_codec (depth : Nat) : StatusChange.codec.Lawful (depth + 1) :=
  Codec.lawful_iso
    (Codec.lawful_record _ <|
      .cons (Field.lawful_required _ Codec.lawful_text) (by decide) <|
      .cons (Field.lawful_required _ (Status.lawful_codec depth)) (by decide) <|
      .cons (Field.lawful_omittable _ (Status.lawful_option depth)) (by decide) .done)
    fun _ => rfl

namespace StatusEvent

theorem lawful_statusUpdateCodec (depth : Nat) : statusUpdateCodec.Lawful (depth + 1) :=
  Codec.lawful_iso
    (Codec.lawful_record _ <|
      .cons (Field.lawful_required _ Codec.lawful_text) (by decide) <|
      .cons (Field.lawful_required _ (Status.lawful_codec depth)) (by decide) <|
      .cons (Field.lawful_omittable _ (Status.lawful_option depth)) (by decide) <|
      .cons (Field.lawful_required _ Codec.lawful_timestamp) (by decide) .done)
    fun _ => rfl

theorem lawful_batchUpdateCodec (depth : Nat) : batchUpdateCodec.Lawful (depth + 3) :=
  Codec.lawful_iso
    (Codec.lawful_record _ <|
      .cons (Field.lawful_required _ (Codec.lawful_list (StatusChange.lawful_codec depth)))
        (by decide) <|
      .cons (Field.lawful_required _ Codec.lawful_timestamp) (by decide) .done)
    fun _ => rfl

theorem lawful_heartbeatCodec (depth : Nat) : heartbeatCodec.Lawful (depth + 1) :=
  Codec.lawful_iso
    (Codec.lawful_record _ <|
      .cons (Field.lawful_required _ Codec.lawful_timestamp) (by decide) .done)
    fun _ => rfl

theorem lawful_faultCodec (depth : Nat) : faultCodec.Lawful (depth + 1) :=
  Codec.lawful_iso
    (Codec.lawful_record _ <|
      .cons (Field.lawful_omittable _ Codec.lawful_optionText) (by decide) <|
      .cons (Field.lawful_required _ Codec.lawful_uint16) (by decide) <|
      .cons (Field.lawful_required _ Codec.lawful_text) (by decide) <|
      .cons (Field.lawful_required _ Codec.lawful_timestamp) (by decide) .done)
    fun _ => rfl

theorem readPayload_write {α : Type} {c : Codec α} {depth : Nat} (h : c.Lawful depth)
    (hdepth : depth ≤ Json.maxDepth) (a : α) : readPayload c (c.write a) = .ok a := by
  unfold readPayload
  rw [h.read_write hdepth a]
  rfl

/-- A payload is read as its event. -/
theorem read_data (e : StatusEvent) : read e.eventName e.data = .ok e := by
  cases e with
  | statusUpdate change time =>
    have hread := readPayload_write (lawful_statusUpdateCodec 0) (by decide) (change, time)
    rw [eventName, read, if_pos rfl]
    exact congrArg (Except.map _) hread
  | batchUpdate changes time =>
    have hread := readPayload_write (lawful_batchUpdateCodec 0) (by decide) (changes, time)
    rw [eventName, read, if_neg (by decide), if_pos rfl]
    exact congrArg (Except.map _) hread
  | heartbeat time =>
    have hread := readPayload_write (lawful_heartbeatCodec 0) (by decide) time
    rw [eventName, read, if_neg (by decide), if_neg (by decide), if_pos rfl]
    exact congrArg (Except.map _) hread
  | fault e time =>
    have hread := readPayload_write (lawful_faultCodec 0) (by decide) (e, time)
    rw [eventName, read, if_neg (by decide), if_neg (by decide), if_neg (by decide), if_pos rfl]
    exact congrArg (Except.map _) hread

end StatusEvent

/-! ### Frames -/

namespace Frame.Decoder

variable (d : Decoder)

theorem push_cons (b : UInt8) (rest : Bytes) :
    d.push (b :: rest) =
      (((d.step b).1.push rest).1, (d.step b).2 ++ ((d.step b).1.push rest).2) := rfl

/-- The decoder may stop anywhere and go on from the state that it is in. -/
theorem push_append (xs ys : Bytes) :
    d.push (xs ++ ys) =
      (((d.push xs).1.push ys).1, (d.push xs).2 ++ ((d.push xs).1.push ys).2) := by
  induction xs generalizing d with
  | nil => rfl
  | cons b xs ih =>
    rw [List.cons_append, push_cons, push_cons, ih]
    dsimp only
    rw [List.append_assoc]

/-- Octets without a line feed are kept for the line that they belong to. -/
theorem push_of_forall_ne {xs : Bytes} (h : ∀ b ∈ xs, b ≠ 0x0A) :
    d.push xs = ({ d with line := xs.reverse ++ d.line }, []) := by
  induction xs generalizing d with
  | nil => rfl
  | cons b xs ih =>
    obtain ⟨hb, hxs⟩ := List.forall_mem_cons.1 h
    rw [push_cons, step, if_neg hb]
    dsimp only
    rw [ih _ hxs, List.reverse_cons, List.append_assoc]
    rfl

/-- Printed characters hold no line feed. -/
theorem ne_lineFeed_of_printable {cs : List Char} (h : Json.Printable cs) :
    ∀ b ∈ encodeChars cs, b ≠ 0x0A := by
  rintro b hb rfl
  obtain ⟨c, hc, hcode⟩ := Text.Utf8.mem_encodeChars_ascii hb (by decide)
  have hprinted := h c hc
  rw [hcode] at hprinted
  exact absurd hprinted (by decide)

theorem withoutReturns_of_not_mem {cs : List Char} (h : '\r' ∉ cs) : withoutReturns cs = cs := by
  have hdrop : cs.reverse.dropWhile (· = '\r') = cs.reverse := by
    cases hlast : cs.reverse with
    | nil => rfl
    | cons c rest =>
      have hc : c ∈ cs := List.mem_reverse.1 (hlast ▸ List.mem_cons_self)
      have hne : c ≠ '\r' := fun heq => h (heq ▸ hc)
      exact List.dropWhile_cons_of_neg (by simpa using hne)
  rw [withoutReturns, hdrop, List.reverse_reverse]

/-- Printed characters do not end with a carriage return. -/
theorem withoutReturns_of_printable {cs : List Char} (h : Json.Printable cs) :
    withoutReturns cs = cs :=
  withoutReturns_of_not_mem fun hmem => absurd (h _ hmem) (by decide)

/-- A line of printed characters is read as these characters. -/
theorem push_printable {d : Decoder} (hline : d.line = []) {cs : List Char}
    (h : Json.Printable cs) : d.push (encodeChars (cs ++ ['\n'])) = d.readLine cs := by
  obtain ⟨line, event, data⟩ := d
  subst hline
  -- The octets of the line are kept in reverse until the line feed comes.
  have hfeed : encodeChars ['\n'] = [0x0A] := by decide
  rw [encodeChars_append, hfeed, push_append, push_of_forall_ne _ (ne_lineFeed_of_printable h)]
  have hline : (Text.Utf8.decodeLenient (encodeChars cs)).toList = cs := by
    rw [Text.Utf8.decodeLenient_encodeChars, String.toList_ofList]
  rw [push_cons, step, if_pos rfl]
  dsimp only
  rw [List.append_nil, List.reverse_reverse, hline, withoutReturns_of_printable h, push]
  dsimp only
  rw [List.nil_append, List.append_nil]

theorem readLine_event (name : List Char) :
    d.readLine ("event: ".toList ++ name) = ({ d with event := some (.ofList name) }, []) := by
  rfl

theorem readLine_data (data : List Char) :
    d.readLine ("data: ".toList ++ data) = ({ d with data := .ofList data :: d.data }, []) := by
  rfl

/-- A frame is decoded as itself, and leaves nothing behind. -/
theorem push_write {f : Frame} (hevent : Json.Printable f.event.toList)
    (hdata : Json.Printable f.data.toList) : push {} (encode f.write) = ({}, [f]) := by
  have hname : Json.Printable ("event: ".toList ++ f.event.toList) :=
    Json.Printable.append (by decide) hevent
  have hvalue : Json.Printable ("data: ".toList ++ f.data.toList) :=
    Json.Printable.append (by decide) hdata
  have hlines : encode f.write =
      encodeChars ("event: ".toList ++ f.event.toList ++ ['\n']) ++
        (encodeChars ("data: ".toList ++ f.data.toList ++ ['\n']) ++
          encodeChars ([] ++ ['\n'])) := by
    rw [← encodeChars_append, ← encodeChars_append, encode, write]
    simp only [String.toList_append, List.append_assoc]
    rfl
  rw [hlines, push_append, push_printable rfl hname, readLine_event, push_append,
    push_printable rfl hvalue, readLine_data, push_printable rfl Json.Printable.nil, readLine]
  dsimp only [dispatch]
  simp

end Frame.Decoder

namespace StatusEvent

/-- The frame of an event. -/
def frame (e : StatusEvent) : Frame := ⟨e.eventName, e.data⟩

/-- The octets of events that are written one after another. -/
def wire (events : List StatusEvent) : Bytes := events.flatMap fun e => encode e.frame.write

theorem printable_eventName (e : StatusEvent) : Json.Printable e.eventName.toList := by
  cases e <;> rw [eventName] <;> decide

theorem push_frame (e : StatusEvent) :
    Frame.Decoder.push {} (encode e.frame.write) = ({}, [e.frame]) := by
  refine Frame.Decoder.push_write (printable_eventName e) ?_
  show Json.Printable (String.ofList e.payload.chars).toList
  rw [String.toList_ofList]
  exact Json.printable_chars e.payload

theorem push_wire (events : List StatusEvent) :
    Frame.Decoder.push {} (wire events) = ({}, events.map frame) := by
  induction events with
  | nil => rfl
  | cons e events ih =>
    have hwire : wire (e :: events) = encode e.frame.write ++ wire events := List.flatMap_cons
    rw [hwire, Frame.Decoder.push_append, push_frame, ih]
    rfl

theorem ofChunks_cons (d : Frame.Decoder) (chunk : Bytes) (rest : List Bytes) :
    ofChunks d (chunk :: rest) = (ofChunk d chunk).2 ++ ofChunks (ofChunk d chunk).1 rest := rfl

/-- What a stream tells does not depend on how it is cut into chunks. -/
theorem ofChunks_flatten (d : Frame.Decoder) (chunks : List Bytes) :
    ofChunks d chunks = (ofChunk d chunks.flatten).2 := by
  induction chunks generalizing d with
  | nil => rfl
  | cons chunk chunks ih =>
    rw [ofChunks_cons, ih, List.flatten_cons]
    simp only [ofChunk, Frame.Decoder.push_append, List.filterMap_append]

/-- Events that are written one after another are read back, in whatever chunks they come. -/
theorem ofChunks_wire {events : List StatusEvent} {chunks : List Bytes}
    (h : chunks.flatten = wire events) : ofChunks {} chunks = events.map .ok := by
  rw [ofChunks_flatten, h, ofChunk, push_wire]
  dsimp only
  rw [List.filterMap_map, ← List.filterMap_eq_map]
  congr 1
  funext e
  dsimp only [Function.comp, frame]
  rw [read_data]

end StatusEvent

end PipelineConsole
