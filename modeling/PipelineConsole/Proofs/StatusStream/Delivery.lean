import PipelineConsole.Proofs.StatusStream.Wire

/-!
# Events arrive as they were sent

The receiver of a stream feeds a decoder with chunks, in whatever way the network cuts them, and
reads an event from every frame that a chunk completes. As chunks come in, the frames are those of
the events so far, in the order in which these were sent; after the last chunk they are those of all
events, and every frame is read as its event.

## Main definitions

* `Decoder.pushAll` — a decoder that is fed with chunks

## Main results

* `Decoder.pushAll_eq_push` — the chunks do not matter
* `StatusEvent.frames_prefix` — no frame comes out of turn while chunks are still missing
* `StatusEvent.frames_of_chunks` — one frame for every event, which is read as the event
-/

namespace PipelineConsole

open Text.Utf8 (Bytes)

namespace Frame.Decoder

/-- Reads chunks: the state after them and the frames that they complete. -/
def pushAll : Decoder → List Bytes → Decoder × List Frame
  | d, [] => (d, [])
  | d, chunk :: rest =>
    let (next, out) := d.push chunk
    let (last, later) := pushAll next rest
    (last, out ++ later)

/-- Chunks are read like their octets in one piece. -/
theorem pushAll_eq_push (d : Decoder) (chunks : List Bytes) :
    d.pushAll chunks = d.push chunks.flatten := by
  induction chunks generalizing d with
  | nil => rfl
  | cons chunk rest ih =>
    rw [pushAll, List.flatten_cons, push_append]
    dsimp only
    rw [ih]

/-- Later chunks take no frame back. -/
theorem pushAll_append (d : Decoder) (early late : List Bytes) :
    d.pushAll (early ++ late) =
      (((d.pushAll early).1.pushAll late).1,
        (d.pushAll early).2 ++ ((d.pushAll early).1.pushAll late).2) := by
  simp only [pushAll_eq_push, List.flatten_append, push_append]

end Frame.Decoder

namespace StatusEvent

variable {events : List StatusEvent}

/-- While chunks are still missing, the frames are those of the first events. -/
theorem frames_prefix {early late : List Bytes} (h : (early ++ late).flatten = wire events) :
    (Frame.Decoder.pushAll {} early).2 <+: events.map frame := by
  have hall : (Frame.Decoder.pushAll {} (early ++ late)).2 = events.map frame := by
    rw [Frame.Decoder.pushAll_eq_push, h, push_wire]
  rw [Frame.Decoder.pushAll_append] at hall
  exact ⟨_, hall⟩

/-- However the octets of written events are cut, the decoder gives one frame for every event, in
order, and waits for the next line as it did at the start. Every frame is read as its event. -/
theorem frames_of_chunks {chunks : List Bytes} (h : chunks.flatten = wire events) :
    let received := Frame.Decoder.pushAll {} chunks
    received.1 = {} ∧ received.2 = events.map frame ∧
      received.2.map (fun f => read f.event f.data) = events.map .ok := by
  intro received
  have hreceived : received = ({}, events.map frame) := by
    rw [← push_wire, ← h, ← Frame.Decoder.pushAll_eq_push]
  rw [hreceived]
  refine ⟨rfl, rfl, ?_⟩
  rw [List.map_map]
  exact List.map_congr_left fun e _ => read_data e

/-- Three events, the last of which has line breaks and quotes in its message. -/
def threeEvents : List StatusEvent :=
  let time : Timestamp := ⟨⟨-44, 3, 15, by decide⟩, 43199, 1999999999, by decide⟩
  [.heartbeat time,
    .batchUpdate [⟨"a:b", .paused, some .running⟩, ⟨"", .running, none⟩] time,
    .fault ⟨some "zürich", 65535, "line\r\n\ndata: \"two\"\t\u0000"⟩ time]

/-- They are read from single octets, too. -/
theorem threeEvents_frames :
    let received := Frame.Decoder.pushAll {} ((wire threeEvents).map fun b => [b])
    received.1 = {} ∧ received.2 = threeEvents.map frame ∧
      received.2.map (fun f => read f.event f.data) = threeEvents.map .ok := by
  have hcut : ((wire threeEvents).map fun b => [b]).flatten = wire threeEvents := by
    rw [← List.flatMap_def, List.flatMap_singleton']
  exact frames_of_chunks hcut

end StatusEvent

end PipelineConsole
