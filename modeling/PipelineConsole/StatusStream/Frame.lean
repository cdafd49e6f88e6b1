import PipelineConsole.Text.Utf8

/-!
# Frames of an event stream

An event stream is a text of lines. A line gives the value of a field; an empty line sends the data
gathered so far as a frame. The decoder takes one octet at a time, so that the stream may arrive in
any number of chunks.

## Main definitions

* `Frame`, `Frame.write` — frames and their written form
* `Frame.Decoder`, `Decoder.push` — the decoder and the frames that a chunk completes
-/

namespace PipelineConsole

/-- A frame: the name of an event and its data. -/
structure Frame where
  event : String
  data : String
  deriving DecidableEq, Repr

namespace Frame

/-- The name of an event that has none. -/
def defaultEvent : String := "message"

/-- The written form of a frame whose data is one line. -/
def write (f : Frame) : String := "event: " ++ f.event ++ "\ndata: " ++ f.data ++ "\n\n"

/-- The state of the decoder: the octets of the unfinished line, last first, the event named last,
and the lines of data, last first. -/
structure Decoder where
  line : Text.Utf8.Bytes := []
  event : Option String := none
  data : List String := []
  deriving DecidableEq, Repr

namespace Decoder

/-- A line without the carriage returns at its end. -/
def withoutReturns (cs : List Char) : List Char := (cs.reverse.dropWhile (· = '\r')).reverse

/-- A value without one space at its start. -/
def withoutSpace : List Char → List Char
  | ' ' :: rest => rest
  | cs => cs

/-- The field and the value of a line: what stands before and after its first colon. -/
def fieldOf (cs : List Char) : List Char × List Char :=
  match cs.dropWhile (· ≠ ':') with
  | [] => (cs, [])
  | _ :: value => (cs.takeWhile (· ≠ ':'), withoutSpace value)

/-- An empty line: the data is sent, if there is any, and the event is forgotten. -/
def dispatch (d : Decoder) : Decoder × List Frame :=
  if d.data.isEmpty then ({ d with event := none }, [])
  else
    ({ d with event := none, data := [] },
      [⟨d.event.getD defaultEvent, String.intercalate "\n" d.data.reverse⟩])

/-- Reads a line. A line that starts with a colon is a comment; a field that is neither the event
nor data is skipped. -/
def readLine (d : Decoder) (cs : List Char) : Decoder × List Frame :=
  match cs with
  | [] => d.dispatch
  | ':' :: _ => (d, [])
  | cs =>
    let (field, value) := fieldOf cs
    if field = "event".toList then ({ d with event := some (.ofList value) }, [])
    else if field = "data".toList then ({ d with data := .ofList value :: d.data }, [])
    else (d, [])

/-- Reads an octet. -/
def step (d : Decoder) (b : UInt8) : Decoder × List Frame :=
  if b = 0x0A then
    let line := (Text.Utf8.decodeLenient d.line.reverse).toList
    { d with line := [] }.readLine (withoutReturns line)
  else ({ d with line := b :: d.line }, [])

/-- Reads a chunk: the state after it and the frames that it completes. -/
def push : Decoder → Text.Utf8.Bytes → Decoder × List Frame
  | d, [] => (d, [])
  | d, b :: rest =>
    let (next, out) := d.step b
    let (last, later) := push next rest
    (last, out ++ later)

end Decoder

end Frame

end PipelineConsole
