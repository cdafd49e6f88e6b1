import PipelineConsole.Http.Extract
import PipelineConsole.Http.Route
import PipelineConsole.Proofs.Http.Percent
import PipelineConsole.Proofs.Text.Pieces
import PipelineConsole.Url.Basic

/-!
# Segments on their way

A segment that is added to an address is encoded so that it stays one segment. Whoever the request
comes to cuts the path into the same segments and reads the text back.

## Main definitions

* `Url.encodeSegment` — a segment as it is added
* `Url.PlainSegment` — segments that are added as they are

## Main results

* `Url.addSegments_of_plain` — plain segments are added one after another
* `Http.Route.parts?_text` — a path is cut into its segments
* `Http.Request.pathParameter_encodeSegment` — an encoded segment is read back
-/

namespace PipelineConsole

namespace Url

/-! ### Encoded segments -/

section Encode

variable {marks : String}

/-- A plain octet is ASCII, and none of the marks. -/
theorem isPlain_bounds {b : UInt8} (h : isPlain marks b) :
    b < 0x80 ∧ Char.ofNat b.toNat ∉ marks.toList := by
  simp only [isPlain, Bool.and_eq_true, decide_eq_true_eq, Bool.not_eq_true', List.contains_eq_mem,
    decide_eq_false_iff_not] at h
  exact ⟨UInt8.lt_trans h.1.2 (by decide), h.2⟩

end Encode

/-- A segment as it is added to an address. -/
def encodeSegment (special : Bool) (s : String) : String := encode (segmentMarks special) s.toList

section Segment

variable (special : Bool)

theorem mem_segmentMarks :
    '%' ∈ (segmentMarks special).toList ∧ '/' ∈ (segmentMarks special).toList := by
  cases special <;> decide

/-- The octets of an encoded segment are those of the segment. -/
theorem decode_encodeSegment (s : String) :
    Http.Percent.decode (Text.Utf8.encode (encodeSegment special s)) = Text.Utf8.encode s := by
  rw [encodeSegment, encode, Text.Utf8.encode_ofList]
  refine Http.Percent.decode_encode (fun b hb => ?_) _
  obtain ⟨hascii, hmarks⟩ := isPlain_bounds hb
  exact ⟨hascii, fun heq => hmarks (heq ▸ (mem_segmentMarks special).1)⟩

theorem encodeSegment_injective {s t : String}
    (h : encodeSegment special s = encodeSegment special t) :
    s = t := by
  have hbytes := decode_encodeSegment special s
  rw [h, decode_encodeSegment] at hbytes
  exact (Text.Utf8.encode_injective hbytes).symm

/-- No slash is left in an encoded segment. -/
theorem slash_not_mem_encodeSegment (s : String) : '/' ∉ (encodeSegment special s).toList := by
  rw [encodeSegment, encode, String.toList_ofList]
  exact Http.Percent.not_mem_encode (by decide) fun b _ hb heq =>
    (isPlain_bounds hb).2 (heq ▸ (mem_segmentMarks special).2)

end Segment

/-! ### Adding segments -/

/-- A segment that is added as it is: it stands for no place, and holds no tab and no line end. -/
structure PlainSegment (s : String) : Prop where
  not_here : s ≠ here
  not_above : s ≠ above
  kept : ∀ c ∈ s.toList, isDropped c = false

instance (s : String) : Decidable (PlainSegment s) :=
  -- Only the characters of the segment are tried, not all there are.
  have : Decidable (∀ c ∈ s.toList, isDropped c = false) := List.decidableBAll _ _
  decidable_of_iff (s ≠ here ∧ s ≠ above ∧ ∀ c ∈ s.toList, isDropped c = false)
    ⟨fun h => ⟨h.1, h.2.1, h.2.2⟩, fun h => ⟨h.not_here, h.not_above, h.kept⟩⟩

section Add

variable {special : Bool} {ss : List String}

/-- What there is of a path before segments are added: a path that is just a slash has no segment
so far. -/
def grounds (ss : List String) : List String := if ss = [""] then [] else ss

theorem grounds_of_ne (h : ss ≠ [""]) : grounds ss = ss := if_neg h

theorem addSegment_of_plain {s : String} (h : PlainSegment s) :
    addSegment special ss s = grounds ss ++ [encodeSegment special s] := by
  have hkept : s.toList.filter (!isDropped ·) = s.toList :=
    List.filter_eq_self.2 fun c hc => by rw [h.kept c hc]; rfl
  have habove : s.toList ≠ above.toList := fun heq => h.not_above (String.toList_inj.1 heq)
  have hhere : s.toList ≠ here.toList := fun heq => h.not_here (String.toList_inj.1 heq)
  simp only [addSegment, grounds, hkept, if_neg habove, if_neg hhere, encodeSegment]

theorem foldl_addSegment {added : List String} (hfirst : ss.head?.any (· ≠ ""))
    (h : ∀ s ∈ added, PlainSegment s) : added.foldl (addSegment special) ss =
      ss ++ added.map (encodeSegment special) := by
  induction added generalizing ss with
  | nil => rw [List.foldl_nil, List.map_nil, List.append_nil]
  | cons s added ih =>
    obtain ⟨hs, hadded⟩ := List.forall_mem_cons.1 h
    cases ss with
    | nil => cases hfirst
    | cons first rest =>
      have hss : first :: rest ≠ [""] := by
        rintro heq
        obtain ⟨rfl, -⟩ := List.cons.inj heq
        cases hfirst
      rw [List.foldl_cons, addSegment_of_plain hs, grounds_of_ne hss, List.cons_append,
        @ih (first :: (rest ++ _)) hfirst hadded]
      simp

/-- Plain segments are added one after another to segments without an empty one at either end. -/
theorem addSegments_of_plain {added : List String} (hfirst : ss.head?.any (· ≠ ""))
    (hlast : ss.getLast? ≠ some "") (h : ∀ s ∈ added, PlainSegment s) :
    addSegments special ss added =
      ss ++ added.map (encodeSegment special) := by
  have hadded : added.filter (fun s => s ≠ here ∧ s ≠ above) = added :=
    List.filter_eq_self.2 fun s hs => decide_eq_true ⟨(h s hs).not_here, (h s hs).not_above⟩
  have hend : withoutEmptyEnd ss = ss := if_neg fun hempty => hlast hempty.1
  rw [addSegments, hadded, hend, foldl_addSegment hfirst h]

end Add

/-- The written form of a path: each segment behind a slash. -/
theorem Path.toList_text (ss : List String) :
    (Path.segments ss).text.toList = (ss.map String.toList).flatMap ('/' :: ·) := by
  have hsegment (s : String) : ("/" ++ s).toList = '/' :: s.toList := by
    rw [String.toList_append]
    rfl
  rw [Path.text, String.toList_join, List.flatMap_map, List.flatMap_map]
  simp only [hsegment]

end Url

/-- A path is cut into its segments, if there is no slash in them. -/
theorem Http.Route.parts?_text {ss : List String} (hne : ss ≠ [])
    (h : ∀ s ∈ ss, '/' ∉ s.toList) : parts? (Url.Path.segments ss).text = some ss := by
  cases ss with
  | nil => exact absurd rfl hne
  | cons s rest =>
    have hparts : ∀ part ∈ (s :: rest).map String.toList, '/' ∉ part := by
      intro part hpart
      obtain ⟨s, hs, rfl⟩ := List.mem_map.1 hpart
      exact h s hs
    have hpieces := Text.pieces_flatMap hparts
    rw [parts?, Url.Path.toList_text, List.map_cons, List.flatMap_cons, List.cons_append]
    show some ((Text.pieces '/' (s.toList ++ _)).map String.ofList) = some (s :: rest)
    rw [hpieces, ← List.map_cons, List.map_map]
    exact congrArg some
      ((List.map_congr_left fun _ _ => String.ofList_toList).trans (List.map_id _))

/-- An encoded segment is read back. -/
theorem Http.Request.pathParameter_encodeSegment (name : String) (special : Bool) (s : String) :
    pathParameter name (Url.encodeSegment special s) = .ok s := by
  rw [pathParameter, Url.decode_encodeSegment, Text.Utf8.decode?_encode]

end PipelineConsole
