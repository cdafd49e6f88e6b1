import Mathlib.Data.List.Induction
import PipelineConsole.Backend.Remote
import PipelineConsole.Proofs.Url.Reader
import PipelineConsole.Sync.HttpSource

/-!
# What added segments mean

Whoever gets a request cuts its path at the slashes and decodes what stands between them. This
should give the segments of the address that the request is based on, followed by those that were
added: an id that is added is one segment, whatever it is made of, and different ids are different
segments.

It does, unless an added segment stands for a place, or holds a tab or a line end. Places are
skipped, and so are tabs and line ends, even if a place is what they leave behind. The other
exceptions are bases that have next to no path: where nothing is added to a path that is just a
slash, the slash stays, and of a path of two slashes one is lost.

## Main definitions

* `Url.meaning`, `Url.Path.meanings` — what is read from segments, and from a path
* `Url.stem` — the segments of a base, without an empty one at the end
* `Url.Extends` — the base and the added segments are no exception

## Main results

* `Url.addSegments_means_iff` — the segments with more of them mean what they should
* `Url.Path.meanings_segments` — a path means what its segments do
* `Remote.path_tells_segments_iff` — the addresses of both clients
* `Remote.added_segments_reshape_path` — a path that is reshaped, and two ids with one address
-/

namespace PipelineConsole

open Text.Utf8 (Bytes)

namespace Url

/-- The octets that a segment stands for. -/
def meaning (s : String) : Bytes := Http.Percent.decode (Text.Utf8.encode s)

/-- What is read from a path: the octets between its slashes, decoded. -/
def Path.meanings (p : Path) : List Bytes := ((Http.Route.parts? p.text).getD []).map meaning

/-- The segments without an empty one at their end. -/
def stem (ss : List String) : List String := if ss.getLast? = some "" then ss.dropLast else ss

/-- Some segments can be added to a path as they are. -/
structure Extends (ss added : List String) : Prop where
  plain : ∀ s ∈ added, PlainSegment s
  not_root : added = [] → ss ≠ [""]
  not_slashes : added ≠ [] → ss ≠ ["", ""]

/-! ### One segment -/

section Segment

variable {special : Bool} {ss : List String} {s : String}

theorem meaning_encodeSegment (special : Bool) (s : String) :
    meaning (encodeSegment special s) = Text.Utf8.encode s :=
  decode_encodeSegment special s

theorem encodeSegment_ne_empty (h : s ≠ "") : encodeSegment special s ≠ "" := by
  intro heq
  have hmeaning := meaning_encodeSegment special s
  rw [heq] at hmeaning
  exact Text.Utf8.encode_ne_nil h hmeaning.symm

/-- Only one segment is added at a time. -/
theorem length_addSegment_le (special : Bool) (ss : List String) (s : String) :
    (addSegment special ss s).length ≤ (grounds ss).length + 1 := by
  unfold addSegment
  dsimp only
  rw [← grounds]
  split
  · rw [List.length_append, List.length_dropLast]
    exact Nat.add_le_add_right (Nat.sub_le _ _) 1
  · split <;> exact Nat.le_of_eq List.length_append

theorem length_grounds_le (ss : List String) : (grounds ss).length ≤ ss.length := by
  unfold grounds
  split
  · exact Nat.zero_le _
  · exact Nat.le_refl _

/-- A segment that means itself where it is added is plain, and the segments before it are as they
were. -/
theorem plain_of_meaning {before : List Bytes} (hs : s ≠ "")
    (h : (addSegment special ss s).map meaning = before ++ [Text.Utf8.encode s]) :
    PlainSegment s ∧ (grounds ss).map meaning = before := by
  have hempty (kept : List String) :
      ¬ (kept ++ [""]).map meaning = before ++ [Text.Utf8.encode s] := by
    intro heq
    rw [List.map_append, List.map_singleton] at heq
    have hlast :=
      (List.append_inj' heq (List.length_singleton.trans List.length_singleton.symm)).2
    exact Text.Utf8.encode_ne_nil hs (List.singleton_inj.1 hlast).symm
  unfold addSegment at h
  dsimp only at h
  rw [← grounds] at h
  split at h
  · exact absurd h (hempty _)
  · next habove =>
    split at h
    · exact absurd h (hempty _)
    · next hhere =>
      rw [List.map_append, List.map_singleton] at h
      obtain ⟨hbefore, hlast⟩ :=
        List.append_inj' h (List.length_singleton.trans List.length_singleton.symm)
      have hmeaning := meaning_encodeSegment special (.ofList (s.toList.filter (!isDropped ·)))
      rw [encodeSegment, String.toList_ofList, List.singleton_inj.1 hlast] at hmeaning
      have hkept : s.toList.filter (!isDropped ·) = s.toList := by
        have hsame := congrArg String.toList (Text.Utf8.encode_injective hmeaning)
        rw [String.toList_ofList] at hsame
        exact hsame.symm
      rw [hkept] at habove hhere
      refine ⟨?_, hbefore⟩
      exact
        { not_here := fun heq => hhere (congrArg String.toList heq)
          not_above := fun heq => habove (congrArg String.toList heq)
          kept := fun c hc => by simpa using List.filter_eq_self.1 hkept c hc }

end Segment

/-! ### All segments -/

section Segments

variable {special : Bool} {ss added : List String}

theorem length_foldl_addSegment_le (special : Bool) (ss added : List String) :
    (grounds (added.foldl (addSegment special) ss)).length ≤
      (grounds ss).length + added.length := by
  induction added generalizing ss with
  | nil => exact Nat.le_refl _
  | cons s rest ih =>
    have hrest := ih (addSegment special ss s)
    have hfirst := length_grounds_le (addSegment special ss s)
    have hone := length_addSegment_le special ss s
    rw [List.foldl_cons, List.length_cons]
    omega

/-- Plain segments are added one after another. -/
theorem foldl_addSegment_of_plain (hne : added ≠ []) (hadded : ∀ s ∈ added, s ≠ "")
    (hplain : ∀ s ∈ added, PlainSegment s) :
    added.foldl (addSegment special) ss = grounds ss ++ added.map (encodeSegment special) := by
  induction added generalizing ss with
  | nil => exact absurd rfl hne
  | cons s rest ih =>
    obtain ⟨hs, hrest⟩ := List.forall_mem_cons.1 hadded
    obtain ⟨hplains, hplainrest⟩ := List.forall_mem_cons.1 hplain
    rw [List.foldl_cons, addSegment_of_plain hplains]
    cases rest with
    | nil => rfl
    | cons next rest =>
      have hmore : grounds ss ++ [encodeSegment special s] ≠ [""] := by
        intro heq
        have hlast := congrArg List.getLast? heq
        rw [List.getLast?_concat] at hlast
        exact encodeSegment_ne_empty hs (Option.some.inj hlast)
      rw [ih (List.cons_ne_nil _ _) hrest hplainrest, grounds_of_ne hmore, List.append_assoc]
      rfl

/-- What segments mean that do not mean nothing. -/
theorem grounds_of_meaning {before : List Bytes} (hne : added ≠ []) (hadded : ∀ s ∈ added, s ≠ "")
    (h : ss.map meaning = before ++ added.map Text.Utf8.encode) : grounds ss = ss := by
  refine grounds_of_ne ?_
  rintro rfl
  obtain ⟨s, hs⟩ := List.exists_mem_of_ne_nil added hne
  have hmem : Text.Utf8.encode s ∈ [""].map meaning :=
    h ▸ List.mem_append_right _ (List.mem_map_of_mem hs)
  exact Text.Utf8.encode_ne_nil (hadded s hs) (List.mem_singleton.1 hmem)

/-- Segments that mean themselves where they are added are plain. -/
theorem plain_of_foldl {before : List Bytes} (hne : added ≠ []) (hadded : ∀ s ∈ added, s ≠ "")
    (h : (added.foldl (addSegment special) ss).map meaning =
      before ++ added.map Text.Utf8.encode) :
    (∀ s ∈ added, PlainSegment s) ∧ (grounds ss).map meaning = before := by
  -- From the last segment to the first: each is the last that is there, and leaves those before it.
  induction added using List.reverseRecOn with
  | nil => exact absurd rfl hne
  | append_singleton rest s ih =>
    have hrest : ∀ t ∈ rest, t ≠ "" := fun t ht => hadded t (List.mem_append_left _ ht)
    have hs : s ≠ "" := hadded s (List.mem_append_right _ (List.mem_singleton_self s))
    rw [List.foldl_append, List.map_append, ← List.append_assoc] at h
    obtain ⟨hplain, hmeaning⟩ := plain_of_meaning hs h
    by_cases hnil : rest = []
    · subst hnil
      rw [List.foldl_nil, List.map_nil, List.append_nil] at hmeaning
      exact ⟨fun t ht => List.mem_singleton.1 ht ▸ hplain, hmeaning⟩
    · have hgrounds : grounds (rest.foldl (addSegment special) ss) =
          rest.foldl (addSegment special) ss := by
        refine grounds_of_ne fun heq => ?_
        rw [heq, grounds, if_pos rfl] at hmeaning
        exact hnil (List.map_eq_nil_iff.1 (List.append_eq_nil_iff.1 hmeaning.symm).2)
      rw [hgrounds] at hmeaning
      obtain ⟨hall, hbefore⟩ := ih hnil hrest hmeaning
      refine ⟨fun t ht => ?_, hbefore⟩
      rcases List.mem_append.1 ht with ht | ht
      · exact hall t ht
      · exact List.mem_singleton.1 ht ▸ hplain

/-! ### Bases -/

theorem withoutEmptyEnd_eq_stem (h : ss ≠ [""]) : withoutEmptyEnd ss = stem ss := by
  unfold withoutEmptyEnd stem
  by_cases hlast : ss.getLast? = some ""
  · rw [if_pos ⟨hlast, h⟩, if_pos hlast]
  · rw [if_neg fun hboth => hlast hboth.1, if_neg hlast]

theorem eq_slashes_of_stem (h : stem ss = [""]) : ss = [""] ∨ ss = ["", ""] := by
  unfold stem at h
  split at h
  · next hlast =>
    right
    obtain ⟨front, rfl⟩ := List.getLast?_eq_some_iff.1 hlast
    rw [List.dropLast_concat] at h
    rw [h]
    rfl
  · exact .inl h

/-- What segments are added to is what a base has without an empty segment at the end, unless the
base is two slashes. -/
theorem grounds_withoutEmptyEnd (h : ss ≠ ["", ""]) : grounds (withoutEmptyEnd ss) = stem ss := by
  by_cases hroot : ss = [""]
  · subst hroot
    rfl
  · rw [withoutEmptyEnd_eq_stem hroot]
    exact grounds_of_ne fun heq => (eq_slashes_of_stem heq).elim hroot h

theorem length_grounds_withoutEmptyEnd_le (ss : List String) :
    (grounds (withoutEmptyEnd ss)).length ≤ (stem ss).length := by
  by_cases hslashes : ss = ["", ""]
  · subst hslashes
    exact Nat.zero_le 1
  · exact Nat.le_of_eq (congrArg List.length (grounds_withoutEmptyEnd hslashes))

/-- The segments with more of them mean those of the base and the added ones exactly if these can be
added as they are. -/
theorem addSegments_means_iff (hadded : ∀ s ∈ added, s ≠ "") :
    (addSegments special ss added).map meaning =
        (stem ss).map meaning ++ added.map Text.Utf8.encode ↔ Extends ss added := by
  constructor
  · intro h
    by_cases hnil : added = []
    · subst hnil
      refine ⟨fun _ hs => (nomatch hs), ?_, fun hne => absurd rfl hne⟩
      rintro - rfl
      cases h
    · -- If a segment had been skipped, there would be too few of them.
      have hgrounds := grounds_of_meaning hnil hadded h
      have hlength := congrArg List.length h
      rw [List.length_map, List.length_append, List.length_map, List.length_map] at hlength
      have hmost := length_foldl_addSegment_le special (withoutEmptyEnd ss)
        (added.filter fun s => s ≠ here ∧ s ≠ above)
      rw [← addSegments, hgrounds] at hmost
      have hbase := length_grounds_withoutEmptyEnd_le ss
      have hfilter : added.filter (fun s => s ≠ here ∧ s ≠ above) = added := by
        have hle := List.length_filter_le (fun s => s ≠ here ∧ s ≠ above) added
        exact List.filter_sublist.eq_of_length (by omega)
      rw [addSegments, hfilter] at h
      obtain ⟨hplain, hbefore⟩ := plain_of_foldl hnil hadded h
      refine ⟨hplain, fun heq => absurd heq hnil, ?_⟩
      rintro - rfl
      cases hbefore
  · intro h
    by_cases hnil : added = []
    · subst hnil
      show (withoutEmptyEnd ss).map meaning = _
      rw [withoutEmptyEnd_eq_stem (h.not_root rfl), List.map_nil, List.append_nil]
    · have hfilter : added.filter (fun s => s ≠ here ∧ s ≠ above) = added :=
        List.filter_eq_self.2 fun s hs =>
          decide_eq_true ⟨(h.plain s hs).not_here, (h.plain s hs).not_above⟩
      rw [addSegments, hfilter, foldl_addSegment_of_plain hnil hadded h.plain,
        grounds_withoutEmptyEnd (h.not_slashes hnil), List.map_append, List.map_map]
      have hmeanings : added.map (meaning ∘ encodeSegment special) =
          added.map Text.Utf8.encode :=
        List.map_congr_left fun s _ => by rw [Function.comp_apply, meaning_encodeSegment]
      rw [hmeanings]

/-! ### Paths -/

/-- Adding segments brings no slash into them. -/
theorem cut_addSegments (h : (Path.segments ss).Cut) :
    (Path.segments (addSegments special ss added)).Cut := by
  have hstep (ss : List String) (s : String) (hss : ∀ t ∈ ss, '/' ∉ t.toList) :
      ∀ t ∈ addSegment special ss s, '/' ∉ t.toList := by
    have hgrounds : ∀ t ∈ grounds ss, '/' ∉ t.toList := by
      intro t ht
      unfold grounds at ht
      split at ht
      · cases ht
      · exact hss t ht
    have hempty : '/' ∉ "".toList := List.not_mem_nil
    have hencoded : '/' ∉ (encode (segmentMarks special)
        (s.toList.filter (!isDropped ·))).toList := by
      have hslash :=
        slash_not_mem_encodeSegment special (.ofList (s.toList.filter (!isDropped ·)))
      rwa [encodeSegment, String.toList_ofList] at hslash
    intro t ht
    unfold addSegment at ht
    dsimp only at ht
    rw [← grounds] at ht
    split at ht
    · rcases List.mem_append.1 ht with ht | ht
      · exact hgrounds t (List.dropLast_subset _ ht)
      · exact List.mem_singleton.1 ht ▸ hempty
    · split at ht
      · rcases List.mem_append.1 ht with ht | ht
        · exact hgrounds t ht
        · exact List.mem_singleton.1 ht ▸ hempty
      · rcases List.mem_append.1 ht with ht | ht
        · exact hgrounds t ht
        · exact List.mem_singleton.1 ht ▸ hencoded
  have hfold (added ss : List String) (hss : ∀ t ∈ ss, '/' ∉ t.toList) :
      ∀ t ∈ added.foldl (addSegment special) ss, '/' ∉ t.toList := by
    induction added generalizing ss with
    | nil => exact hss
    | cons s rest ih => exact ih _ (hstep ss s hss)
  refine hfold _ _ fun t ht => h t ?_
  unfold withoutEmptyEnd at ht
  split at ht
  · exact List.dropLast_subset _ ht
  · exact ht

/-- A path that is cut means what its segments do. -/
theorem Path.meanings_segments (h : (Path.segments ss).Cut) :
    (Path.segments ss).meanings = ss.map meaning := by
  by_cases hnil : ss = []
  · subst hnil
    rfl
  · rw [Path.meanings, Http.Route.parts?_text hnil h, Option.getD_some]

end Segments

end Url

/-! ### Addresses -/

namespace Remote

open Url (meaning stem Extends PlainSegment)

section Address

variable {base : String} {u url url' : Url} {ss added added' : List String}

theorem address_of_read (hread : Url.read base = .ok u) (hpath : u.path = .segments ss)
    (added : List String) :
    address base added =
      .ok { u with path := .segments (Url.addSegments (Url.isSpecial u.scheme) ss added) } := by
  have hunder : (Url.read base).toOption.bind (·.under? added) =
      some { u with path := .segments (Url.addSegments (Url.isSpecial u.scheme) ss added) } := by
    simp only [hread, Except.toOption, Option.bind_some, Url.under?, hpath]
  rw [address, hunder]

/-- The path of an address means what the segments do that it is made of. -/
theorem meanings_address (hread : Url.read base = .ok u) (hpath : u.path = .segments ss)
    (hurl : address base added = .ok url) :
    url.path.meanings = (Url.addSegments (Url.isSpecial u.scheme) ss added).map meaning := by
  rw [address_of_read hread hpath] at hurl
  rw [← Except.ok.inj hurl]
  have hcut : u.path.Cut := Url.cut_of_read hread
  rw [hpath] at hcut
  exact Url.Path.meanings_segments (Url.cut_addSegments hcut)

/-- The clients of the services and of the console come to the same address below a base. Whoever
gets the request reads the segments of the base and then the added ones from its path, exactly if
these can be added as they are. Where they can, different segments have different paths. -/
theorem path_tells_segments_iff (hread : Url.read base = .ok u) (hpath : u.path = .segments ss) :
    (∀ added, (∀ s ∈ added, s ≠ "") → ∃ url, address base added = .ok url ∧
      (∀ token timeLimit, ∃ request, HttpSource.get ⟨base, token, timeLimit⟩ added = .ok request ∧
        request.url = url) ∧
      (url.path.meanings = (stem ss).map meaning ++ added.map Text.Utf8.encode ↔
        Extends ss added)) ∧
    ∀ added added' url url', (∀ s ∈ added, s ≠ "") → (∀ s ∈ added', s ≠ "") →
      Extends ss added → Extends ss added' → address base added = .ok url →
      address base added' = .ok url' → url.path.text = url'.path.text → added = added' := by
  have hmeans (added : List String) (hadded : ∀ s ∈ added, s ≠ "") (url : Url)
      (hurl : address base added = .ok url) :
      url.path.meanings = (stem ss).map meaning ++ added.map Text.Utf8.encode ↔
        Extends ss added := by
    rw [meanings_address hread hpath hurl]
    exact Url.addSegments_means_iff hadded
  constructor
  · intro added hadded
    refine ⟨_, address_of_read hread hpath added, fun token timeLimit => ?_,
      hmeans added hadded _ (address_of_read hread hpath added)⟩
    simp only [HttpSource.get, hread, Url.under?, hpath]
    exact ⟨_, rfl, rfl⟩
  · intro added added' url url' hadded hadded' hext hext' hurl hurl' htext
    have hmeanings : url.path.meanings = url'.path.meanings := by
      rw [Url.Path.meanings, Url.Path.meanings, htext]
    rw [(hmeans added hadded url hurl).2 hext, (hmeans added' hadded' url' hurl').2 hext']
      at hmeanings
    have hoctets : added.map Text.Utf8.encode = added'.map Text.Utf8.encode :=
      List.append_cancel_left hmeanings
    exact (List.map_inj_right fun _ _ => Text.Utf8.encode_injective).1 hoctets

end Address

/-! ### One base -/

/-- The address of an orchestrator, as a text. -/
def sampleBase : String := "http://backend:8081/api/v1"

/-- The address that is meant. -/
def sampleUrl : Url where
  scheme := "http"
  host := some (.domain "backend")
  port := some 8081
  path := .segments ["api", "v1"]

theorem read_sampleBase : Url.read sampleBase = .ok sampleUrl :=
  toOption_eq_some.1 (by decide +kernel)

/-- Characters that separate elsewhere are read back as part of an id. -/
theorem marks_stay_in_segment :
    let added := ["pipeline", "a/b?c#d%2F\\..", "health"]
    ∃ url, address sampleBase added = .ok url ∧
      url.path.meanings = ["api", "v1"].map meaning ++ added.map Text.Utf8.encode := by
  intro added
  have hext : Extends ["api", "v1"] added :=
    { plain := by decide
      not_root := by decide
      not_slashes := by decide }
  obtain ⟨url, hurl, -, hmeans⟩ := (path_tells_segments_iff read_sampleBase rfl).1 added (by decide)
  exact ⟨url, hurl, hmeans.2 hext⟩

/-- Two ids have one address, since a tab is dropped. Another id is not in the path, nor is the
segment before it, since it stands for the place above once its tab is dropped. So not all segments
are read back from the path. -/
theorem added_segments_reshape_path :
    address sampleBase ["pipeline", "orders\t", "health"] =
        address sampleBase ["pipeline", "orders", "health"] ∧
      address sampleBase ["pipeline", ".\t.", "health"] = address sampleBase ["", "health"] ∧
      ¬ ∀ (base : String) (u url : Url) (ss added : List String), Url.read base = .ok u →
        u.path = .segments ss → (∀ s ∈ added, s ≠ "") → address base added = .ok url →
        url.path.meanings = (stem ss).map meaning ++ added.map Text.Utf8.encode := by
  have haddress (added : List String) := address_of_read read_sampleBase rfl added
  refine ⟨?_, ?_, fun h => ?_⟩
  · rw [haddress, haddress]
    rfl
  · rw [haddress, haddress]
    rfl
  · have hmeans := h sampleBase sampleUrl _ ["api", "v1"] ["pipeline", "orders\t"] read_sampleBase
      rfl (by decide) (haddress _)
    rw [meanings_address read_sampleBase rfl (haddress _)] at hmeans
    exact absurd hmeans (by decide +kernel)

end Remote

end PipelineConsole
