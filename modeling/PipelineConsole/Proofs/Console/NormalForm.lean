import PipelineConsole.Proofs.Console.IdList
import PipelineConsole.Proofs.Sync.StreamRequests

/-!
# Lists of ids in normal form

A text lists what stands between its commas. Reading it keeps each id once, where it occurs first.
What has been read is in normal form: written with commas again, it is read as it is, so that
a console that has accepted a list accepts what it has read.

## Main definitions

* `IdList.Holds`, `IdList.Lists` — what a text lists, with repeats
* `IdList.listed` — the same, computed

## Main results

* `IdList.lists_iff` — a text lists these ids and no others
* `IdList.pairwise_read` — ids are read in the order in which they first occur
* `IdList.read_intercalate_read` — what has been read is read again
* `IdList.read_is_normal` — all of this together
-/

namespace PipelineConsole

open Text (isBlank trimmed)

namespace IdList

/-- What stands between two commas is an id with blanks around it, or blanks only. -/
inductive Holds : List Char → List String → Prop
  | nothing {part : List Char} (hblank : ∀ c ∈ part, isBlank c = true) : Holds part []
  | id {front cs back : List Char} (hfront : ∀ c ∈ front, isBlank c = true)
      (hback : ∀ c ∈ back, isBlank c = true) (hne : cs ≠ [])
      (hfirst : isBlank (cs.head hne) = false) (hlast : isBlank (cs.getLast hne) = false) :
      Holds (front ++ cs ++ back) [.ofList cs]

/-- The ids that stand between the commas of a text, with repeats. -/
inductive Lists : List Char → List String → Prop
  | last {part : List Char} {ids : List String} (hcomma : ',' ∉ part) (hids : Holds part ids) :
      Lists part ids
  | cut {part rest : List Char} {ids more : List String} (hcomma : ',' ∉ part)
      (hids : Holds part ids) (hmore : Lists rest more) : Lists (part ++ ',' :: rest) (ids ++ more)

/-- The ids of a text, with repeats. -/
def listed (cs : List Char) : List String :=
  (((Text.pieces ',' cs).map trimmed).filter fun p => !p.isEmpty).map .ofList

variable {part cs : List Char} {ids known done rest all : List String} {raw : String}

theorem read_eq (raw : String) : read raw = addNew [] (listed raw.toList) := rfl

/-! ### What a text lists -/

/-- What a part holds is what is left of it when it is trimmed. -/
theorem holds_iff :
    Holds part ids ↔ ids = if trimmed part = [] then [] else [.ofList (trimmed part)] := by
  constructor
  · intro h
    cases h with
    | nothing hblank => rw [if_pos (Text.trimmed_eq_nil_iff.2 hblank)]
    | id hfront hback hne hfirst hlast =>
      rw [Text.trimmed_between hfront hback hne hfirst hlast, if_neg hne]
  · rintro rfl
    split
    · next hnil => exact .nothing (Text.trimmed_eq_nil_iff.1 hnil)
    · next hne =>
      obtain ⟨front, back, hsplit, hfront, hback⟩ := Text.exists_between part
      have hholds := Holds.id hfront hback hne (Text.isBlank_head_trimmed hne)
        (Text.isBlank_getLast_trimmed hne)
      rwa [← hsplit] at hholds

theorem listed_eq_flatMap (cs : List Char) :
    listed cs = (Text.pieces ',' cs).flatMap fun part =>
      if trimmed part = [] then [] else [.ofList (trimmed part)] := by
  rw [listed]
  induction Text.pieces ',' cs with
  | nil => rfl
  | cons part parts ih =>
    rw [List.map_cons, List.flatMap_cons, ← ih]
    cases htrim : trimmed part <;> rfl

/-- A text lists just the ids that are computed. -/
theorem lists_iff : Lists cs ids ↔ ids = listed cs := by
  constructor
  · intro h
    induction h with
    | last hcomma hids =>
      rw [listed_eq_flatMap, Text.pieces_of_not_mem hcomma, List.flatMap_singleton]
      exact holds_iff.1 hids
    | cut hcomma hids _ ih =>
      rw [listed_eq_flatMap, Text.pieces_append_cons hcomma, List.flatMap_cons,
        ← listed_eq_flatMap, ← ih, ← holds_iff.1 hids]
  · rintro rfl
    -- The text is taken apart at its commas, as it is when its pieces are found.
    induction cs using Text.pieces_induction ',' with
    | last part hcomma =>
      refine .last hcomma (holds_iff.2 ?_)
      rw [listed_eq_flatMap, Text.pieces_of_not_mem hcomma, List.flatMap_singleton]
    | cut part rest hcomma ih =>
      rw [listed_eq_flatMap, Text.pieces_append_cons hcomma, List.flatMap_cons,
        ← listed_eq_flatMap]
      exact .cut hcomma (holds_iff.2 rfl) ih

/-! ### First occurrences -/

/-- Ids are appended in the order in which they first occur in a list, if those that are known are
in this order and come from the beginning of the list. -/
theorem pairwise_addNew (hall : all = done ++ rest) (hknown : ∀ id, id ∈ known ↔ id ∈ done)
    (horder : known.Pairwise fun a b => all.idxOf a < all.idxOf b) :
    (addNew known rest).Pairwise fun a b => all.idxOf a < all.idxOf b := by
  induction rest generalizing done known with
  | nil => exact horder
  | cons id rest ih =>
    have hnext : all = done ++ [id] ++ rest := hall.trans (List.append_cons done id rest)
    rw [addNew]
    split
    · next hold =>
      refine ih hnext (fun other => ?_) horder
      rw [hknown, List.mem_append, List.mem_singleton]
      exact ⟨.inl, fun h => h.elim (fun h => h) fun heq => heq ▸ (hknown id).1 hold⟩
    · next hnew =>
      refine ih hnext (fun other => ?_) ?_
      · rw [List.mem_append, List.mem_append, hknown]
      · refine List.pairwise_append.2 ⟨horder, List.pairwise_singleton _ _, fun a ha b hb => ?_⟩
        obtain rfl := List.mem_singleton.1 hb
        have hdone := (hknown a).1 ha
        have hfresh : b ∉ done := fun h => hnew ((hknown b).2 h)
        rw [hall, List.idxOf_append, List.idxOf_append, if_pos hdone, if_neg hfresh]
        have hlt := List.idxOf_lt_length_of_mem hdone
        omega

/-- Ids are read in the order in which they first occur. -/
theorem pairwise_read (raw : String) :
    (read raw).Pairwise fun a b =>
      (listed raw.toList).idxOf a < (listed raw.toList).idxOf b := by
  rw [read_eq]
  exact pairwise_addNew (List.nil_append _).symm (fun _ => Iff.rfl) List.Pairwise.nil

theorem nodup_read (raw : String) : (read raw).Nodup := by
  refine (pairwise_read raw).imp fun {a b} hlt heq => ?_
  rw [heq] at hlt
  exact Nat.lt_irrefl _ hlt

/-! ### Reading again -/

/-- What has been read is read as it is. -/
theorem read_intercalate_read (raw : String) :
    read (String.intercalate "," (read raw)) = read raw :=
  read_intercalate (fun _ hid => plain_of_mem_read hid) (nodup_read raw)

/-- What a console has accepted has been read from a text, and is something. -/
theorem read_of_readStreamIds {r : Http.Request} (h : Console.readStreamIds r = .ok ids) :
    ids ≠ [] ∧ ∃ raw, ids = read raw := by
  unfold Console.readStreamIds at h
  obtain ⟨query, -, h⟩ := bind_eq_ok.1 h
  split at h
  · cases h
  · next hne =>
    obtain rfl := Except.ok.inj h
    exact ⟨hne, _, rfl⟩

/-- From a text are read the ids that it lists, each once, in the order in which they first occur.
With commas between them they are read again as they are, so that a console that has accepted
a list of ids accepts it without a change when it is asked for what it has read. -/
theorem read_is_normal :
    (∀ raw : String, ∃ ids, (∀ others, Lists raw.toList others ↔ others = ids) ∧
      (∀ id, id ∈ read raw ↔ id ∈ ids) ∧ (read raw).Nodup ∧
      ((read raw).Pairwise fun a b => ids.idxOf a < ids.idxOf b) ∧
      read (String.intercalate "," (read raw)) = read raw) ∧
    ∀ (r again : Http.Request) (ids : List String), Console.readStreamIds r = .ok ids →
      Http.Query.pairs again.query = [("pipeline_ids", String.intercalate "," ids)] →
      Console.readStreamIds again = .ok ids := by
  refine ⟨fun raw => ⟨listed raw.toList, fun _ => lists_iff, fun id => ?_, nodup_read raw,
    pairwise_read raw, read_intercalate_read raw⟩, ?_⟩
  · rw [read_eq, mem_addNew, or_iff_right List.not_mem_nil]
  · intro r again ids hread hpairs
    obtain ⟨hne, raw, rfl⟩ := read_of_readStreamIds hread
    rw [Console.readStreamIds_of_pairs hpairs, read_intercalate_read, if_neg hne]

/-- A list with blanks, a blank id and a repeat, and what is read of it. -/
theorem untidyList_read_again :
    let r : Http.Request :=
      { method := .get, path := "/api/pipeline/status/stream",
        query := "pipeline_ids=+b,a%E2%80%89,,+,b" }
    let again : Http.Request := { r with query := "pipeline_ids=b%2Ca" }
    Console.readStreamIds r = .ok ["b", "a"] ∧
      Http.Query.pairs again.query =
        [("pipeline_ids", String.intercalate "," ["b", "a"])] ∧
      Console.readStreamIds again = .ok ["b", "a"] := by
  intro r again
  have hpairs : Http.Query.pairs r.query = [("pipeline_ids", " b,a\u2009,, ,b")] := by
    decide +kernel
  have hids : read " b,a\u2009,, ,b" = ["b", "a"] := by decide
  have hread : Console.readStreamIds r = .ok ["b", "a"] := by
    rw [Console.readStreamIds_of_pairs hpairs, hids]
    rfl
  have hagain : Http.Query.pairs again.query =
      [("pipeline_ids", String.intercalate "," ["b", "a"])] := by decide +kernel
  exact ⟨hread, hagain, read_is_normal.2 r again _ hread hagain⟩

end IdList

end PipelineConsole
