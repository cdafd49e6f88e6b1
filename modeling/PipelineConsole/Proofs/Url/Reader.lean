import PipelineConsole.Proofs.Except
import PipelineConsole.Proofs.Text.Pieces
import PipelineConsole.Proofs.Url.Segments
import PipelineConsole.Url.Reader

/-!
# Segments of addresses that are read

A path is cut at its slashes before its segments are encoded. Encoding brings no slash in, so that
there is none in a segment.

## Main definitions

* `Url.Path.Cut` — paths whose segments hold no slash

## Main results

* `Url.cut_of_read` — the path of an address that is read is cut
-/

namespace PipelineConsole.Url

/-- The segments of a path, if it has any, hold no slash. -/
def Path.Cut : Path → Prop
  | segments ss => ∀ s ∈ ss, '/' ∉ s.toList
  | bare _ => True

/-- Encoding brings no slash into a text. -/
theorem slash_not_mem_encode {marks : String} {cs : List Char} (h : '/' ∉ cs) :
    '/' ∉ (encode marks cs).toList := by
  rw [encode, String.toList_ofList]
  refine Http.Percent.not_mem_encode (by decide) fun b hb hplain heq => h ?_
  have hascii : b.toNat < 0x80 := UInt8.lt_iff_toNat_lt.1 (isPlain_bounds hplain).1
  obtain ⟨c, hc, hcode⟩ := Text.Utf8.mem_encodeChars_ascii hb hascii
  have hslash : c = '/' := by
    rw [← heq, ← hcode, Char.ofNat_toNat]
  exact hslash ▸ hc

/-- The segments that parts without a slash lead to hold none. -/
theorem slash_not_mem_resolve {soFar : List String} {parts : List (List Char)}
    (hsoFar : ∀ s ∈ soFar, '/' ∉ s.toList) (hparts : ∀ part ∈ parts, '/' ∉ part) :
    ∀ s ∈ resolve soFar parts, '/' ∉ s.toList := by
  induction parts generalizing soFar with
  | nil => exact hsoFar
  | cons part rest ih =>
    obtain ⟨hpart, hrest⟩ := List.forall_mem_cons.1 hparts
    -- Whatever segments are kept, an empty one or the encoded part may come behind them.
    have hwith {kept more : List String} (hkept : ∀ s ∈ kept, s ∈ soFar)
        (hmore : ∀ s ∈ more, '/' ∉ s.toList) : ∀ s ∈ kept ++ more, '/' ∉ s.toList := by
      intro s hs
      rcases List.mem_append.1 hs with hs | hs
      · exact hsoFar s (hkept s hs)
      · exact hmore s hs
    have hending : ∀ s ∈ (if rest.isEmpty then [""] else []), '/' ∉ s.toList := by
      intro s hs
      split at hs
      · rw [List.mem_singleton.1 hs]
        exact List.not_mem_nil
      · cases hs
    rw [resolve]
    split
    · exact ih (hwith (fun _ hs => List.dropLast_subset _ hs) hending) hrest
    · split
      · exact ih (hwith (fun _ => id) hending) hrest
      · refine ih (hwith (fun _ => id) fun s hs => ?_) hrest
        rw [List.mem_singleton.1 hs]
        exact slash_not_mem_encode hpart

theorem slash_not_mem_readPath (special : Bool) (cs : Rest) :
    ∀ s ∈ (readPath special cs).1, '/' ∉ s.toList :=
  slash_not_mem_resolve (fun _ hs => nomatch hs) fun _ => Text.not_mem_of_mem_pieces

theorem cut_finish (u : Url) (cs : Rest) : (finish u cs).path.Cut := by
  have hnone : ∀ s ∈ ([""] : List String), '/' ∉ s.toList := by decide
  unfold finish
  dsimp only
  cases cs with
  | nil =>
    dsimp only
    split
    · exact hnone
    · exact fun _ hs => nomatch hs
  | cons c rest =>
    dsimp only
    split
    · exact slash_not_mem_readPath _ _
    · split
      · exact fun _ hs => nomatch hs
      · exact slash_not_mem_readPath _ _

theorem cut_readAuthority {scheme : String} {cs : Rest} {u : Url}
    (h : readAuthority scheme cs = .ok u) : u.path.Cut := by
  obtain ⟨_, -, h⟩ := bind_eq_ok.1 h
  obtain ⟨_, -, h⟩ := bind_eq_ok.1 h
  rw [← Except.ok.inj h]
  exact cut_finish _ _

theorem cut_readFile {cs : Rest} {u : Url} (h : readFile cs = .ok u) : u.path.Cut := by
  unfold readFile at h
  dsimp only at h
  split at h
  · split at h
    · split at h
      · rw [← Except.ok.inj h]
        exact cut_finish _ _
      · split at h
        all_goals
          obtain ⟨_, -, h⟩ := bind_eq_ok.1 h
          rw [← Except.ok.inj h]
          exact cut_finish _ _
    · rw [← Except.ok.inj h]
      exact cut_finish _ _
  · rw [← Except.ok.inj h]
    exact cut_finish _ _

/-- The path of an address that is read is cut at its slashes. -/
theorem cut_of_read {s : String} {u : Url} (h : read s = .ok u) : u.path.Cut := by
  unfold read at h
  split at h
  · unfold readAfterScheme at h
    split at h
    · exact cut_readFile h
    · split at h
      · exact cut_readAuthority h
      · split at h
        · exact cut_readAuthority h
        · rw [← Except.ok.inj h]
          exact cut_finish _ _
        · rw [← Except.ok.inj h]
          trivial
  · cases h

end PipelineConsole.Url
