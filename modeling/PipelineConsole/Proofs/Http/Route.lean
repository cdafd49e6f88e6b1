import PipelineConsole.Http.Extract
import PipelineConsole.Http.Route
import PipelineConsole.Proofs.Http.Percent
import PipelineConsole.Proofs.Text.Pieces

/-!
# Routes and their parameters

A path does not end with an empty parameter, and a parameter that is not empty is not read as the
empty text. So whoever is named at the end of a path has a name.

## Main results

* `Route.exists_of_dispatch` — an endpoint is that of a route whose pattern the path matches
* `Route.ne_empty_of_matchParts?` — the parameter at the end of a path is not empty
* `Request.ne_empty_of_pathParameter` — neither is what it is read as
-/

namespace PipelineConsole.Http

namespace Route

variable {ε : Type}

theorem endpoint?_cons (path : List PathPart) (m known : Method) (e : ε)
    (rest : List (Method × ε)) : endpoint? ⟨path, (known, e) :: rest⟩ m =
      if (if m = .head then .get else m) = known then some e else endpoint? ⟨path, rest⟩ m := by
  rw [endpoint?, endpoint?, List.lookup_cons]
  by_cases h : (if m = .head then .get else m) = known
  · simp [h]
  · simp [h, beq_eq_false_iff_ne.2 h]

/-- An endpoint is that of a route whose pattern the parts of the path match. -/
theorem exists_of_dispatch {routes : List (Route ε)} {m : Method} {path : String} {e : ε}
    {parameters : List String} (h : dispatch routes m path = .endpoint e parameters) :
    ∃ r ∈ routes, e ∈ r.endpoints.map Prod.snd ∧
      ∃ parts, parts? path = some parts ∧ matchParts? r.path parts = some parameters := by
  unfold dispatch at h
  split at h
  · cases h
  · next r found hmatch =>
    split at h
    · next known hendpoint =>
      cases h
      obtain ⟨parts, hpath, hparts⟩ := Option.bind_eq_some_iff.1 hmatch
      obtain ⟨route, hroute, hfound⟩ := List.exists_of_findSome?_eq_some hparts
      obtain ⟨ps, hps, heq⟩ := Option.map_eq_some_iff.1 hfound
      obtain ⟨rfl, rfl⟩ := Prod.mk.inj heq
      obtain ⟨before, after, hsplit, -⟩ := List.lookup_eq_some_iff.1 hendpoint
      refine ⟨route, hroute, ?_, parts, hpath, hps⟩
      rw [hsplit]
      simp
    · cases h

/-- An endpoint is that of a route that some parts match. -/
theorem mem_of_dispatch {routes : List (Route ε)} {m : Method} {path : String} {e : ε}
    {parameters : List String} (h : dispatch routes m path = .endpoint e parameters) :
    ∃ r ∈ routes, e ∈ r.endpoints.map Prod.snd ∧
      ∃ parts, matchParts? r.path parts = some parameters := by
  obtain ⟨r, hr, he, parts, -, hparts⟩ := exists_of_dispatch h
  exact ⟨r, hr, he, parts, hparts⟩

/-- A path that has one part is a slash and that part. -/
theorem eq_of_parts?_singleton {path part : String} (h : parts? path = some [part]) :
    path = "/" ++ part := by
  unfold parts? at h
  split at h
  · next cs hcs =>
    obtain ⟨piece, hpiece, rfl⟩ := List.map_eq_singleton_iff.1 (Option.some.inj h)
    rw [← String.toList_inj, hcs, String.toList_append, Text.eq_of_pieces_singleton hpiece]
    show _ = '/' :: (String.ofList piece).toList
    rw [String.toList_ofList]
  · cases h

/-- The parameter at the end of a path is not empty. -/
theorem ne_empty_of_matchParts? {before parts parameters : List String}
    (h : matchParts? (before.map .literal ++ [.parameter]) parts = some parameters) :
    ∃ part, part ≠ "" ∧ parameters = [part] := by
  induction before generalizing parts with
  | nil =>
    cases parts with
    | nil => cases h
    | cons part rest =>
      cases rest with
      | cons => simp [matchParts?] at h
      | nil =>
        by_cases hpart : part = ""
        · simp [matchParts?, hpart] at h
        · simp only [List.map_nil, List.nil_append, matchParts?, hpart, false_and, if_false,
            Option.map_some] at h
          exact ⟨part, hpart, (Option.some.inj h).symm⟩
  | cons w before ih =>
    cases parts with
    | nil => cases h
    | cons part rest =>
      rw [List.map_cons, List.cons_append, matchParts?] at h
      split at h
      · exact ih h
      · cases h

end Route

/-- A parameter that is not empty is not read as the empty text. -/
theorem Request.ne_empty_of_pathParameter {name raw s : String} (hraw : raw ≠ "")
    (h : pathParameter name raw = .ok s) : s ≠ "" := by
  -- The octets of the empty text are those of no parameter but the empty one.
  rintro rfl
  unfold pathParameter at h
  split at h
  · next s hs =>
    obtain rfl := Except.ok.inj h
    have hbytes := Percent.eq_nil_of_decode (Text.Utf8.eq_nil_of_decode? hs)
    have hread := Text.Utf8.decode?_encode raw
    rw [hbytes] at hread
    exact hraw (Option.some.inj hread).symm
  · cases h

end PipelineConsole.Http
