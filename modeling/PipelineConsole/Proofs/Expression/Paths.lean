import PipelineConsole.Proofs.Expression.Reading
import PipelineConsole.Proofs.Text.Pieces

/-!
# Paths are followed

An expression made of names and points between them is the path of a field, and its value is found
by following the names through the objects of the sample. But a word for infinity or for no number
is read as this number, for which there is nothing but `null`, even where a field has the name.

## Main definitions

* `Expr.isIdentifier`, `Expr.dotted` — names, and names with points between them
* `Expr.Leads` — names lead through the objects of a document

## Main results

* `Expr.leads_iff` — to look up a path is to follow its names
* `Expr.Wordlike.ofChars_of_isWord`, `Expr.Wordlike.ofChars_of_not_isWord` — how they are read
* `Expr.path_is_followed_iff` — when a transform has the value that the path leads to
-/

namespace PipelineConsole.Expr

open PipelineConsole.Filter (startsName continuesName)
open Text (isBlank)

/-- A name: a letter or an underscore, and then letters, numerals and underscores. -/
def isIdentifier : List Char → Bool
  | [] => false
  | c :: cs => startsName c && cs.all fun d => Text.isLetterOrNumeral d || d = '_'

/-- Names with points between them. -/
def dotted (first : List Char) (rest : List (List Char)) : List Char :=
  first ++ rest.flatMap ('.' :: ·)

/-- The names lead from one document to another, which is in it. -/
inductive Leads : Json.Value → List (List Char) → Json.Value → Prop
  | here (v : Json.Value) : Leads v [] v
  | step {members : List (String × Json.Value)} {name : List Char} {rest : List (List Char)}
    {v w : Json.Value} (hmember : members.lookup (.ofList name) = some v) (hrest : Leads v rest w) :
    Leads (.object members) (name :: rest) w

variable {v w : Json.Value} {first name cs front back : List Char} {rest names : List (List Char)}

theorem leads_iff : Leads v names w ↔ follow? v names = some w := by
  constructor
  · intro h
    induction h with
    | here => rfl
    | step hmember _ ih =>
      rw [follow?, Json.Value.get?, hmember, Option.bind_eq_bind, Option.bind_some, ih]
  · intro h
    induction names generalizing v with
    | nil =>
      obtain rfl := Option.some.inj h
      exact .here v
    | cons name names ih =>
      obtain ⟨u, hu, hfollow⟩ := Option.bind_eq_some_iff.1 h
      cases v with
      | object members => exact .step hu (ih hfollow)
      | _ => nomatch hu

theorem Leads.unique {u : Json.Value} (h : Leads v names w) (h' : Leads v names u) : w = u :=
  Option.some.inj ((leads_iff.1 h).symm.trans (leads_iff.1 h'))

/-! ### Names with points between them -/

theorem exists_cons_of_isIdentifier (h : isIdentifier name = true) :
    ∃ c cs, name = c :: cs ∧ startsName c = true := by
  cases name with
  | nil => nomatch h
  | cons c cs => exact ⟨c, cs, rfl, (Bool.and_eq_true_iff.1 h).1⟩

theorem continuesName_of_mem (h : isIdentifier name = true) {c : Char} (hc : c ∈ name) :
    continuesName c = true := by
  obtain ⟨d, cs, rfl, hstart⟩ := exists_cons_of_isIdentifier h
  rcases List.mem_cons.1 hc with rfl | hc
  · exact Filter.continuesName_of_startsName hstart
  · rw [continuesName, List.all_eq_true.1 (Bool.and_eq_true_iff.1 h).2 c hc, Bool.true_or]

theorem point_not_mem (h : isIdentifier name = true) : '.' ∉ name := by
  intro hpoint
  obtain ⟨c, cs, rfl, hstart⟩ := exists_cons_of_isIdentifier h
  rcases List.mem_cons.1 hpoint with rfl | hpoint
  · exact absurd hstart (by decide)
  · exact absurd (List.all_eq_true.1 (Bool.and_eq_true_iff.1 h).2 '.' hpoint) (by decide)

theorem wordlike_dotted (h : ∀ name ∈ first :: rest, isIdentifier name = true) :
    Wordlike (dotted first rest) where
  starts := by
    obtain ⟨c, cs, hfirst, hstart⟩ := exists_cons_of_isIdentifier (h first List.mem_cons_self)
    exact ⟨c, cs ++ rest.flatMap ('.' :: ·), by rw [dotted, hfirst]; rfl, hstart⟩
  continues := by
    intro c hc
    rcases List.mem_append.1 hc with hc | hc
    · exact continuesName_of_mem (h first List.mem_cons_self) hc
    · obtain ⟨name, hname, hc⟩ := List.mem_flatMap.1 hc
      rcases List.mem_cons.1 hc with rfl | hc
      · decide
      · exact continuesName_of_mem (h name (List.mem_cons_of_mem first hname)) hc

theorem pieces_dotted (h : ∀ name ∈ first :: rest, isIdentifier name = true) :
    Text.pieces '.' (dotted first rest) = first :: rest :=
  Text.pieces_flatMap fun name hname => point_not_mem (h name hname)

/-! ### How they are read -/

theorem Wordlike.ofChars_of_isWord {text : List Char} (h : Wordlike cs)
    (htext : Text.trimmed text = cs) (hword : Number.IsWord cs) :
    ∃ x, ofChars text = .number x ∧ x.isFinite = false := by
  obtain ⟨x, hx, hinfinite⟩ := Number.readDouble?_of_isWord hword
  refine ⟨x, ?_, hinfinite⟩
  rw [ofChars_of_not_call (htext ▸ h.call?_eq_none), htext, h.quoted?_eq_none, hx]

theorem Wordlike.ofChars_of_not_isWord {text : List Char} (h : Wordlike cs)
    (htext : Text.trimmed text = cs) (hword : ¬Number.IsWord cs)
    (hkeyword : cs ∉ ["true".toList, "false".toList, "nil".toList]) :
    ofChars text = .path cs := by
  have hnumber : Number.readDouble? cs = none := by
    cases hread : Number.readDouble? cs with
    | none => rfl
    | some x => exact absurd (h.isWord hread) hword
  simp only [List.mem_cons, List.not_mem_nil, or_false, not_or] at hkeyword
  obtain ⟨htrue, hfalse, hnil⟩ := hkeyword
  rw [ofChars_of_not_call (htext ▸ h.call?_eq_none), htext, h.quoted?_eq_none, hnumber]
  dsimp only
  rw [if_neg htrue, if_neg hfalse, if_neg hnil]

/-! ### Their values -/

/-- The result of a transform is the value that names lead to in a sample, and a fault if they do
not lead anywhere. -/
def Follows (result : Except TransformError Json.Value) (output : String) (sample : Json.Value)
    (names : List (List Char)) : Prop :=
  (∀ v, result = .ok (.object [(output, v)]) ↔ Leads sample names v) ∧
    ((∃ fault, result = .error fault) ↔ ∀ v, ¬Leads sample names v)

theorem evalAll_single (t : Transform) (members : List (String × Json.Value)) :
    Transform.evalAll [t] (.object members) =
      ((ofChars t.expression.toList).eval (.object members)).map
        fun v => .object [(t.outputName, v)] := by
  have hobject : (Json.Value.object members).isObject = true := rfl
  rw [Transform.evalAll, if_pos hobject, Transform.evalInto]
  cases (ofChars t.expression.toList).eval (.object members) <;> rfl

/-- A word for infinity or for no number has no value but `null`. -/
theorem Wordlike.evalAll_of_isWord {t : Transform} (h : Wordlike cs)
    (htext : Text.trimmed t.expression.toList = cs) (hword : Number.IsWord cs)
    (members : List (String × Json.Value)) :
    Transform.evalAll [t] (.object members) = .ok (.object [(t.outputName, .null)]) := by
  obtain ⟨x, hread, hinfinite⟩ := h.ofChars_of_isWord htext hword
  rw [evalAll_single, hread, eval, Json.Value.double, hinfinite]
  rfl

/-- Names that are read as a path are followed. -/
theorem follows_of_ofChars {t : Transform} (members : List (String × Json.Value))
    (hnames : ∀ name ∈ first :: rest, isIdentifier name = true)
    (hread : ofChars t.expression.toList = .path (dotted first rest)) :
    Follows (Transform.evalAll [t] (.object members)) t.outputName (.object members)
      (first :: rest) := by
  rw [evalAll_single, hread, eval, lookup?, pieces_dotted hnames]
  simp only [Follows, leads_iff]
  cases follow? (.object members) (first :: rest) <;> simp [Except.map]

/-- A transform made of names with points between them, whatever blanks are around it, has the value
that they lead to, and fails if they do not lead anywhere, if and only if they are no word for
infinity or for no number, or lead to `null`. -/
theorem path_is_followed_iff {expression : String} {members : List (String × Json.Value)}
    (output type : String) (front back : List Char)
    (hexpression : expression.toList = front ++ dotted first rest ++ back)
    (hfront : ∀ c ∈ front, isBlank c = true) (hback : ∀ c ∈ back, isBlank c = true)
    (hnames : ∀ name ∈ first :: rest, isIdentifier name = true)
    (hkeyword : dotted first rest ∉ ["true".toList, "false".toList, "nil".toList]) :
    Follows (Transform.evalAll [⟨expression, output, type⟩] (.object members)) output
        (.object members) (first :: rest) ↔
      (Number.IsWord (dotted first rest) → Leads (.object members) (first :: rest) .null) := by
  have hwordlike := wordlike_dotted hnames
  have htext : Text.trimmed expression.toList = dotted first rest := by
    rw [hexpression, hwordlike.trimmed hfront hback]
  by_cases hword : Number.IsWord (dotted first rest)
  · have hresult :=
      hwordlike.evalAll_of_isWord (t := ⟨expression, output, type⟩) htext hword members
    rw [hresult]
    constructor
    · intro hfollows _
      exact (hfollows.1 .null).1 rfl
    · intro hnull
      have hnull := hnull hword
      refine ⟨fun v => ⟨fun hv => ?_, fun hv => ?_⟩, fun ⟨_, hfault⟩ => ?_, fun hnone => ?_⟩
      · obtain rfl : Json.Value.null = v := by simpa using hv
        exact hnull
      · rw [hv.unique hnull]
      · nomatch hfault
      · exact absurd hnull (hnone .null)
  · have hread := hwordlike.ofChars_of_not_isWord htext hword hkeyword
    refine ⟨fun _ hword' => absurd hword' hword, fun _ => ?_⟩
    exact follows_of_ofChars (t := ⟨expression, output, type⟩) members hnames hread

/-- A path with blanks around it that leads into an object. -/
theorem planPath_followed :
    let sample := Json.Value.object
      [("meta", .object [("nan", .string "pro"), ("plan_2", .null)]), ("nan", .null)]
    Follows (Transform.evalAll [⟨"\t meta.nan\n", "plan", "string"⟩] sample) "plan" sample
      ["meta".toList, "nan".toList] := by
  intro sample
  have hnot : ¬Number.IsWord (dotted "meta".toList ["nan".toList]) := by decide
  have hfront : ∀ c ∈ "\t ".toList, isBlank c = true := List.all_eq_true.1 (by decide)
  have hback : ∀ c ∈ "\n".toList, isBlank c = true := List.all_eq_true.1 (by decide)
  exact (path_is_followed_iff "plan" "string" "\t ".toList "\n".toList (by decide) hfront hback
    (by decide) (by decide)).2 fun hword => absurd hword hnot

/-- The value of a field that has such a name is not found. -/
theorem field_named_nan_is_lost :
    let sample := Json.Value.object [("nan", .int 5)]
    isIdentifier "nan".toList = true ∧ Leads sample ["nan".toList] (.int 5) ∧
      Transform.evalAll [⟨"nan", "x", "int"⟩] sample = .ok (.object [("x", .null)]) ∧
      ¬Follows (Transform.evalAll [⟨"nan", "x", "int"⟩] sample) "x" sample ["nan".toList] := by
  intro sample
  have hname : ∀ name ∈ ["nan".toList], isIdentifier name = true := by decide
  have hleads : Leads sample ["nan".toList] (.int 5) := .step rfl (.here _)
  have hresult : Transform.evalAll [⟨"nan", "x", "int"⟩] sample = .ok (.object [("x", .null)]) :=
    (wordlike_dotted hname).evalAll_of_isWord (by decide) (by decide) _
  refine ⟨by decide, hleads, hresult, fun hfollows => ?_⟩
  have hvalue := (hfollows.1 (.int 5)).2 hleads
  rw [hresult] at hvalue
  simp [Json.Value.int] at hvalue

end PipelineConsole.Expr
