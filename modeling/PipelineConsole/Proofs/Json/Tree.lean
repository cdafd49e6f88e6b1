import PipelineConsole.Json.Tree
import PipelineConsole.Proofs.Json.Written

/-!
# The trees of written values

The machine that builds a tree reads the tokens of a written value as one step: it delivers the
tree of the value to the innermost open frame.

## Main results

* `foldl_tokens` — what the machine makes of the tokens of a value
* `ofBytes_text` — the tree of the text of a value
-/

namespace PipelineConsole.Json

open Text.Utf8 (encode)

theorem Tree.ofItems_eq_map (items : List Value) : ofItems items = items.map ofValue := by
  induction items with
  | nil => rfl
  | cons v items ih => rw [ofItems, ih, List.map_cons]

theorem Tree.ofMembers_eq_map (members : List (String × Value)) :
    ofMembers members = members.map fun m => (some m.1, ofValue m.2) := by
  induction members with
  | nil => rfl
  | cons m members ih => rw [ofMembers, ih, List.map_cons]

namespace Builder

variable (frames : List Frame)

/-- The first token of an item is read like that of any value, as it does not close the array. -/
theorem step_itemOrClose {t : Token} (h : t ≠ .closeArray) :
    step (.building frames .itemOrClose) t = step (.building frames .value) t := by
  rw [step, step]
  exact if_neg h

/-- The tokens of a value start with one that does not close an array. -/
theorem exists_tokens_eq_cons (v : Value) : ∃ t ts, v.tokens = t :: ts ∧ t ≠ .closeArray := by
  cases v with
  | null => exact ⟨_, _, rfl, Token.noConfusion⟩
  | bool b => exact ⟨_, _, rfl, Token.noConfusion⟩
  | number n => exact ⟨_, _, rfl, Token.noConfusion⟩
  | string s => exact ⟨_, _, rfl, Token.noConfusion⟩
  | array items => exact ⟨_, _, rfl, Token.noConfusion⟩
  | object members => exact ⟨_, _, rfl, Token.noConfusion⟩

/-- So the tokens of an array that is not empty are read like those behind a comma. -/
theorem foldl_firstItem (v : Value) (items : List Value) :
    (itemTokens (v :: items)).foldl step (.building frames .itemOrClose) =
      (itemTokens (v :: items)).foldl step (.building frames .value) := by
  obtain ⟨t, ts, hv, ht⟩ := exists_tokens_eq_cons v
  cases items with
  | nil =>
    have hitems : itemTokens [v] = t :: ts := hv
    rw [hitems, List.foldl_cons, List.foldl_cons, step_itemOrClose _ ht]
  | cons w items =>
    rw [itemTokens_cons, hv, List.cons_append, List.foldl_cons, List.foldl_cons,
      step_itemOrClose _ ht]

/-- The name of the first member is read like that of any other. -/
theorem foldl_firstMember (m : String × Value) (members : List (String × Value)) :
    (memberTokens (m :: members)).foldl step (.building frames .nameOrClose) =
      (memberTokens (m :: members)).foldl step (.building frames .name) := by
  cases members <;> rfl

mutual

/-- The tokens of a value deliver its tree. -/
theorem foldl_tokens : ∀ (v : Value) (frames : List Frame),
    v.tokens.foldl step (.building frames .value) = deliver frames (Tree.ofValue v)
  | .null, _ => rfl
  | .bool _, _ => rfl
  | .number _, _ => rfl
  | .string _, _ => rfl
  | .array [], _ => rfl
  | .array (v :: items), frames => by
    have hopen : step (.building frames .value) .openArray =
        .building (.array [] :: frames) .itemOrClose := rfl
    have hclose (trees : List Tree) : [Token.closeArray].foldl step
        (.building (.array trees :: frames) .commaOrClose) =
          deliver frames (.array trees.reverse .closed) := rfl
    rw [Value.tokens, List.cons_append, List.foldl_cons, hopen, List.foldl_append,
      foldl_firstItem, foldl_itemTokens (v :: items) (List.cons_ne_nil v items), List.append_nil,
      hclose, List.reverse_reverse, Tree.ofValue, Tree.ofItems_eq_map]
  | .object [], _ => rfl
  | .object (m :: members), frames => by
    have hopen : step (.building frames .value) .openObject =
        .building (.object [] :: frames) .nameOrClose := rfl
    have hclose (parts : List (Option String × Tree)) : [Token.closeObject].foldl step
        (.building (.object parts :: frames) .commaOrClose) =
          deliver frames (.object parts.reverse .closed) := rfl
    rw [Value.tokens, List.cons_append, List.foldl_cons, hopen, List.foldl_append,
      foldl_firstMember, foldl_memberTokens (m :: members) (List.cons_ne_nil m members),
      List.append_nil, hclose, List.reverse_reverse, Tree.ofValue, Tree.ofMembers_eq_map]

/-- The tokens of items put their trees into the open array. -/
theorem foldl_itemTokens : ∀ (items : List Value), items ≠ [] → ∀ (trees : List Tree)
    (frames : List Frame),
    (itemTokens items).foldl step (.building (.array trees :: frames) .value) =
      .building (.array ((items.map Tree.ofValue).reverse ++ trees) :: frames) .commaOrClose
  | [], h, _, _ => absurd rfl h
  | [v], _, trees, frames => foldl_tokens v (.array trees :: frames)
  | v :: w :: items, _, trees, frames => by
    have hcomma (tree : Tree) : step (deliver (.array trees :: frames) tree) .comma =
        .building (.array (tree :: trees) :: frames) .value := rfl
    rw [itemTokens_cons, List.foldl_append, foldl_tokens v, List.foldl_cons, hcomma,
      foldl_itemTokens (w :: items) (List.cons_ne_nil w items), List.map_cons (a := v),
      List.reverse_cons, List.append_assoc]
    rfl

/-- The tokens of members put their trees into the open object. -/
theorem foldl_memberTokens : ∀ (members : List (String × Value)), members ≠ [] →
    ∀ (parts : List (Option String × Tree)) (frames : List Frame),
    (memberTokens members).foldl step (.building (.object parts :: frames) .name) =
      .building (.object ((members.map fun m => (some m.1, Tree.ofValue m.2)).reverse ++ parts)
        :: frames) .commaOrClose
  | [], h, _, _ => absurd rfl h
  | [(name, v)], _, parts, frames => foldl_tokens v (.member parts (some name) :: frames)
  | (name, v) :: m :: members, _, parts, frames => by
    have hname (ts : List Token) : (Token.string (some name) :: .colon :: ts).foldl step
        (.building (.object parts :: frames) .name) =
          ts.foldl step (.building (.member parts (some name) :: frames) .value) := rfl
    have hcomma (tree : Tree) : step (deliver (.member parts (some name) :: frames) tree) .comma =
        .building (.object ((some name, tree) :: parts) :: frames) .name := rfl
    rw [memberTokens_cons, List.cons_append, List.cons_append, hname, List.foldl_append,
      foldl_tokens v, List.foldl_cons, hcomma,
      foldl_memberTokens (m :: members) (List.cons_ne_nil m members),
      List.map_cons (a := (name, v)), List.reverse_cons, List.append_assoc]
    rfl

end

end Builder

/-- The text of a value holds the tree of the value, and nothing after it. -/
theorem Tree.ofBytes_text {v : Value} (h : v.Legible) :
    ofBytes (encode v.text) = (ofValue v, false) := by
  rw [ofBytes, ofTokens, tokens_text h, Builder.foldl_tokens v []]
  rfl

end PipelineConsole.Json
