import PipelineConsole.Proofs.Except
import PipelineConsole.Proofs.Expression.Reading
import PipelineConsole.Proofs.Json.Kept
import Mathlib.Data.List.Nodup

/-!
# Transforms do not see one another

Each transform has a value of its own on a sample, or none. Together they have a result if all of
them have a value, and then it is the object of these values: no transform sees what another one has
put into it. Of transforms with one name the last counts. If some have no value, the first of them
tells why.

## Main definitions

* `Transform.eval` — the value of a transform
* `Transform.lastFor?` — the transform that counts for a name
* `Transform.Collects` — an object that has values of some transforms under their names
* `Transform.FailsFirst` — the error of the first transform that has no value

## Main results

* `Transform.Collects.unique` — there is one such object at most
* `Transform.exists_evalInto_iff`, `Transform.evalInto_eq_error_iff` — when there is a result
* `Transform.lookup_evalInto` — what is in it
* `Transform.transforms_are_projections` — the result of transforms, also in another order
-/

namespace PipelineConsole

open Json (Value)
open Json.Value (SortedMembers insertMember)

/-- Sorted members are the same if they have the same values under all names. -/
theorem Json.Value.SortedMembers.ext {xs ys : List (String × Value)} (hx : SortedMembers xs)
    (hy : SortedMembers ys) (h : ∀ name, xs.lookup name = ys.lookup name) : xs = ys := by
  have hnodup {zs : List (String × Value)} (hz : SortedMembers zs) : (zs.map Prod.fst).Nodup := by
    refine List.Pairwise.imp (fun {a b} hlt heq => ?_) hz
    rw [heq] at hlt
    exact String.lt_irrefl b hlt
  have hmem : ∀ m, m ∈ xs ↔ m ∈ ys := by
    rintro ⟨name, v⟩
    rw [Table.mem_iff_lookup (hnodup hx), Table.mem_iff_lookup (hnodup hy), h]
  have hperm : xs.Perm ys :=
    (List.perm_ext_iff_of_nodup (List.Nodup.of_map Prod.fst (hnodup hx))
      (List.Nodup.of_map Prod.fst (hnodup hy))).2 hmem
  have hasymm (m n : String × Value) (_ : m ∈ xs) (_ : n ∈ ys) (hlt : m.1 < n.1)
      (hgt : n.1 < m.1) : m = n := absurd hgt (String.lt_asymm hlt)
  exact hperm.eq_of_pairwise hasymm (List.pairwise_map.1 hx) (List.pairwise_map.1 hy)

namespace Transform

/-- The value of a transform on a sample. -/
def eval (sample : Value) (t : Transform) : Except TransformError Value :=
  (Expr.ofChars t.expression.toList).eval sample

/-- The last transform with a name. -/
def lastFor? (name : String) (ts : List Transform) : Option Transform :=
  (ts.filter (·.outputName = name)).getLast?

/-- A value is the object that has, under each name, the value of a transform that belongs to the
name, and no other members. -/
def Collects (sample : Value) (Belongs : String → Transform → Prop) (v : Value) : Prop :=
  ∃ members, v = .object members ∧ SortedMembers members ∧
    ∀ name w, members.lookup name = some w ↔ ∃ t, Belongs name t ∧ t.eval sample = .ok w

/-- The error of a transform that has no value, while all before it have one. -/
def FailsFirst (sample : Value) (ts : List Transform) (error : TransformError) : Prop :=
  ∃ front t back, ts = front ++ t :: back ∧ (∀ u ∈ front, ∃ v, u.eval sample = .ok v) ∧
    t.eval sample = .error error

variable {sample v w : Value} {ts : List Transform} {name : String} {error : TransformError}
  {soFar members : List (String × Value)} {Belongs : String → Transform → Prop}

/-- There is one object at most. -/
theorem Collects.unique (hv : Collects sample Belongs v) (hw : Collects sample Belongs w) :
    v = w := by
  obtain ⟨xs, rfl, hx, hxs⟩ := hv
  obtain ⟨ys, rfl, hy, hys⟩ := hw
  refine congrArg Value.object (hx.ext hy fun name => Option.ext fun u => ?_)
  rw [hxs, hys]

/-! ### One transform after another -/

@[simp] theorem evalInto_cons_ok {t : Transform} (h : t.eval sample = .ok v) :
    evalInto sample soFar (t :: ts) =
      evalInto sample (insertMember t.outputName v soFar) ts := by
  rw [eval] at h
  rw [evalInto, h]
  rfl

@[simp] theorem evalInto_cons_error {t : Transform} (h : t.eval sample = .error error) :
    evalInto sample soFar (t :: ts) = .error error := by
  rw [eval] at h
  rw [evalInto, h]
  rfl

/-- There is a result when each transform has a value. -/
theorem exists_evalInto_iff (soFar : List (String × Value)) :
    (∃ members, evalInto sample soFar ts = .ok members) ↔
      ∀ t ∈ ts, ∃ v, t.eval sample = .ok v := by
  induction ts generalizing soFar with
  | nil => exact ⟨fun _ t ht => absurd ht List.not_mem_nil, fun _ => ⟨soFar, rfl⟩⟩
  | cons t ts ih =>
    rw [List.forall_mem_cons]
    cases ht : t.eval sample with
    | error error =>
      rw [evalInto_cons_error ht]
      constructor
      · rintro ⟨members, h⟩
        nomatch h
      · rintro ⟨⟨v, h⟩, -⟩
        nomatch h
    | ok v =>
      rw [evalInto_cons_ok ht, ih, and_iff_right ⟨v, rfl⟩]

theorem failsFirst_nil : ¬FailsFirst sample [] error := by
  rintro ⟨front, t, back, hsplit, -, -⟩
  exact List.append_ne_nil_of_right_ne_nil front (List.cons_ne_nil t back) hsplit.symm

theorem failsFirst_cons_error {t : Transform} {first : TransformError}
    (h : t.eval sample = .error first) :
    FailsFirst sample (t :: ts) error ↔ first = error := by
  constructor
  · rintro ⟨front, u, back, hsplit, hfront, hu⟩
    cases front with
    | nil =>
      obtain ⟨rfl, -⟩ := List.cons.inj hsplit
      exact Except.error.inj (h.symm.trans hu)
    | cons a front =>
      obtain ⟨rfl, -⟩ := List.cons.inj hsplit
      obtain ⟨v, hv⟩ := hfront t List.mem_cons_self
      nomatch h.symm.trans hv
  · rintro rfl
    exact ⟨[], t, ts, rfl, fun u hu => absurd hu List.not_mem_nil, h⟩

theorem failsFirst_cons_ok {t : Transform} (h : t.eval sample = .ok v) :
    FailsFirst sample (t :: ts) error ↔ FailsFirst sample ts error := by
  constructor
  · rintro ⟨front, u, back, hsplit, hfront, hu⟩
    cases front with
    | nil =>
      obtain ⟨rfl, -⟩ := List.cons.inj hsplit
      nomatch h.symm.trans hu
    | cons a front =>
      obtain ⟨-, rfl⟩ := List.cons.inj hsplit
      exact ⟨front, u, back, rfl, (List.forall_mem_cons.1 hfront).2, hu⟩
  · rintro ⟨front, u, back, rfl, hfront, hu⟩
    exact ⟨t :: front, u, back, rfl, List.forall_mem_cons.2 ⟨⟨v, h⟩, hfront⟩, hu⟩

/-- Otherwise the first one that has none tells why. -/
theorem evalInto_eq_error_iff (soFar : List (String × Value)) :
    evalInto sample soFar ts = .error error ↔ FailsFirst sample ts error := by
  induction ts generalizing soFar with
  | nil => exact iff_of_false nofun failsFirst_nil
  | cons t ts ih =>
    cases ht : t.eval sample with
    | error first => rw [evalInto_cons_error ht, failsFirst_cons_error ht, Except.error.injEq]
    | ok v => rw [evalInto_cons_ok ht, failsFirst_cons_ok ht, ih]

/-- The result is sorted by name. -/
theorem sortedMembers_evalInto (hsorted : SortedMembers soFar)
    (h : evalInto sample soFar ts = .ok members) : SortedMembers members := by
  induction ts generalizing soFar with
  | nil => exact Except.ok.inj h ▸ hsorted
  | cons t ts ih =>
    obtain ⟨v, -, h⟩ := bind_eq_ok.1 h
    exact ih hsorted.insert h

theorem lastFor?_cons (t : Transform) :
    lastFor? name (t :: ts) =
      (lastFor? name ts).or (if t.outputName = name then some t else none) := by
  rw [lastFor?, lastFor?, List.filter_cons]
  by_cases hname : t.outputName = name
  · rw [if_pos (decide_eq_true hname), if_pos hname, List.getLast?_cons]
    cases (ts.filter (·.outputName = name)).getLast? <;> rfl
  · rw [if_neg (by simpa using hname), if_neg hname, Option.or_none]

/-- Under a name is the value of the last transform with it. What was there before stays only if
there is none. -/
theorem lookup_evalInto (h : evalInto sample soFar ts = .ok members) (name : String) :
    members.lookup name =
      match lastFor? name ts with
      | some t => (t.eval sample).toOption
      | none => soFar.lookup name := by
  induction ts generalizing soFar with
  | nil => exact Except.ok.inj h ▸ rfl
  | cons t ts ih =>
    obtain ⟨v, hv, h⟩ := bind_eq_ok.1 h
    have hv : t.eval sample = .ok v := hv
    rw [ih h, lastFor?_cons]
    cases lastFor? name ts with
    | some u => rfl
    | none =>
      -- No later transform has the name, so that it is this one's value if the name is its own.
      rw [Option.none_or]
      dsimp only
      rw [Value.lookup_insertMember]
      by_cases hname : t.outputName = name
      · rw [if_pos hname.symm, if_pos hname]
        dsimp only
        rw [hv, Except.toOption]
      · rw [if_neg (Ne.symm hname), if_neg hname]

/-! ### All transforms -/

theorem evalAll_object (members : List (String × Value)) (ts : List Transform) :
    evalAll ts (.object members) = (evalInto (.object members) [] ts).map .object := rfl

/-- Under each name is the value of the last transform with it. -/
theorem collects_evalAll {fields : List (String × Value)}
    (h : evalAll ts (.object fields) = .ok v) :
    Collects (.object fields) (fun name t => lastFor? name ts = some t) v := by
  rw [evalAll_object] at h
  obtain ⟨members, hmembers, rfl⟩ := map_eq_ok.1 h
  have hnone : SortedMembers [] := List.Pairwise.nil
  refine ⟨members, rfl, sortedMembers_evalInto hnone hmembers, fun name w => ?_⟩
  show _ ↔ ∃ t, lastFor? name ts = some t ∧ _
  rw [lookup_evalInto hmembers]
  cases lastFor? name ts with
  | none => simp
  | some t => simp [toOption_eq_some]

theorem mem_of_lastFor? {t : Transform} (h : lastFor? name ts = some t) :
    t ∈ ts ∧ t.outputName = name := by
  obtain ⟨hmem, hname⟩ := List.mem_filter.1 (List.mem_of_getLast? h)
  exact ⟨hmem, of_decide_eq_true hname⟩

/-- If no two transforms have one name, each of them counts for its own. -/
theorem lastFor?_eq_some_iff (hnodup : (ts.map outputName).Nodup) {t : Transform} :
    lastFor? name ts = some t ↔ t ∈ ts ∧ t.outputName = name := by
  refine ⟨mem_of_lastFor?, fun ⟨hmem, hname⟩ => ?_⟩
  have hfilter : t ∈ ts.filter (·.outputName = name) :=
    List.mem_filter.2 ⟨hmem, decide_eq_true hname⟩
  cases hlast : lastFor? name ts with
  | none =>
    rw [List.getLast?_eq_none_iff.1 hlast] at hfilter
    exact absurd hfilter List.not_mem_nil
  | some u =>
    obtain ⟨hu, huname⟩ := mem_of_lastFor? hlast
    rw [List.inj_on_of_nodup_map hnodup hu hmem (huname.trans hname.symm)]

theorem collects_congr {Belongs' : String → Transform → Prop}
    (h : ∀ name t, Belongs name t ↔ Belongs' name t) :
    Collects sample Belongs v ↔ Collects sample Belongs' v := by
  simp only [Collects, h]

/-- There is a result just when each transform has a value. -/
theorem exists_evalAll_iff {fields : List (String × Value)} :
    (∃ v, evalAll ts (.object fields) = .ok v) ↔
      ∀ t ∈ ts, ∃ w, t.eval (.object fields) = .ok w := by
  rw [← exists_evalInto_iff []]
  constructor
  · rintro ⟨v, h⟩
    obtain ⟨members, hmembers, -⟩ := map_eq_ok.1 h
    exact ⟨members, hmembers⟩
  · rintro ⟨members, hmembers⟩
    exact ⟨.object members, map_eq_ok.2 ⟨members, hmembers, rfl⟩⟩

theorem evalAll_eq_error_iff {fields : List (String × Value)} :
    evalAll ts (.object fields) = .error error ↔ FailsFirst (.object fields) ts error := by
  rw [evalAll_object, ← evalInto_eq_error_iff []]
  cases evalInto (.object fields) [] ts <;> simp [Except.map]

/-- The result is the object of the values of the last transforms for their names. -/
theorem evalAll_eq_ok_iff {fields : List (String × Value)} :
    evalAll ts (.object fields) = .ok v ↔
      (∀ t ∈ ts, ∃ w, t.eval (.object fields) = .ok w) ∧
        Collects (.object fields) (fun name t => lastFor? name ts = some t) v := by
  constructor
  · intro h
    exact ⟨exists_evalAll_iff.1 ⟨v, h⟩, collects_evalAll h⟩
  · rintro ⟨hall, hcollects⟩
    obtain ⟨w, hw⟩ := exists_evalAll_iff.2 hall
    rw [hcollects.unique (collects_evalAll hw)]
    exact hw

/-- For every sample that is an object: transforms have a result just when each of them has a value
on the sample as it came in. The result has under each name the value of the last transform with
this name, and nothing else. If there is none, the error is that of the first transform that has no
value. If no two transforms have one name, the result has the value of each under its name, and the
transforms have the same result in every order. -/
theorem transforms_are_projections (fields : List (String × Value)) (ts : List Transform) :
    let sample := Value.object fields
    ((∃ v, evalAll ts sample = .ok v) ↔ ∀ t ∈ ts, ∃ w, t.eval sample = .ok w) ∧
      (∀ v, evalAll ts sample = .ok v →
        Collects sample (fun name t => lastFor? name ts = some t) v) ∧
      (∀ error, evalAll ts sample = .error error ↔ FailsFirst sample ts error) ∧
      ((ts.map outputName).Nodup →
        (∀ v, evalAll ts sample = .ok v ↔
          (∀ t ∈ ts, ∃ w, t.eval sample = .ok w) ∧
            Collects sample (fun name t => t ∈ ts ∧ t.outputName = name) v) ∧
          ∀ others, ts.Perm others →
            ∀ v, evalAll ts sample = .ok v ↔ evalAll others sample = .ok v) := by
  intro sample
  have hdistinct (us : List Transform) (hnodup : (us.map outputName).Nodup) (v : Value) :
      evalAll us sample = .ok v ↔ (∀ t ∈ us, ∃ w, t.eval sample = .ok w) ∧
        Collects sample (fun name t => t ∈ us ∧ t.outputName = name) v := by
    rw [evalAll_eq_ok_iff, collects_congr fun name t => lastFor?_eq_some_iff hnodup]
  refine ⟨exists_evalAll_iff, fun v => collects_evalAll, fun error => evalAll_eq_error_iff,
    fun hnodup => ⟨hdistinct ts hnodup, fun others hperm v => ?_⟩⟩
  have hnodup' : (others.map outputName).Nodup := (hperm.map outputName).nodup_iff.1 hnodup
  rw [hdistinct ts hnodup, hdistinct others hnodup']
  simp only [hperm.mem_iff]

/-- A transform may write a field of the sample that another one reads: in either order each of them
reads the sample. -/
theorem overwritten_field_is_read_from_sample :
    let upper : Transform := ⟨"upper(name)", "name", "string"⟩
    let plain : Transform := ⟨"name", "plain", "string"⟩
    let sample := Value.object [("name", .string "ada")]
    let result := Value.object [("name", .string "ADA"), ("plain", .string "ada")]
    ([upper, plain].map outputName).Nodup ∧ evalAll [upper, plain] sample = .ok result ∧
      evalAll [plain, upper] sample = .ok result := by
  intro upper plain sample result
  have hcall : Expr.call? (Text.trimmed "upper(name)".toList) = some (.upper, "name".toList) := by
    decide
  have hpath : Expr.call? (Text.trimmed "name".toList) = none := by decide
  have hplain : plain.eval sample = .ok (.string "ada") := by
    rw [eval, Expr.ofChars_of_not_call hpath]
    rfl
  have hupper : upper.eval sample = .ok (.string "ADA") := by
    rw [eval, Expr.ofChars_of_call hcall, Expr.eval]
    exact congrArg (· >>= TextFunction.upper.eval) hplain
  have hplace : insertMember "plain" (.string "ada") [("name", .string "ADA")] =
      [("name", .string "ADA"), ("plain", .string "ada")] :=
    Value.insertMember_of_forall_lt (List.forall_mem_singleton.2 (by decide))
  have heval : evalAll [upper, plain] sample = .ok result := by
    rw [evalAll_object, evalInto_cons_ok hupper, evalInto_cons_ok hplain]
    exact congrArg (fun members => Except.ok (Value.object members)) hplace
  have hnodup : ([upper, plain].map outputName).Nodup := by decide
  obtain ⟨-, horder⟩ :=
    (transforms_are_projections [("name", .string "ada")] [upper, plain]).2.2.2 hnodup
  exact ⟨hnodup, heval, (horder _ (.swap plain upper []) result).1 heval⟩

end Transform

end PipelineConsole
