import Mathlib
import SdkBlueprint.Proofs.Number.Written
import SdkBlueprint.Proofs.Population.Flattening
import SdkBlueprint.Proofs.Population.Shapes
import SdkBlueprint.Proofs.Text.Quoted

/-! Merging of validators. The texts of parameters tell their sorts and values, so that signatures
are shared by repeats only; and what is merged are the first validators of each signature, in order,
however the groups are taken together. -/
namespace SdkBlueprint
open SdkBlueprint.Document SdkBlueprint.Number SdkBlueprint.Text

theorem Document.decimal_injective : Function.Injective decimal := fun _ _ same =>
  Int.repr_injective (String.toList_inj.mp same)

namespace Param

/-- No text of a number begins with a quote. -/
theorem not_of_isQuote {c : Char} (quote : IsQuote c) :
    ¬ (c.isDigit = true ∨ c ∈ ['-', 'i', 'n']) := by
  rcases quote with rfl | rfl <;> decide

theorem int_ne_float (n : Int) (x : Binary64) : decimal n ≠ x.chars := by
  intro same
  obtain ⟨c, member, mark, other⟩ := x.chars_marked
  rcases decimal_digits (same ▸ member) with digit | sign
  · exact Bool.noConfusion (mark.symm.trans digit)
  · exact other sign

theorem int_ne_text (n : Int) (s : String) : decimal n ≠ quoteChars s.toList := by
  intro same
  have inside : quoteFor s.toList ∈ decimal n := same ▸ List.mem_cons_self
  refine not_of_isQuote (quoteFor_isQuote s.toList)
    ((decimal_digits inside).imp_right fun sign => ?_)
  exact sign ▸ List.mem_cons_self

theorem float_ne_text (x : Binary64) (s : String) : x.chars ≠ quoteChars s.toList := by
  intro same
  obtain ⟨c, rest, begins, shape⟩ := x.chars_head
  obtain ⟨rfl, -⟩ := List.cons.inj (same.symm.trans begins)
  exact not_of_isQuote (quoteFor_isQuote s.toList) shape

/-- Parameters with the same text are identical, if they are not both floats that are no numbers. -/
theorem eq_of_quotedChars {p q : Param} (same : p.scalar.quotedChars = q.scalar.quotedChars) :
    p = q ∨ ∃ x y, p = .float x ∧ q = .float y ∧ x.isNaN = true ∧ y.isNaN = true := by
  cases p with
  | int n =>
      cases q with
      | int m => exact .inl (congrArg Param.int (decimal_injective same))
      | float y => exact absurd same (int_ne_float n y)
      | text t => exact absurd same (int_ne_text n t)
  | float x =>
      cases q with
      | int m => exact absurd same.symm (int_ne_float m x)
      | float y =>
          rcases Binary64.chars_injective same with rfl | nans
          · exact .inl rfl
          · exact .inr ⟨x, y, rfl, rfl, nans⟩
      | text t => exact absurd same (float_ne_text x t)
  | text s =>
      cases q with
      | int m => exact absurd same.symm (int_ne_text m s)
      | float y => exact absurd same.symm (float_ne_text y s)
      | text t =>
          exact .inl (congrArg Param.text (String.toList_inj.mp (quoteChars_injective same)))

theorem quotedChars_ne_nil (p : Param) : p.scalar.quotedChars ≠ [] := by
  cases p with
  | int n => exact decimal_ne_nil n
  | float x =>
      obtain ⟨c, rest, begins, -⟩ := x.chars_head
      exact fun none => List.cons_ne_nil c rest (begins.symm.trans none)
  | text s => exact List.cons_ne_nil _ _

end Param

namespace Validator

/-- Signatures are shared by validators of one kind with identical parameters, where all floats that
are no numbers count as one. -/
theorem signature_eq_iff (v w : Validator) :
    v.signature = w.signature ↔ v.kind = w.kind ∧ (v.param = w.param ∨
      ∃ x y, v.param = some (.float x) ∧ w.param = some (.float y) ∧ x.isNaN = true ∧
        y.isNaN = true) := by
  obtain ⟨kind, param⟩ := v
  obtain ⟨kind', param'⟩ := w
  constructor
  · intro same
    obtain ⟨label, text⟩ := Prod.mk.inj same
    refine ⟨ValidatorKind.label_injective label, ?_⟩
    have given : ∀ p : Param, String.ofList p.scalar.quotedChars ≠ "" := fun p empty =>
      p.quotedChars_ne_nil (String.ofList_injective empty)
    cases param with
    | none =>
        cases param' with
        | none => exact .inl rfl
        | some q => exact absurd text.symm (given q)
    | some p =>
        cases param' with
        | none => exact absurd text (given p)
        | some q =>
            rcases Param.eq_of_quotedChars (String.ofList_injective text) with rfl | nans
            · exact .inl rfl
            · obtain ⟨x, y, rfl, rfl, nans⟩ := nans
              exact .inr ⟨x, y, rfl, rfl, nans⟩
  · rintro ⟨rfl, rfl | ⟨x, y, rfl, rfl, nan, nan'⟩⟩
    · rfl
    · have text : Scalar.quotedChars (.float x) = Scalar.quotedChars (.float y) :=
        (Binary64.chars_of_nan nan).trans (Binary64.chars_of_nan nan').symm
      exact congrArg (fun cs => (kind.label, String.ofList cs)) text

/-- The validators are the first ones of each signature in the list, in its order. -/
structure Firsts (all vs : List Validator) : Prop where
  signatures : ∀ s, s ∈ vs.map signature ↔ s ∈ all.map signature
  first : ∀ v ∈ vs, all.find? (fun w => w.signature == v.signature) = some v
  ordered : vs.Pairwise fun v w =>
    (all.map signature).idxOf v.signature < (all.map signature).idxOf w.signature

namespace Firsts

variable {all vs : List Validator}

theorem inside (h : Firsts all vs) {v : Validator} (kept : v ∈ vs) :
    v.signature ∈ all.map signature := (h.signatures _).mp (List.mem_map_of_mem kept)

theorem ordered_append (h : Firsts all vs) (more : List Validator) :
    vs.Pairwise fun v w => ((all ++ more).map signature).idxOf v.signature <
      ((all ++ more).map signature).idxOf w.signature := by
  refine h.ordered.imp_of_mem fun hv hw before => ?_
  rw [List.map_append, List.idxOf_append_of_mem (h.inside hv),
    List.idxOf_append_of_mem (h.inside hw)]
  exact before

theorem repeated (h : Firsts all vs) {v : Validator} (known : v.signature ∈ all.map signature) :
    Firsts (all ++ [v]) vs := by
  refine ⟨fun s => ?_, fun w hw => ?_, h.ordered_append [v]⟩
  · rw [h.signatures, List.map_append, List.mem_append]
    refine ⟨.inl, fun member => member.elim id fun last => ?_⟩
    exact (List.mem_singleton.mp last) ▸ known
  · rw [List.find?_append, h.first w hw]
    rfl

theorem added (h : Firsts all vs) {v : Validator} (fresh : v.signature ∉ all.map signature) :
    Firsts (all ++ [v]) (vs ++ [v]) := by
  refine ⟨fun s => ?_, fun w hw => ?_, List.pairwise_append.mpr
    ⟨h.ordered_append [v], List.pairwise_singleton _ v, fun w hw u hu => ?_⟩⟩
  · rw [List.map_append, List.map_append, List.mem_append, List.mem_append, h.signatures]
  · rw [List.find?_append]
    rcases List.mem_append.mp hw with old | new
    · rw [h.first w old]
      rfl
    · cases List.mem_singleton.mp new
      have none : all.find? (fun u => u.signature == v.signature) = none :=
        List.find?_eq_none.mpr fun u hu same =>
          fresh (List.mem_map.mpr ⟨u, hu, beq_iff_eq.mp same⟩)
      simp [none]
  · cases List.mem_singleton.mp hu
    rw [List.map_append, List.idxOf_append_of_mem (h.inside hw), List.idxOf_append_of_notMem fresh]
    exact Nat.lt_add_right _ (List.idxOf_lt_length_of_mem (h.inside hw))

end Firsts

theorem addNew_singleton (seen : List Validator) (v : Validator) :
    addNew seen [v] = if v.signature ∈ seen.map signature then seen else seen ++ [v] := by
  have known : (seen.any fun w => w.signature == v.signature) = true ↔
      v.signature ∈ seen.map signature := by
    simp
  rw [addNew, addNew, addNew]
  exact if_congr known rfl rfl

theorem addNew_firsts (vs : List Validator) : Firsts vs (addNew [] vs) := by
  induction vs using List.reverseRecOn with
  | nil => exact ⟨fun s => Iff.rfl, fun v hv => (List.not_mem_nil hv).elim, .nil⟩
  | append_singleton vs v ih =>
      rw [addNew_append, addNew_singleton]
      split
      · next known => exact ih.repeated ((ih.signatures _).mp known)
      · next fresh => exact ih.added fun known => fresh ((ih.signatures _).mpr known)

theorem mem_addNew_signatures (seen vs : List Validator) (s : String × String) :
    s ∈ (addNew seen vs).map signature ↔ s ∈ seen.map signature ∨ s ∈ vs.map signature := by
  induction vs generalizing seen with
  | nil => simp [addNew]
  | cons v vs ih =>
      rw [addNew, List.map_cons, List.mem_cons]
      split
      · next known =>
        obtain ⟨w, hw, same⟩ := List.any_eq_true.mp known
        rw [ih]
        refine ⟨fun h => h.imp_right .inr, ?_⟩
        rintro (old | rfl | new)
        · exact .inl old
        · exact .inl (List.mem_map.mpr ⟨w, hw, beq_iff_eq.mp same⟩)
        · exact .inr new
      · rw [ih, List.map_append, List.mem_append, List.map_singleton, List.mem_singleton, or_assoc]

/-- What was merged before can be added in place of what it was merged from. -/
theorem addNew_addNew (seen vs : List Validator) :
    addNew seen (addNew [] vs) = addNew seen vs := by
  induction vs using List.reverseRecOn with
  | nil => rfl
  | append_singleton vs v ih =>
      rw [addNew_append, addNew_append, addNew_singleton]
      split
      · next known =>
        have repeated : v.signature ∈ (addNew seen vs).map signature := by
          rw [mem_addNew_signatures, ← (addNew_firsts vs).signatures]
          exact .inr known
        rw [ih, addNew_singleton, if_pos repeated]
      · rw [addNew_append, ih]

/-- Merging a part of the groups first makes no difference. -/
theorem merge_nested (before mid after : List (List Validator)) :
    merge (before ++ merge mid :: after) = merge (before ++ mid ++ after) := by
  simp only [merge, List.flatten_append, List.flatten_cons, addNew_append, addNew_addNew]

theorem any_isLong_merge {groups : List (List Validator)}
    (short : ¬ groups.flatten.any isLong = true) : (merge groups).any isLong = false := by
  rw [List.any_eq_true, not_exists] at short
  exact List.any_eq_false.mpr fun v hv long => short v ⟨mem_of_mem_merge hv, long⟩

/-- Nor does it where parameters may be too long, since a part fails as the whole does. -/
theorem merge?_nested (before mid after : List (List Validator)) :
    (merge? mid >>= fun merged => merge? (before ++ merged :: after)) =
      merge? (before ++ mid ++ after) := by
  have parts : (before ++ mid ++ after).flatten.any isLong =
      (before.flatten.any isLong || mid.flatten.any isLong || after.flatten.any isLong) := by
    simp only [List.flatten_append, List.any_append]
  rw [merge?_eq mid, merge?_eq (before ++ mid ++ after), parts]
  split
  · next long => simp [long, misuse, bind, Except.bind]
  · next short =>
    change merge? (before ++ merge mid :: after) = _
    rw [merge?_eq, merge_nested]
    simp [any_isLong_merge short, Bool.eq_false_of_not_eq_true short]

/-- Merging comes to the merged validators if every signature can be taken, and to one failure
otherwise. -/
theorem merge?_cases (groups : List (List Validator)) :
    (merge? groups = .ok (merge groups) ∧
      ∀ v ∈ groups.flatten, v.signature? = .ok v.signature) ∨
    (merge? groups = .error (.misuse .badValue) ∧
      ∃ v ∈ groups.flatten, v.signature? = .error (.misuse .badValue)) := by
  rw [merge?_eq]
  split
  · next long =>
    obtain ⟨v, hv, isLong⟩ := List.any_eq_true.mp long
    exact .inr ⟨rfl, v, hv, if_pos isLong⟩
  · next short =>
    exact .inl ⟨rfl, fun v hv => if_neg fun isLong => short (List.any_eq_true.mpr ⟨v, hv, isLong⟩)⟩

/-- Merging keeps the first validators of each signature in their order; it may be done in parts,
and a second time, and with nothing. The signatures tell kinds and parameters apart, where all
floats that are no numbers count as one. A signature that cannot be taken makes every merge fail
that it takes part in, in parts or at once. -/
theorem merging_ordered_union :
    (∀ groups, Distinct (merge groups) ∧
      (∀ s, s ∈ (merge groups).map signature ↔ ∃ group ∈ groups, s ∈ group.map signature) ∧
      (∀ v ∈ merge groups,
        groups.flatten.find? (fun w => w.signature == v.signature) = some v) ∧
      (merge groups).Pairwise fun v w =>
        (groups.flatten.map signature).idxOf v.signature <
          (groups.flatten.map signature).idxOf w.signature) ∧
    (∀ a b c, merge [merge [a, b], c] = merge [a, b, c] ∧
      merge [a, merge [b, c]] = merge [a, b, c]) ∧
    (∀ groups, merge [merge groups] = merge groups) ∧
    (∀ a, merge [[], a] = merge [a] ∧ merge [a, []] = merge [a]) ∧
    (∀ v w : Validator, v.signature = w.signature ↔ v.kind = w.kind ∧ (v.param = w.param ∨
      ∃ x y, v.param = some (.float x) ∧ w.param = some (.float y) ∧ x.isNaN = true ∧
        y.isNaN = true)) ∧
    (∀ groups,
      (merge? groups = .ok (merge groups) ∧
        ∀ v ∈ groups.flatten, v.signature? = .ok v.signature) ∨
      (merge? groups = .error (.misuse .badValue) ∧
        ∃ v ∈ groups.flatten, v.signature? = .error (.misuse .badValue))) ∧
    (∀ a b c, (merge? [a, b] >>= fun ab => merge? [ab, c]) = merge? [a, b, c] ∧
      (merge? [b, c] >>= fun bc => merge? [a, bc]) = merge? [a, b, c]) ∧
    (∀ groups, (merge? groups >>= fun merged => merge? [merged]) = merge? groups) ∧
    ∀ a, merge? [[], a] = merge? [a] ∧ merge? [a, []] = merge? [a] := by
  refine ⟨fun groups => ?_, fun a b c => ⟨?_, ?_⟩, fun groups => ?_, fun a => ⟨?_, ?_⟩,
    signature_eq_iff, merge?_cases, fun a b c => ⟨?_, ?_⟩, fun groups => ?_, fun a => ⟨?_, ?_⟩⟩
  · have firsts := addNew_firsts groups.flatten
    refine ⟨merge_distinct groups, fun s => ?_, firsts.first, firsts.ordered⟩
    rw [merge, firsts.signatures, List.map_flatten, List.mem_flatten]
    simp only [List.mem_map (f := List.map signature), exists_exists_and_eq_and]
  · exact merge_nested [] [a, b] [c]
  · exact merge_nested [a] [b, c] []
  · exact (merge_nested [] groups []).trans (by rw [List.nil_append, List.append_nil])
  · rfl
  · simp [merge]
  · exact merge?_nested [] [a, b] [c]
  · exact merge?_nested [a] [b, c] []
  · exact (merge?_nested [] groups []).trans (by rw [List.nil_append, List.append_nil])
  · rfl
  · simp [merge?, merge]

end Validator
end SdkBlueprint
