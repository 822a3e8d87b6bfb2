import SdkBlueprint.Proofs.Journal
import SdkBlueprint.Proofs.Number.Written
import SdkBlueprint.Source.Version

/-! Versions of documents. Those of the third generation are accepted and all others refused. With a
patch number the remark on a newer version goes by the minor number; without one it is always made,
since the versions that need none are told by their texts up to the second point. -/
namespace SdkBlueprint.Source
open SdkBlueprint.Document SdkBlueprint.Number

/-- A version of the third generation. -/
structure Release where
  minor : Nat
  patch : Option Nat
  deriving DecidableEq

namespace Release

def patchText : Option Nat → String
  | none => ""
  | some p => "." ++ toString p

def text (r : Release) : String := "3." ++ toString r.minor ++ patchText r.patch

def patchChars : Option Nat → List Char
  | none => []
  | some p => '.' :: Nat.toDigits 10 p

theorem patchText_toList (patch : Option Nat) : (patchText patch).toList = patchChars patch := by
  cases patch with
  | none => rfl
  | some p =>
      rw [patchText, String.toList_append, Nat.toString_eq_repr, Nat.toList_repr]
      rfl

theorem text_toList (r : Release) :
    r.text.toList = '3' :: '.' :: (Nat.toDigits 10 r.minor ++ patchChars r.patch) := by
  rw [text, String.toList_append, String.toList_append, patchText_toList, Nat.toString_eq_repr,
    Nat.toList_repr]
  rfl

/-- The text begins with a minor number and a point only if the number is its own, and if a patch
follows: the first point after the third generation's ends the digits of the minor number. -/
theorem minor_prefix (r : Release) (n : Nat) :
    '3' :: '.' :: (Nat.toDigits 10 n ++ ['.']) <+: r.text.toList ↔
      r.minor = n ∧ r.patch.isSome = true := by
  rw [text_toList, List.cons_prefix_cons, List.cons_prefix_cons]
  constructor
  · rintro ⟨-, -, rest, same⟩
    rw [List.append_assoc, List.singleton_append] at same
    cases patch : r.patch with
    | none =>
        rw [patch, patchChars, List.append_nil] at same
        have point : '.' ∈ Nat.toDigits 10 r.minor := same ▸ by simp
        exact absurd point (digits_toDigits r.minor).no_point
    | some p =>
        have parts := congrArg (cut '.') same
        rw [patch, patchChars, cut_of_mem (digits_toDigits n).no_point,
          cut_of_mem (digits_toDigits r.minor).no_point] at parts
        have digits := (Prod.mk.inj parts).1
        refine ⟨?_, rfl⟩
        rw [← Nat.ofDigitChars_ten_toDigits (n := r.minor), ← digits,
          Nat.ofDigitChars_ten_toDigits]
  · rintro ⟨rfl, given⟩
    obtain ⟨p, patch⟩ := Option.isSome_iff_exists.mp given
    refine ⟨rfl, rfl, Nat.toDigits 10 p, ?_⟩
    rw [patch, patchChars, List.append_assoc, List.singleton_append]

theorem isSupported_text (r : Release) : isSupported r.text = true := by
  rw [isSupported, List.isPrefixOf_iff_prefix, text_toList]
  exact ⟨_, rfl⟩

theorem isKnown_text (r : Release) :
    isKnown r.text = true ↔ r.minor ≤ 1 ∧ r.patch.isSome = true := by
  have zero : "3.0.".toList <+: r.text.toList ↔ r.minor = 0 ∧ r.patch.isSome = true :=
    r.minor_prefix 0
  have one : "3.1.".toList <+: r.text.toList ↔ r.minor = 1 ∧ r.patch.isSome = true :=
    r.minor_prefix 1
  rw [isKnown, Bool.or_eq_true, List.isPrefixOf_iff_prefix, List.isPrefixOf_iff_prefix, zero, one,
    Nat.le_one_iff_eq_zero_or_eq_one, or_and_right]

end Release

/-- The warning that a version is newer than those known. -/
def newer (version : String) : Entry := .remark .source .warning (newerMessage version)

theorem isNull_of_supported {v : Value} (supported : isSupported v.display = true) :
    v.isNull = false := by
  unfold Value.isNull
  split
  · exact absurd supported (by decide)
  · rfl

/-- A list or mapping is shown between brackets, and an integer without a point. -/
theorem isShort_of_supported {v : Value} (supported : isSupported v.display = true) :
    v.isShort = true := by
  rw [isSupported, List.isPrefixOf_iff_prefix] at supported
  obtain ⟨rest, shown⟩ := supported
  change '3' :: '.' :: rest = v.display.toList at shown
  unfold Value.display at shown
  split at shown
  · next s =>
    rw [Scalar.display, String.toList_ofList] at shown
    cases s with
    | int n =>
        change _ = decimal n at shown
        have point : '.' ∈ decimal n := shown ▸ List.mem_cons_of_mem _ List.mem_cons_self
        exact absurd (decimal_digits point) (by decide)
    | _ => rfl
  · next other =>
    rw [String.toList_ofList] at shown
    cases v with
    | scalar s => exact absurd rfl (other s)
    | list items => simp [Value.quotedChars] at shown
    | map entries => simp [Value.quotedChars] at shown
    | set members =>
        rw [Value.quotedChars, setQuoted] at shown
        split at shown <;> simp at shown

section Outcomes

variable {document : Value} (j : Journal)

theorem checkVersion_swagger {v : Value} (declared : document.field? "swagger" = some v)
    (short : v.isShort = true) :
    (checkVersion document).run j = (.error (.document (.swagger v.display)), j) := by
  rw [checkVersion, declared]
  simp only [display?_of_short short]
  rfl

variable (modern : document.field? "swagger" = none)
include modern

theorem checkVersion_null (null : (document.field "openapi").isNull = true) :
    (checkVersion document).run j = (.error (.document .noVersion), j) := by
  rw [checkVersion, modern]
  simp only [null]
  rfl

theorem checkVersion_other (there : (document.field "openapi").isNull = false)
    (short : (document.field "openapi").isShort = true)
    (other : isSupported (document.field "openapi").display = false) :
    (checkVersion document).run j =
      (.error (.document (.unsupportedVersion (document.field "openapi").display)), j) := by
  rw [checkVersion, modern]
  simp only [there, display?_of_short short, Logged.attempt_ok_bind, other]
  rfl

theorem checkVersion_supported (supported : isSupported (document.field "openapi").display = true) :
    (checkVersion document).run j = (.ok (document.field "openapi").display,
      j ++ if isKnown (document.field "openapi").display then []
        else [newer (document.field "openapi").display]) := by
  rw [checkVersion, modern]
  simp only [isNull_of_supported supported, display?_of_short (isShort_of_supported supported),
    Logged.attempt_ok_bind, supported]
  cases known : isKnown (document.field "openapi").display with
  | true => exact congrArg (Prod.mk _) (List.append_nil j).symm
  | false => rfl

end Outcomes

/-- The document names a version before the third generation, none, or one of another generation. -/
def Outdated (document : Value) : Prop :=
  document.hasField "swagger" = true ∨ (document.field "openapi").isNull = true ∨
    ¬ "3.".toList <+: (document.field "openapi").display.toList

/-- The version that a document is checked by: one before the third generation comes first. -/
def checkedVersion (document : Value) : Value :=
  (document.field? "swagger").getD (document.field "openapi")

theorem checkVersion_outdated {document : Value} (outdated : Outdated document)
    (short : (checkedVersion document).isShort = true) (j : Journal) :
    ∃ cause, (checkVersion document).run j = (.error (.document cause), j) := by
  cases declared : document.field? "swagger" with
  | some v =>
      rw [checkedVersion, declared] at short
      exact ⟨_, checkVersion_swagger j declared short⟩
  | none =>
      rw [checkedVersion, declared] at short
      cases null : (document.field "openapi").isNull with
      | true => exact ⟨_, checkVersion_null j declared null⟩
      | false =>
          rcases outdated with swagger | none | other
          · rw [Value.hasField, declared] at swagger
            cases swagger
          · exact absurd (null.symm.trans none) (by decide)
          · rw [← List.isPrefixOf_iff_prefix, Bool.not_eq_true] at other
            exact ⟨_, checkVersion_other j declared null short other⟩

/-- A version with an integer that cannot be written stops the check. -/
theorem checkVersion_long {document : Value} (long : (checkedVersion document).isShort = false)
    (j : Journal) : (checkVersion document).run j = (.error (.misuse .badValue), j) := by
  cases declared : document.field? "swagger" with
  | some v =>
      rw [checkedVersion, declared, Option.getD_some] at long
      rw [checkVersion, declared]
      simp only [display?_of_long long]
      rfl
  | none =>
      rw [checkedVersion, declared, Option.getD_none] at long
      have there : (document.field "openapi").isNull = false := by
        unfold Value.isNull
        split
        · next null =>
          rw [null] at long
          cases long
        · rfl
      rw [checkVersion, declared]
      simp only [there, display?_of_long long]
      rfl

/-- A version of the third generation is accepted as it is written. With a patch number the warning
on a newer version is given exactly for minor numbers above one, without one it is always given. A
document is refused exactly if it is outdated, and then nothing is written into the journal; the
error is one of documents unless the version has an integer that cannot be written. -/
theorem version_outcomes (document : Value) (j : Journal) :
    (∀ r : Release, document.hasField "swagger" = false →
      (document.field "openapi").display = r.text →
      (checkVersion document).run j =
        (.ok r.text, j ++ if 1 < r.minor ∨ r.patch = none then [newer r.text] else [])) ∧
    (Outdated document ↔ ∃ f k, (checkVersion document).run j = (.error f, k)) ∧
    (Outdated document → (checkedVersion document).isShort = true →
      ∃ cause, (checkVersion document).run j = (.error (.document cause), j)) ∧
    ((checkedVersion document).isShort = false →
      (checkVersion document).run j = (.error (.misuse .badValue), j)) := by
  refine ⟨fun r modern written => ?_, ⟨fun outdated => ?_, ?_⟩,
    fun outdated short => checkVersion_outdated outdated short j, fun long =>
    checkVersion_long long j⟩
  · rw [Value.hasField, Option.isSome_eq_false_iff, Option.isNone_iff_eq_none] at modern
    rw [checkVersion_supported j modern (written ▸ r.isSupported_text), written]
    have known : isKnown r.text = true ↔ ¬ (1 < r.minor ∨ r.patch = none) := by
      rw [r.isKnown_text, Option.isSome_iff_ne_none, not_or, Nat.not_lt]
    by_cases old : isKnown r.text = true
    · rw [if_pos old, if_neg (known.mp old)]
    · rw [if_neg old, if_pos (not_not.mp (mt known.mpr old))]
  · cases short : (checkedVersion document).isShort with
    | true =>
        obtain ⟨cause, run⟩ := checkVersion_outdated outdated short j
        exact ⟨_, _, run⟩
    | false => exact ⟨_, _, checkVersion_long short j⟩
  · rintro ⟨f, k, run⟩
    by_contra current
    obtain ⟨modern, -, third⟩ := not_or.mp current |>.imp_right not_or.mp
    rw [Value.hasField, Bool.not_eq_true, Option.isSome_eq_false_iff,
      Option.isNone_iff_eq_none] at modern
    rw [not_not, ← List.isPrefixOf_iff_prefix] at third
    cases (checkVersion_supported j modern third).symm.trans run

/-- A document that says nothing but its version. -/
def versionOnly (version : Scalar) : Value := .map [(.text "openapi", .scalar version)]

/-- The number 3.0. -/
def threePointZero : Binary64 := .ofDecimal false 30 2 (-1)

/-- The tenth minor version is newer than the first, though its text begins alike; and a version of
the second generation is refused. -/
theorem version_minorTen :
    (checkVersion (versionOnly (.text "3.1.0"))).run [] = (.ok "3.1.0", []) ∧
      (checkVersion (versionOnly (.text "3.10.0"))).run [] = (.ok "3.10.0", [newer "3.10.0"]) ∧
      (checkVersion (versionOnly (.float threePointZero))).run [] = (.ok "3.0", [newer "3.0"]) ∧
      ∃ cause, (checkVersion (versionOnly (.int 2))).run [] = (.error (.document cause), []) := by
  refine ⟨?_, ?_, ?_, ?_⟩
  · exact (version_outcomes (versionOnly (.text "3.1.0")) []).1 ⟨1, some 0⟩ rfl (by decide)
  · exact (version_outcomes (versionOnly (.text "3.10.0")) []).1 ⟨10, some 0⟩ rfl (by decide)
  · exact (version_outcomes (versionOnly (.float threePointZero)) []).1 ⟨0, none⟩ rfl
      (by decide +kernel)
  · exact (version_outcomes (versionOnly (.int 2)) []).2.2.1 (.inr (.inr (by decide))) (by decide)

/-- A version without a patch number is said to be newer, even the first of its generation. -/
theorem version_slips :
    ¬ ∀ (document : Value) (r : Release), document.hasField "swagger" = false →
      (document.field "openapi").display = r.text →
      (newer r.text ∈ (checkVersion document).entries ↔ 1 < r.minor) := by
  intro newerOnly
  have warned : newer "3.0" ∈ (checkVersion (versionOnly (.float threePointZero))).entries := by
    decide +kernel
  have above := (newerOnly (versionOnly (.float threePointZero)) ⟨0, none⟩ rfl
    (by decide +kernel)).mp warned
  exact absurd above (by decide)

end SdkBlueprint.Source
