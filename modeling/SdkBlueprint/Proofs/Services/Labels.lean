import SdkBlueprint.Proofs.Naming.Casing
import SdkBlueprint.Proofs.Text.AsciiCase
import SdkBlueprint.Services.ContentType

/-! Labels of content types. A content type spells its base in some case, between blanks, and with
parameters behind it; the base alone decides on the label. Labels have only letters and digits, and
plain JSON alone has none. -/
namespace SdkBlueprint
open SdkBlueprint.Text

/-- Nothing but ASCII letters and digits. -/
def Alphanumeric (s : String) : Prop := ∀ c ∈ s.toList, c.isAlphanum

instance (s : String) : Decidable (Alphanumeric s) :=
  decidable_of_iff (s.toList.all Char.isAlphanum = true) List.all_eq_true

theorem alphanumeric_ofList {cs : List Char} (h : ∀ c ∈ cs, c.isAlphanum) :
    Alphanumeric (String.ofList cs) := by
  rwa [Alphanumeric, String.toList_ofList]

theorem Naming.camel_alphanumeric (s : String) : Alphanumeric (camel s) :=
  alphanumeric_ofList (camelChars_alphanum s.toList)

namespace Services

/-- The content type has this base: its parameters begin at the first semicolon, and the word that
stands between blanks before them is the base in some case. -/
inductive Spells (contentType : String) : List Char → Prop
  | intro {piece word parameters : List Char} (whole : contentType.toList = piece ++ parameters)
      (plain : ';' ∉ piece) (begins : ∀ c ∈ parameters.head?, c = ';') (trims : Trims piece word) :
      Spells contentType (lowerChars word)

section Bases

theorem takeWhile_parameters {parameters : List Char} (begins : ∀ c ∈ parameters.head?, c = ';') :
    parameters.takeWhile (· != ';') = [] := by
  cases parameters with
  | nil => rfl
  | cons c rest =>
      obtain rfl : c = ';' := begins c rfl
      rfl

theorem takeWhile_plain {piece : List Char} (plain : ';' ∉ piece) (rest : List Char) :
    (piece ++ rest).takeWhile (· != ';') = piece ++ rest.takeWhile (· != ';') := by
  refine List.takeWhile_append_of_pos fun c hc => ?_
  have other : c ≠ ';' := fun same => plain (same ▸ hc)
  simpa using other

/-- Behind the first semicolon nothing matters. -/
theorem takeWhile_parametrised {piece : List Char} (parametrised : ';' ∈ piece)
    (rest : List Char) : (piece ++ rest).takeWhile (· != ';') = piece.takeWhile (· != ';') := by
  rw [List.takeWhile_append, if_neg]
  intro whole
  have kept := List.takeWhile_eq_self_iff.mp
    ((List.takeWhile_prefix (p := (· != ';')) (l := piece)).eq_of_length whole)
  exact absurd (kept ';' parametrised) (by decide)

theorem Spells.baseType_eq {contentType : String} {base : List Char}
    (h : Spells contentType base) : baseType contentType = base := by
  obtain ⟨whole, plain, begins, trims⟩ := h
  rw [baseType, whole, takeWhile_plain plain, takeWhile_parameters begins, List.append_nil,
    trims.eq_trimChars]

theorem spells_baseType (contentType : String) : Spells contentType (baseType contentType) := by
  refine .intro (List.takeWhile_append_dropWhile (p := (· != ';'))).symm (fun cut => ?_)
    (fun c hc => ?_) (trims_trimChars _)
  · exact absurd (List.mem_takeWhile_imp cut) (by decide)
  · have stops := List.head?_dropWhile_not (· != ';') contentType.toList
    rw [Option.mem_def.mp hc] at stops
    simpa using stops

theorem spells_iff {contentType : String} {base : List Char} :
    Spells contentType base ↔ baseType contentType = base :=
  ⟨Spells.baseType_eq, fun h => h ▸ spells_baseType contentType⟩

theorem plain_of_blank {cs : List Char} (blank : ∀ c ∈ cs, isBlank c) : ';' ∉ cs :=
  fun semicolon => absurd (blank ';' semicolon) (by decide)

/-- Blanks behind a content type stand before its parameters only if these come behind them. -/
theorem takeWhile_behind (piece : List Char) {back parameters : List Char}
    (blank : ∀ c ∈ back, isBlank c) (begins : ∀ c ∈ parameters.head?, c = ';') :
    ∃ rest : List Char, (∀ c ∈ rest, isBlank c) ∧
      (piece ++ (back ++ parameters)).takeWhile (· != ';') =
        piece.takeWhile (· != ';') ++ rest := by
  by_cases parametrised : ';' ∈ piece
  · refine ⟨[], fun c hc => absurd hc List.not_mem_nil, ?_⟩
    rw [takeWhile_parametrised parametrised, List.append_nil]
  · refine ⟨back, blank, ?_⟩
    have whole := takeWhile_plain parametrised []
    rw [List.append_nil, List.takeWhile_nil, List.append_nil] at whole
    rw [takeWhile_plain parametrised, takeWhile_plain (plain_of_blank blank),
      takeWhile_parameters begins, List.append_nil, whole]

/-- Blanks around a content type, the case of its letters and parameters behind it leave its base
as it is, whether it has parameters already or not. -/
theorem baseType_around {piece variant front back parameters : String}
    (case : SameButCase variant.toList piece.toList) (before : allBlank front = true)
    (behind : allBlank back = true) (begins : ∀ c ∈ parameters.toList.head?, c = ';') :
    baseType (front ++ variant ++ back ++ parameters) = baseType piece := by
  have blankFront := List.all_eq_true.mp before
  obtain ⟨rest, blankRest, kept⟩ :=
    takeWhile_behind variant.toList (List.all_eq_true.mp behind) begins
  have cut : SameButCase (variant.toList.takeWhile (· != ';'))
      (piece.toList.takeWhile (· != ';')) :=
    case.takeWhile (toLower_blind (· != ';') (by decide))
  have trims := (trims_trimChars (variant.toList.takeWhile (· != ';'))).widened blankFront blankRest
  rw [baseType, baseType, ← cut.trimmed.lowerChars_eq, ← trims.eq_trimChars]
  simp only [String.toList_append, List.append_assoc]
  rw [takeWhile_plain (plain_of_blank blankFront), kept]

end Bases

section Labels

theorem derivedLabel_spec (base : List Char) :
    Alphanumeric (derivedLabel base) ∧ derivedLabel base ≠ "" := by
  have word := Naming.pascalChars_alphanum (subtype base)
  unfold derivedLabel
  simp only []
  split
  · split
    · decide
    · have image : Alphanumeric "Image" := by decide
      refine ⟨alphanumeric_ofList fun c hc => (List.mem_append.mp hc).elim (image c) (word c), ?_⟩
      exact fun empty => absurd (congrArg String.toList empty) (by simp)
  · split
    · decide
    · next named =>
      exact ⟨alphanumeric_ofList word, fun empty =>
        named (by simpa using congrArg String.toList empty)⟩

/-- Of the types that have a label of their own only plain JSON has an empty one. -/
theorem knownLabel?_spec {base label : String} (h : knownLabel? base = some label) :
    Alphanumeric label ∧ (label = "" ↔ base = "application/json") := by
  unfold knownLabel? at h
  split at h
  case h_9 => cases h
  all_goals
    cases h
    decide

theorem contentLabel_spec (contentType : String) : Alphanumeric (contentLabel contentType) ∧
    (contentLabel contentType = "" ↔ baseType contentType = "application/json".toList) := by
  unfold contentLabel
  simp only []
  cases known : knownLabel? (String.ofList (baseType contentType)) with
  | none =>
      obtain ⟨word, named⟩ := derivedLabel_spec (baseType contentType)
      rw [Option.getD_none]
      refine ⟨word, iff_of_false named fun json => ?_⟩
      rw [json] at known
      cases known
  | some label =>
      obtain ⟨word, plain⟩ := knownLabel?_spec known
      rw [Option.getD_some, plain]
      refine ⟨word, fun json => ?_, fun json => ?_⟩
      · rw [← json, String.toList_ofList]
      · rw [json, String.ofList_toList]

end Labels

end Services
end SdkBlueprint
