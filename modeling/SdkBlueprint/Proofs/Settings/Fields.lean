import SdkBlueprint.Proofs.Schema.Typed
import SdkBlueprint.Settings

/-! The fields of settings, one by one. The check of a mapping reads these four and nothing else,
each with the same rule: a value that the field admits is taken, and an absent one has a default. -/
namespace SdkBlueprint.Settings
open SdkBlueprint.Document

inductive Field where
  | reservedSuffix
  | extraReservedWords
  | defaultTag
  | serviceSuffix
  deriving DecidableEq

namespace Field

def name : Field → String
  | reservedSuffix => "reserved_suffix"
  | extraReservedWords => "extra_reserved_words"
  | defaultTag => "default_tag"
  | serviceSuffix => "service_suffix"

/-- Values that the field may have. -/
def Admits : Field → Value → Prop
  | reservedSuffix, v => ∃ t, t ≠ "" ∧ v = .text t
  | extraReservedWords, v => ∃ words : List String, v = .list (words.map .text)
  | defaultTag, v => ∃ t, v = .text t
  | serviceSuffix, v => ∃ t, v = .text t

/-- What the check finds wrong with the field. -/
def faults : Field → Option Value → List FieldFault
  | reservedSuffix => suffixFaults
  | extraReservedWords => wordListFaults
  | defaultTag => textFaults "default_tag"
  | serviceSuffix => textFaults "service_suffix"

end Field

def value (s : Settings) : Field → Value
  | .reservedSuffix => .text s.reservedSuffix
  | .extraReservedWords => .list (s.extraReservedWords.map .text)
  | .defaultTag => .text s.defaultTag
  | .serviceSuffix => .text s.serviceSuffix

variable {given other : Value}

theorem textFaults_eq_nil {field : String} {v : Option Value} :
    textFaults field v = [] ↔ ∀ w ∈ v, ∃ t, w = .text t := by
  unfold textFaults
  split
  · simp
  · simp [Value.text]
  · next w other =>
    simp only [List.cons_ne_nil, Option.mem_some_iff, forall_eq', false_iff]
    rintro ⟨t, rfl⟩
    exact other t rfl

theorem suffixFaults_eq_nil {v : Option Value} :
    suffixFaults v = [] ↔ ∀ w ∈ v, ∃ t, t ≠ "" ∧ w = .text t := by
  unfold suffixFaults
  split
  · simp [Value.text]
  · next nonempty =>
    rw [textFaults_eq_nil]
    refine forall₂_congr fun w hw => exists_congr fun t => ⟨fun text => ⟨?_, text⟩, And.right⟩
    rintro rfl
    subst text
    exact nonempty hw

theorem wordFaults_eq_nil {position : Nat} {words : List Value} :
    wordFaults position words = [] ↔ ∃ texts : List String, words = texts.map .text := by
  induction words generalizing position with
  | nil => exact ⟨fun _ => ⟨[], rfl⟩, fun _ => rfl⟩
  | cons w words ih =>
      rw [wordFaults, List.append_eq_nil_iff, ih]
      constructor
      · rintro ⟨here, texts, rfl⟩
        split at here
        · next text =>
          obtain ⟨t, rfl⟩ := Schema.text_of_isSome text
          exact ⟨t :: texts, rfl⟩
        · cases here
      · rintro ⟨texts, same⟩
        cases texts with
        | nil => cases same
        | cons t texts =>
            cases same
            exact ⟨rfl, texts, rfl⟩

theorem wordListFaults_eq_nil {v : Option Value} :
    wordListFaults v = [] ↔ ∀ w ∈ v, ∃ texts : List String, w = .list (texts.map .text) := by
  unfold wordListFaults
  split
  · simp
  · simp [wordFaults_eq_nil]
  · next w other =>
    simp only [List.cons_ne_nil, Option.mem_some_iff, forall_eq', false_iff]
    rintro ⟨texts, rfl⟩
    exact other _ rfl

theorem Field.faults_eq_nil {f : Field} {v : Option Value} :
    f.faults v = [] ↔ ∀ w ∈ v, f.Admits w := by
  cases f with
  | reservedSuffix => exact suffixFaults_eq_nil
  | extraReservedWords => exact wordListFaults_eq_nil
  | defaultTag => exact textFaults_eq_nil
  | serviceSuffix => exact textFaults_eq_nil

theorem faults_eq_nil :
    faults given = [] ↔ ∀ f : Field, ∀ v ∈ given.field? f.name, f.Admits v := by
  have each : faults given = [] ↔ ∀ f : Field, f.faults (given.field? f.name) = [] := by
    simp only [faults, List.append_eq_nil_iff]
    constructor
    · rintro ⟨⟨⟨suffix, words⟩, tag⟩, service⟩ f
      cases f with
      | reservedSuffix => exact suffix
      | extraReservedWords => exact words
      | defaultTag => exact tag
      | serviceSuffix => exact service
    · intro all
      exact ⟨⟨⟨all .reservedSuffix, all .extraReservedWords⟩, all .defaultTag⟩, all .serviceSuffix⟩
  exact each.trans (forall_congr' fun f => f.faults_eq_nil)

theorem textField_value {field default : String}
    (admitted : ∀ v ∈ given.field? field, ∃ t, v = .text t) :
    .text (textField given field default) = (given.field? field).getD (.text default) := by
  unfold textField
  cases there : given.field? field with
  | none => rfl
  | some v =>
      obtain ⟨t, rfl⟩ := admitted v there
      rfl

theorem wordField_value (admitted : ∀ v ∈ given.field? "extra_reserved_words",
      ∃ words : List String, v = .list (words.map .text)) :
    .list ((wordField given).map .text) =
      (given.field? "extra_reserved_words").getD (.list []) := by
  unfold wordField
  cases there : given.field? "extra_reserved_words" with
  | none => rfl
  | some v =>
      obtain ⟨words, rfl⟩ := admitted v there
      have texts : (words.map Value.text).filterMap Value.textOf? = words := by
        rw [List.filterMap_map]
        exact List.filterMap_some
      simp only [texts, Option.getD_some]

/-- What is admitted is taken as it is. -/
theorem check_admitted (admitted : ∀ f : Field, ∀ v ∈ given.field? f.name, f.Admits v) :
    ∃ s, check given = .ok s ∧ ∀ f, s.value f = (given.field? f.name).getD (defaults.value f) := by
  have clean := faults_eq_nil.mpr admitted
  unfold check
  rw [clean]
  refine ⟨_, rfl, fun f => ?_⟩
  cases f with
  | reservedSuffix =>
      refine textField_value fun v hv => ?_
      obtain ⟨t, _, text⟩ := admitted .reservedSuffix v hv
      exact ⟨t, text⟩
  | extraReservedWords => exact wordField_value (admitted .extraReservedWords)
  | defaultTag => exact textField_value (admitted .defaultTag)
  | serviceSuffix => exact textField_value (admitted .serviceSuffix)

theorem check_refused {f : Field} {v : Value} (there : given.field? f.name = some v)
    (refused : ¬ f.Admits v) : ∃ faults, check given = .error faults := by
  have faulty : faults given ≠ [] := fun clean => refused (faults_eq_nil.mp clean f v there)
  unfold check
  split
  · next clean => exact absurd clean faulty
  · exact ⟨_, rfl⟩

theorem check_congr (same : ∀ f : Field, given.field? f.name = other.field? f.name) :
    check given = check other := by
  have suffix := same .reservedSuffix
  have words := same .extraReservedWords
  have tag := same .defaultTag
  have service := same .serviceSuffix
  simp only [Field.name] at suffix words tag service
  simp only [check, faults, textField, wordField, suffix, words, tag, service]

end SdkBlueprint.Settings
