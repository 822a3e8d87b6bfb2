import SdkBlueprint.Document.Yaml.Content
import SdkBlueprint.Proofs.Document.YamlCursor

/-! Scalars of YAML that do not fit their tags. A tag that wants a word, a number or a timestamp
may stand before a text that is none; this is no fault of the YAML text, and it is told apart. -/
namespace SdkBlueprint.Document.Yaml

/-- A numeral is empty or has characters that are no digits of it, or too many digits. -/
def numeralCauses : List Misuse := [.outOfRange, .badValue]

/-- No date or moment has these fields. -/
def TimestampFields.Impossible (f : TimestampFields) : Prop :=
  validDate f = false ∨ ∃ t, f.time = some t ∧ validTime t = false

/-- No scalar of the tag has the text, and what comes of looking for one. -/
inductive Unfit : Tag → String → Misuse → Prop
  | word {text} (unknown : Text.lower text ∉ trueWords ++ falseWords) : Unfit .bool text .missingKey
  | integer {text cause} (refused : intValue text = .error (.misuse cause))
      (sort : cause ∈ numeralCauses) : Unfit .int text cause
  | real {text cause} (refused : floatValue text = .error (.misuse cause))
      (sort : cause ∈ numeralCauses) : Unfit .float text cause
  | shapeless {text} (shape : timestampFields? text.toList = none) : Unfit .timestamp text .noFields
  | impossible {text fields} (shape : timestampFields? text.toList = some fields)
      (impossible : fields.Impossible) : Unfit .timestamp text .badValue

/-- Numerals are refused for what they are, and not as YAML. -/
def IsNumeralFault (r : Refusal) : Prop := ∃ cause ∈ numeralCauses, r = .misuse cause

theorem badNumeral {α : Type} : FailsAs IsNumeralFault (.error (.misuse .badValue) : Scan α) :=
  .error ⟨.badValue, by decide, rfl⟩

theorem emptyNumeral {α : Type} : FailsAs IsNumeralFault (.error (.misuse .outOfRange) : Scan α) :=
  .error ⟨.outOfRange, by decide, rfl⟩

theorem splitSign_fails (cs : List Char) : FailsAs IsNumeralFault (splitSign cs) := by
  cases cs with
  | nil => exact emptyNumeral
  | cons c rest => exact .ok _

theorem integer_fails (base : Nat) (cs : List Char) : FailsAs IsNumeralFault (integer base cs) := by
  unfold integer
  simp only []
  split
  · exact badNumeral
  · split
    · exact badNumeral
    · exact .ok _

theorem unsignedInteger_fails (cs : List Char) : FailsAs IsNumeralFault (unsignedInteger cs) := by
  unfold unsignedInteger
  split
  · exact .ok 0
  · exact integer_fails 2 _
  · exact integer_fails 16 _
  · exact integer_fails 8 _
  · exact emptyNumeral
  · split
    · exact (FailsAs.mapM fun part _ => integer_fails 10 part).bind fun parts _ => .ok _
    · exact integer_fails 10 _

theorem intValue_fails (text : String) : FailsAs IsNumeralFault (intValue text) := by
  refine (splitSign_fails _).bind fun split _ => ?_
  exact (unsignedInteger_fails _).bind fun n _ => .ok _

theorem realNumber_fails (cs : List Char) : FailsAs IsNumeralFault (realNumber cs) := by
  unfold realNumber
  simp only []
  split
  · exact .ok _
  · split
    · exact .ok _
    · split
      · exact .ok _
      · exact badNumeral

theorem floatValue_fails (text : String) : FailsAs IsNumeralFault (floatValue text) := by
  refine (splitSign_fails _).bind fun split _ => ?_
  simp only []
  split
  · exact .ok _
  · split
    · exact .ok _
    · split
      · exact (FailsAs.mapM fun part _ => realNumber_fails part).bind fun parts _ => .ok _
      · exact (realNumber_fails _).bind fun x _ => .ok _

theorem base64From_fails (place carry pads : Nat) (cs : List Char) :
    FailsAs Refusal.IsMalformed (base64From place carry pads cs) := by
  induction cs generalizing place carry pads with
  | nil =>
      unfold base64From
      split
      · exact .ok []
      · exact malformed_fails _
  | cons c rest ih =>
      unfold base64From
      split
      · split
        · exact .ok []
        · exact ih _ _ _
      · split
        · exact ih _ _ _
        · split
          · exact ih _ _ _
          · split
            · exact (ih _ _ _).map _
            · split
              · exact (ih _ _ _).map _
              · exact (ih _ _ _).map _

theorem base64_fails (text : String) : FailsAs Refusal.IsMalformed (base64 text) := by
  unfold base64
  split
  · exact base64From_fails _ _ _ _
  · exact malformed_fails _

theorem boolValue_misuse {text : String} {cause : Misuse} :
    boolValue text = .error (.misuse cause) ↔ Unfit .bool text cause := by
  constructor
  · intro h
    unfold boolValue at h
    simp only [] at h
    split at h
    · cases h
    · next noTrue =>
      split at h
      · cases h
      · next noFalse =>
        cases h
        refine .word fun known => ?_
        rcases List.mem_append.mp known with known | known
        · exact noTrue (List.elem_iff.mpr known)
        · exact noFalse (List.elem_iff.mpr known)
  · rintro ⟨unknown⟩
    simp only [List.mem_append, not_or] at unknown
    unfold boolValue
    simp only [List.contains_iff_mem, unknown.1, unknown.2, if_false]

theorem timestamp_misuse {text : String} {cause : Misuse} :
    timestamp text = .error (.misuse cause) ↔ Unfit .timestamp text cause := by
  constructor
  · intro h
    unfold timestamp at h
    split at h
    · next shape =>
      cases h
      exact .shapeless shape
    · next fields shape =>
      simp only [] at h
      split at h
      · split at h
        · cases h
        · next invalid =>
          cases h
          exact .impossible shape (.inl (by simpa using invalid))
      · next t time =>
        split at h
        · cases h
        · next invalid =>
          cases h
          refine .impossible shape ?_
          cases dated : validDate fields with
          | false => exact .inl dated
          | true => exact .inr ⟨t, time, by simpa [dated] using invalid⟩
  · intro h
    unfold timestamp
    cases h with
    | shapeless shape => rw [shape]
    | impossible shape impossible =>
        rw [shape]
        rcases impossible with invalid | ⟨t, time, late⟩
        · simp only [invalid, Bool.false_and, Bool.false_eq_true, if_false]
          split <;> rfl
        · simp only [time, late, Bool.and_false, Bool.false_eq_true, if_false]

/-- A scalar is refused as a scalar just where its text does not fit its tag. -/
theorem scalarValue?_misuse {tag : Tag} {text : String} {cause : Misuse} :
    scalarValue? tag (.ok text) = some (.error (.misuse cause)) ↔ Unfit tag text cause := by
  constructor
  · intro h
    cases tag with
    | bool => exact boolValue_misuse.mp (Option.some.inj h)
    | timestamp => exact timestamp_misuse.mp (Option.some.inj h)
    | int =>
        obtain ⟨_, sort, ⟨⟩⟩ := intValue_fails text _ (Option.some.inj h)
        exact .integer (Option.some.inj h) sort
    | float =>
        obtain ⟨_, sort, ⟨⟩⟩ := floatValue_fails text _ (Option.some.inj h)
        exact .real (Option.some.inj h) sort
    | binary =>
        have made := (base64_fails text).map Scalar.bytes
        obtain ⟨_, ⟨⟩⟩ := made _ (Option.some.inj h)
    | _ => cases h
  · intro h
    cases h with
    | word unknown => exact congrArg some (boolValue_misuse.mpr (.word unknown))
    | integer refused sort => exact congrArg some refused
    | real refused sort => exact congrArg some refused
    | shapeless shape => exact congrArg some (timestamp_misuse.mpr (.shapeless shape))
    | impossible shape impossible =>
        exact congrArg some (timestamp_misuse.mpr (.impossible shape impossible))

end SdkBlueprint.Document.Yaml
