import SdkBlueprint.Proofs.Blueprint.Validator
import SdkBlueprint.Proofs.Document.JsonForm

/-! Words and quoted texts of JSON. A word ends where a character follows that no word has, and a
quoted text at its closing quote; so what is written first of a text is told by the whole, and it
tells its scalar. -/
namespace SdkBlueprint
open SdkBlueprint.Document SdkBlueprint.Number

/-- Letters, digits and the marks of numbers. -/
def isWordChar (c : Char) : Bool := c.isAlphanum || c == '-' || c == '+' || c == '.'

theorem isWordChar_of_digit {c : Char} (digit : c.isDigit = true) : isWordChar c = true := by
  simp [isWordChar, Char.isAlphanum, digit]

namespace Number

/-- All characters are those of words. -/
def Wordy (cs : List Char) : Prop := ∀ c ∈ cs, isWordChar c = true

theorem wordy_of_all {cs : List Char} (h : cs.all isWordChar = true) : Wordy cs :=
  List.all_eq_true.mp h

theorem Wordy.append {cs ds : List Char} (hc : Wordy cs) (hd : Wordy ds) : Wordy (cs ++ ds) :=
  fun c member => (List.mem_append.mp member).elim (hc c) (hd c)

theorem Wordy.cons {c : Char} {cs : List Char} (first : isWordChar c = true) (rest : Wordy cs) :
    Wordy (c :: cs) := List.forall_mem_cons.mpr ⟨first, rest⟩

theorem Digits.wordy {cs : List Char} (h : Digits cs) : Wordy cs :=
  fun c member => isWordChar_of_digit (h c member)

theorem Decimal.write_wordy (d : Decimal) : Wordy d.write := by
  have digits := digits_toDigits d.digits
  have zeros := fun n => (digits_zeros n).wordy
  have end_ : Wordy ['.', '0'] := wordy_of_all rfl
  unfold write
  generalize Nat.toDigits 10 d.digits = ds at digits
  simp only
  split
  · split
    · exact .cons rfl (.cons rfl ((zeros _).append digits.wordy))
    · split
      · exact (digits.wordy.append (zeros _)).append end_
      · refine Wordy.append (fun c member => ?_) (.cons rfl fun c member => ?_)
        · exact digits.wordy c (List.mem_of_mem_take member)
        · exact digits.wordy c (List.mem_of_mem_drop member)
  · refine Wordy.append ?_ (.cons rfl (.cons ?_ ((zeros _).append (digits_toDigits _).wordy)))
    · split
      · exact digits.wordy
      · next c rest _ =>
        have all := List.forall_mem_cons.mp digits.wordy
        exact .cons all.1 (.cons rfl all.2)
      · exact nofun
    · split <;> rfl

theorem Binary64.unsignedChars_wordy (x : Binary64) : Wordy x.unsignedChars := by
  unfold unsignedChars
  split
  · exact wordy_of_all rfl
  · split
    · exact wordy_of_all rfl
    · exact Decimal.write_wordy _

end Number

namespace Document.Json
open Text

/-- What may stand after a word: nothing, or a character that no word has. -/
def Ends (cs : List Char) : Prop := ∀ c rest, cs = c :: rest → isWordChar c = false

theorem ends_nil : Ends [] := nofun

theorem ends_cons {c : Char} (h : isWordChar c = false) (rest : List Char) : Ends (c :: rest) := by
  rintro _ _ ⟨⟩
  exact h

theorem takeWhile_word {word : List Char} (wordy : Wordy word) {rest : List Char}
    (ends : Ends rest) : (word ++ rest).takeWhile isWordChar = word := by
  rw [List.takeWhile_append_of_pos wordy]
  cases rest with
  | nil => exact List.append_nil word
  | cons c rest =>
      rw [List.takeWhile_cons_of_neg (by simp [ends c rest rfl]), List.append_nil]

/-- Words before their ends are told from the whole. -/
theorem word_cancel {word word' r s : List Char} (wordy : Wordy word) (wordy' : Wordy word')
    (hr : Ends r) (hs : Ends s) (same : word ++ r = word' ++ s) : word = word' ∧ r = s := by
  have here : word = word' := by
    rw [← takeWhile_word wordy hr, same, takeWhile_word wordy' hs]
  exact ⟨here, List.append_cancel_left (here ▸ same)⟩

section Words

/-- Floats other than the one that equals none. -/
def IsNumber (x : Binary64) : Prop := x.isNaN = false

/-- The text without a sign. -/
def floatBody (x : Binary64) : List Char :=
  if x.isFinite then x.unsignedChars else "Infinity".toList

variable {x y : Binary64}

theorem floatChars_eq (number : x.isNaN = false) :
    floatChars x = if x.negative then '-' :: floatBody x else floatBody x := by
  rw [floatChars, floatBody, number, Binary64.chars_eq number]
  cases x.isFinite <;> cases x.negative <;> rfl

theorem floatBody_wordy (x : Binary64) : Wordy (floatBody x) := by
  unfold floatBody
  split
  · exact x.unsignedChars_wordy
  · exact wordy_of_all rfl

theorem floatBody_head (x : Binary64) : ∃ c rest, floatBody x = c :: rest ∧
    (c.isDigit = true ∧ x.isFinite = true ∨ c = 'I' ∧ x.isFinite = false) := by
  cases finite : x.isFinite with
  | true =>
      obtain ⟨c, rest, same, sort⟩ := x.unsignedChars_head
      rw [finite] at sort
      refine ⟨c, rest, by rw [floatBody, finite, ← same]; rfl, ?_⟩
      simpa using sort
  | false => exact ⟨'I', _, by rw [floatBody, finite]; rfl, .inr ⟨rfl, rfl⟩⟩

theorem unsignedChars_of_floatBody (same : floatBody x = floatBody y) :
    x.unsignedChars = y.unsignedChars := by
  obtain ⟨c, rest, here, sort⟩ := floatBody_head x
  obtain ⟨d, rest', there, sort'⟩ := floatBody_head y
  obtain ⟨rfl, -⟩ := List.cons.inj (here.symm.trans (same.trans there))
  rcases sort with ⟨digit, finite⟩ | ⟨rfl, infinite⟩
  · rcases sort' with ⟨-, finite'⟩ | ⟨rfl, -⟩
    · simpa [floatBody, finite, finite'] using same
    · exact absurd digit (by decide)
  · rcases sort' with ⟨digit, -⟩ | ⟨-, infinite'⟩
    · exact absurd digit (by decide)
    · rw [Binary64.unsignedChars_of_infinite infinite,
        Binary64.unsignedChars_of_infinite infinite']

theorem floatBody_ne_minus (x : Binary64) (rest : List Char) : floatBody x ≠ '-' :: rest := by
  obtain ⟨c, _, begins, sort⟩ := floatBody_head x
  rw [begins]
  rintro ⟨⟩
  revert sort
  simp

theorem floatChars_injective (number : x.isNaN = false) (number' : y.isNaN = false)
    (same : floatChars x = floatChars y) : x = y := by
  rw [floatChars_eq number, floatChars_eq number'] at same
  have chars : x.chars = y.chars := by
    rw [Binary64.chars_eq number, Binary64.chars_eq number']
    cases sign : x.negative <;> cases sign' : y.negative <;> rw [sign, sign'] at same
    · exact unsignedChars_of_floatBody same
    · exact absurd same (floatBody_ne_minus x _)
    · exact absurd same.symm (floatBody_ne_minus y _)
    · exact congrArg ('-' :: ·) (unsignedChars_of_floatBody (List.cons.inj same).2)
  rcases Binary64.chars_injective chars with same | nans
  · exact same
  · exact absurd (number.symm.trans nans.1) (by decide)

theorem scalarChars_wordy {s : Scalar} (word : IsWord IsNumber s) (asciiOnly : Bool) :
    Wordy (scalarChars asciiOnly s) := by
  cases s with
  | null => exact wordy_of_all rfl
  | bool b => cases b <;> exact wordy_of_all rfl
  | int n =>
      intro c member
      rcases decimal_digits member with digit | rfl
      · exact isWordChar_of_digit digit
      · rfl
  | float x =>
      rw [scalarChars, floatChars_eq word]
      split
      · exact .cons rfl (floatBody_wordy x)
      · exact floatBody_wordy x
  | _ => exact word.elim

/-- A number begins with a digit, a sign or the letter of infinity, and the other words with letters
of their own. -/
theorem floatChars_head (number : x.isNaN = false) :
    ∃ c rest, floatChars x = c :: rest ∧ (c.isDigit = true ∨ c ∈ ['-', 'I']) := by
  rw [floatChars_eq number]
  split
  · exact ⟨'-', _, rfl, .inr (by decide)⟩
  · obtain ⟨c, rest, same, sort⟩ := floatBody_head x
    refine ⟨c, rest, same, sort.imp (·.1) fun h => ?_⟩
    rw [h.1]
    decide

/-- A float has a point, an exponent or a letter, which no integer has. -/
theorem floatChars_marked (number : x.isNaN = false) :
    ∃ c ∈ floatChars x, c.isDigit = false ∧ c ≠ '-' := by
  cases finite : x.isFinite with
  | true =>
      have same : floatChars x = x.chars := by simp [floatChars, number, finite]
      exact same ▸ x.chars_marked
  | false =>
      refine ⟨'I', ?_, by decide⟩
      rw [floatChars_eq number, floatBody, finite]
      split
      · exact List.mem_cons_of_mem '-' List.mem_cons_self
      · exact List.mem_cons_self

/-- What a word stands for. -/
inductive WordSort where
  | nothing
  | truth
  | integer
  | number

/-- The sort that a word is of by its characters. -/
def readSort (cs : List Char) : WordSort :=
  if cs.all fun c => c.isDigit || c == '-' then .integer
  else
    match cs.head? with
    | some 'n' => .nothing
    | some 't' => .truth
    | some 'f' => .truth
    | _ => .number

def sortOf : Scalar → WordSort
  | .null => .nothing
  | .bool _ => .truth
  | .int _ => .integer
  | _ => .number

theorem readSort_scalarChars {s : Scalar} (word : IsWord IsNumber s) (asciiOnly : Bool) :
    readSort (scalarChars asciiOnly s) = sortOf s := by
  cases s with
  | null => rfl
  | bool b => cases b <;> rfl
  | int n =>
      refine if_pos (List.all_eq_true.mpr fun c member => ?_)
      simpa using decimal_digits member
  | float x =>
      obtain ⟨mark, member, letter, other⟩ := floatChars_marked word
      obtain ⟨c, rest, begins, sort⟩ := floatChars_head word
      have mixed : ¬ ((floatChars x).all fun c => c.isDigit || c == '-') = true := by
        intro all
        have := List.all_eq_true.mp all mark member
        simp [letter, other] at this
      rw [scalarChars, readSort, if_neg mixed, begins, List.head?_cons]
      split
      · next same => exact absurd (Option.some.inj same ▸ sort) (by decide)
      · next same => exact absurd (Option.some.inj same ▸ sort) (by decide)
      · next same => exact absurd (Option.some.inj same ▸ sort) (by decide)
      · rfl
  | _ => exact word.elim

/-- Words tell their scalars. -/
theorem scalarChars_injective {s t : Scalar} (hs : IsWord IsNumber s) (ht : IsWord IsNumber t)
    {asciiOnly : Bool} (same : scalarChars asciiOnly s = scalarChars asciiOnly t) : s = t := by
  have sorts := congrArg readSort same
  rw [readSort_scalarChars hs, readSort_scalarChars ht] at sorts
  cases s with
  | null =>
      cases t with
      | null => rfl
      | _ => cases sorts
  | bool a =>
      cases t with
      | bool b => cases a <;> cases b <;> first | rfl | cases same
      | _ => cases sorts
  | int n =>
      cases t with
      | int m => exact congrArg Scalar.int (decimal_injective same)
      | _ => cases sorts
  | float x =>
      cases t with
      | float y => exact congrArg Scalar.float (floatChars_injective hs ht same)
      | null => cases sorts
      | bool b => cases sorts
      | int m => cases sorts
      | _ => exact ht.elim
  | _ => exact hs.elim

end Words

section Texts

/-- The first character of a text before its closing quote, and what follows it. -/
def readEscaped : List Char → Option (Char × List Char)
  | [] => none
  | '"' :: _ => none
  | '\\' :: 'n' :: rest => some ('\n', rest)
  | '\\' :: 'r' :: rest => some ('\r', rest)
  | '\\' :: 't' :: rest => some ('\t', rest)
  | '\\' :: 'b' :: rest => some (Char.ofNat 8, rest)
  | '\\' :: 'f' :: rest => some (Char.ofNat 12, rest)
  | '\\' :: 'u' :: rest => readCode 4 rest
  | '\\' :: c :: rest => some (c, rest)
  | c :: rest => some (c, rest)

theorem readEscaped_plain {c : Char} (quote : c ≠ '"') (slash : c ≠ '\\') (rest : List Char) :
    readEscaped (c :: rest) = some (c, rest) := by
  unfold readEscaped
  split
  all_goals simp_all

/-- A character reads back from its escape, whatever follows it. -/
theorem readEscaped_escapeChar (c : Char) (rest : List Char) :
    readEscaped (escapeChar false c ++ rest) = some (c, rest) := by
  fun_cases escapeChar false c with
  | case1 special =>
      rw [Bool.or_eq_true, beq_iff_eq, beq_iff_eq] at special
      rcases special with rfl | rfl <;> rfl
  | case2 _ line =>
      rw [beq_iff_eq.mp line]
      rfl
  | case3 _ _ line =>
      rw [beq_iff_eq.mp line]
      rfl
  | case4 _ _ _ tab =>
      rw [beq_iff_eq.mp tab]
      rfl
  | case5 _ _ _ _ code =>
      rw [← Char.ofNat_toNat c, beq_iff_eq.mp code]
      rfl
  | case6 _ _ _ _ _ code =>
      rw [← Char.ofNat_toNat c, beq_iff_eq.mp code]
      rfl
  | case7 _ _ _ _ _ _ small => exact readCode_hexDigits (by omega) rest
  | case8 _ _ _ _ _ _ _ ascii => cases ascii
  | case9 special =>
      rw [Bool.or_eq_true, beq_iff_eq, beq_iff_eq, not_or] at special
      exact readEscaped_plain special.1 special.2 rest

/-- Texts up to their closing quotes are told from the whole. -/
theorem quoteChars_cancel {cs ds r s : List Char}
    (same : Json.quoteChars false cs ++ r = Json.quoteChars false ds ++ s) : cs = ds ∧ r = s := by
  have inner : cs.flatMap (escapeChar false) ++ '"' :: r =
      ds.flatMap (escapeChar false) ++ '"' :: s := by
    simpa [Json.quoteChars] using same
  obtain ⟨texts, rest⟩ := flatMap_cancel readEscaped_escapeChar rfl rfl inner
  exact ⟨texts, (List.cons.inj rest).2⟩

end Texts

end Document.Json
end SdkBlueprint
