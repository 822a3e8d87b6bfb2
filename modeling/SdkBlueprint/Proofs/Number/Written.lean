import SdkBlueprint.Document.Display
import SdkBlueprint.Proofs.Number.Shortest

/-! Texts of numbers. A text is read back as digits around a point with a power of ten, which is the
number that was written; so doubles that are not NaN have one text only if they are the same. -/
namespace SdkBlueprint.Number
open Magnitude

/-- What stands before the first such character, and what stands after it. -/
def cut (c : Char) : List Char → List Char × List Char
  | [] => ([], [])
  | d :: cs => if d = c then ([], cs) else (d :: (cut c cs).1, (cut c cs).2)

theorem cut_of_mem {c : Char} {cs : List Char} (absent : c ∉ cs) (ds : List Char) :
    cut c (cs ++ c :: ds) = (cs, ds) := by
  induction cs with
  | nil => exact if_pos rfl
  | cons d cs ih =>
      rw [List.mem_cons, not_or] at absent
      rw [List.cons_append, cut, if_neg fun same => absent.1 same.symm, ih absent.2]

theorem cut_of_not_mem {c : Char} {cs : List Char} (absent : c ∉ cs) : cut c cs = (cs, []) := by
  induction cs with
  | nil => rfl
  | cons d cs ih =>
      rw [List.mem_cons, not_or] at absent
      rw [cut, if_neg fun same => absent.1 same.symm, ih absent.2]

def readExponent : List Char → Int
  | [] => 0
  | sign :: ds =>
    if sign = '-' then -(Nat.ofDigitChars 10 ds 0 : Int) else Nat.ofDigitChars 10 ds 0

/-- The number that a text of digits with a point and an exponent stands for. -/
def readDecimal (cs : List Char) : ℚ :=
  let parts := cut 'e' cs
  let sides := cut '.' parts.1
  Nat.ofDigitChars 10 (sides.1 ++ sides.2) 0 * 10 ^ (readExponent parts.2 - sides.2.length)

def Digits (cs : List Char) : Prop := ∀ c ∈ cs, c.isDigit = true

theorem Digits.append {cs ds : List Char} (hc : Digits cs) (hd : Digits ds) : Digits (cs ++ ds) :=
  fun c member => (List.mem_append.mp member).elim (hc c) (hd c)

theorem Digits.no_point {cs : List Char} (h : Digits cs) : '.' ∉ cs :=
  fun member => absurd (h _ member) (by decide)

theorem Digits.no_exponent {cs : List Char} (h : Digits cs) : 'e' ∉ cs :=
  fun member => absurd (h _ member) (by decide)

theorem Digits.pointed_no_exponent {cs ds : List Char} (hc : Digits cs) (hd : Digits ds) :
    'e' ∉ cs ++ '.' :: ds := by
  rw [List.mem_append, List.mem_cons, not_or, not_or]
  exact ⟨hc.no_exponent, by decide, hd.no_exponent⟩

theorem digits_toDigits (n : Nat) : Digits (Nat.toDigits 10 n) :=
  fun _ member => Nat.isDigit_of_mem_toDigits (by decide) (by decide) member

theorem digits_zeros (n : Nat) : Digits (List.replicate n '0') := by
  intro c member
  rw [List.eq_of_mem_replicate member]
  rfl

/-- Texts with a point or an exponent, and their numbers. -/
inductive Written : List Char → ℚ → Prop
  | pointed {whole fraction} (some : whole ≠ []) (left : Digits whole) (right : Digits fraction) :
      Written (whole ++ '.' :: fraction)
        (Nat.ofDigitChars 10 (whole ++ fraction) 0 * 10 ^ (-(fraction.length : Int)))
  | scaled {whole} (tail) (some : whole ≠ []) (left : Digits whole) :
      Written (whole ++ 'e' :: tail)
        (Nat.ofDigitChars 10 whole 0 * 10 ^ readExponent tail)
  | pointedScaled {whole fraction} (tail) (some : whole ≠ []) (left : Digits whole)
      (right : Digits fraction) :
      Written (whole ++ '.' :: fraction ++ 'e' :: tail)
        (Nat.ofDigitChars 10 (whole ++ fraction) 0 * 10 ^ (readExponent tail - fraction.length))

namespace Written

variable {cs : List Char} {q : ℚ}

theorem of_eq {q' : ℚ} (h : Written cs q) (same : q = q') : Written cs q' := same ▸ h

theorem read (h : Written cs q) : readDecimal cs = q := by
  cases h with
  | pointed some left right =>
      simp only [readDecimal, cut_of_not_mem (left.pointed_no_exponent right),
        cut_of_mem left.no_point, readExponent, zero_sub]
  | scaled tail some left =>
      simp only [readDecimal, cut_of_mem left.no_exponent, cut_of_not_mem left.no_point,
        List.append_nil, List.length_nil, Nat.cast_zero, sub_zero]
  | pointedScaled tail some left right =>
      simp only [readDecimal, cut_of_mem (left.pointed_no_exponent right),
        cut_of_mem left.no_point]

theorem head (h : Written cs q) : ∃ c rest, cs = c :: rest ∧ c.isDigit = true := by
  have begins : ∀ {whole rest : List Char}, whole ≠ [] → Digits whole →
      ∃ c rest', whole ++ rest = c :: rest' ∧ c.isDigit = true := by
    intro whole rest some digits
    obtain ⟨c, cs, rfl⟩ := List.exists_cons_of_ne_nil some
    exact ⟨c, cs ++ rest, rfl, digits c List.mem_cons_self⟩
  cases h with
  | pointed some left right => exact begins some left
  | scaled tail some left => exact begins some left
  | pointedScaled tail some left right =>
      rw [List.append_assoc]
      exact begins some left

theorem marked (h : Written cs q) : '.' ∈ cs ∨ 'e' ∈ cs := by
  cases h <;> simp

end Written

theorem readExponent_signed (e : Int) (zeros : Nat) :
    readExponent ((if e < 0 then '-' else '+') ::
      (List.replicate zeros '0' ++ Nat.toDigits 10 e.natAbs)) = e := by
  rw [readExponent, Nat.ofDigitChars_append, Nat.ofDigitChars_replicate_zero, Nat.mul_zero,
    Nat.ofDigitChars_ten_toDigits]
  split
  · next negative =>
    rw [if_pos rfl]
    omega
  · next positive =>
    rw [if_neg (by decide)]
    omega

theorem ofDigitChars_pow (ds : List Char) (n : Nat) :
    (Nat.ofDigitChars 10 (ds ++ List.replicate n '0') 0 : ℚ) =
      Nat.ofDigitChars 10 ds 0 * 10 ^ (n : Int) := by
  rw [Nat.ofDigitChars_append, Nat.ofDigitChars_replicate_zero, zpow_natCast]
  push_cast
  ring

section Layouts

variable {ds : List Char}

/-- The digits as a fraction after zeros. -/
theorem written_below (digits : Digits ds) (zeros : Nat) :
    Written ('0' :: '.' :: (List.replicate zeros '0' ++ ds))
      (Nat.ofDigitChars 10 ds 0 * 10 ^ (-(zeros : Int) - ds.length)) := by
  have zero : Digits ['0'] := digits_zeros 1
  have leading : Nat.ofDigitChars 10 (['0'] ++ (List.replicate zeros '0' ++ ds)) 0 =
      Nat.ofDigitChars 10 ds 0 := by
    rw [Nat.ofDigitChars_append, Nat.ofDigitChars_append, Nat.ofDigitChars_replicate_zero]
    rfl
  refine (Written.pointed (List.cons_ne_nil '0' []) zero
    ((digits_zeros zeros).append digits)).of_eq ?_
  rw [leading, List.length_append, List.length_replicate]
  congr 2
  omega

/-- The digits with zeros up to the point, and one after it. -/
theorem written_padded (digits : Digits ds) (some : ds ≠ []) (zeros : Nat) :
    Written (ds ++ List.replicate zeros '0' ++ ['.', '0'])
      (Nat.ofDigitChars 10 ds 0 * 10 ^ (zeros : Int)) := by
  have padded := digits.append (digits_zeros zeros)
  refine (Written.pointed (List.append_ne_nil_of_left_ne_nil some _) padded
    (digits_zeros 1)).of_eq ?_
  rw [List.append_assoc, List.replicate_append_replicate, ofDigitChars_pow, List.length_replicate,
    mul_assoc, ← ten_zpow_add]
  congr 2
  omega

/-- The digits with the point among them. -/
theorem written_parted (digits : Digits ds) {n : Nat} (pos : 0 < n) (short : n < ds.length) :
    Written (ds.take n ++ '.' :: ds.drop n)
      (Nat.ofDigitChars 10 ds 0 * 10 ^ ((n : Int) - ds.length)) := by
  have left : ds.take n ≠ [] := by
    rw [Ne, List.take_eq_nil_iff, not_or]
    exact ⟨by omega, List.length_pos_iff.mp (by omega)⟩
  have taken : Digits (ds.take n) := fun c member => digits c (List.mem_of_mem_take member)
  have dropped : Digits (ds.drop n) := fun c member => digits c (List.mem_of_mem_drop member)
  refine (Written.pointed left taken dropped).of_eq ?_
  rw [List.take_append_drop, List.length_drop]
  congr 2
  omega

/-- The digits with the point behind the first one, if there are more, and an exponent. -/
theorem written_far {c : Char} {rest : List Char} (digits : Digits (c :: rest)) (tail : List Char) :
    Written ((match c :: rest with
        | [c] => [c]
        | c :: rest => c :: '.' :: rest
        | [] => []) ++ 'e' :: tail)
      (Nat.ofDigitChars 10 (c :: rest) 0 *
        10 ^ (readExponent tail + 1 - (c :: rest).length)) := by
  have first : Digits [c] := fun d member =>
    digits d (List.mem_singleton.mp member ▸ List.mem_cons_self)
  have others : Digits rest := fun d member => digits d (List.mem_cons_of_mem c member)
  cases rest with
  | nil =>
      refine (Written.scaled tail (List.cons_ne_nil c []) first).of_eq ?_
      congr 2
      simp
  | cons c' rest =>
      refine (Written.pointedScaled tail (List.cons_ne_nil c []) first others).of_eq ?_
      rw [List.singleton_append, List.length_cons (a := c)]
      congr 2
      push_cast
      omega

end Layouts

/-- The text that is written for a decimal stands for it. -/
theorem Decimal.write_written {d : Decimal} (counted : d.Counted) : Written d.write d.value := by
  have digits := digits_toDigits d.digits
  have some : Nat.toDigits 10 d.digits ≠ [] := Nat.toDigits_ne_nil
  have number : Nat.ofDigitChars 10 (Nat.toDigits 10 d.digits) 0 = d.digits :=
    Nat.ofDigitChars_ten_toDigits
  unfold write value
  rw [← counted.length]
  generalize Nat.toDigits 10 d.digits = ds at digits some number
  simp only
  rw [← number]
  split
  · next near =>
    split
    · next below =>
      obtain ⟨n, point⟩ : ∃ n : Nat, d.point = -n := ⟨(-d.point).toNat, by omega⟩
      rw [point, Int.neg_neg, Int.toNat_natCast]
      exact written_below digits n
    · next above =>
      obtain ⟨n, point⟩ : ∃ n : Nat, d.point = n := ⟨d.point.toNat, by omega⟩
      rw [point, Int.toNat_natCast]
      split
      · next long =>
        obtain ⟨zeros, rfl⟩ := Nat.exists_eq_add_of_le long
        rw [Nat.add_sub_cancel_left, Nat.cast_add, add_sub_cancel_left]
        exact written_padded digits some zeros
      · next short => exact written_parted digits (by omega) (Nat.lt_of_not_le short)
  · next far =>
    obtain ⟨c, rest, rfl⟩ := List.exists_cons_of_ne_nil some
    refine (written_far digits _).of_eq ?_
    rw [readExponent_signed, Int.sub_add_cancel]

namespace Binary64

variable {x y : Binary64}

/-- The text without a sign of a number that is not NaN. -/
def unsignedChars (x : Binary64) : List Char :=
  if !x.isFinite then ['i', 'n', 'f']
  else if x.isZero then ['0', '.', '0']
  else (shortest x).write

theorem chars_of_nan (nan : x.isNaN = true) : x.chars = ['n', 'a', 'n'] := by
  rw [chars, nan]
  rfl

theorem chars_eq (number : x.isNaN = false) :
    x.chars = if x.negative then '-' :: x.unsignedChars else x.unsignedChars := by
  rw [chars, number]
  rfl

theorem rounds_zero : Rounds 0 0 := by
  have bottom : low 0 = 0 := by decide
  have even : significand 0 % 2 = 0 := by decide
  refine ⟨by rw [bottom, Nat.cast_zero, zero_mul], ?_, fun _ => even⟩
  exact mul_nonneg (Nat.cast_nonneg _) quarter_pos.le

/-- The text of a finite number stands for one that rounds to it. -/
theorem unsignedChars_written (finite : x.isFinite = true) :
    ∃ q, Written x.unsignedChars q ∧ Rounds x.code q := by
  unfold unsignedChars
  rw [finite]
  cases zero : x.isZero with
  | true =>
      have none := (isZero_iff x).mp zero
      refine ⟨0, (Written.pointed (List.cons_ne_nil '0' []) (digits_zeros 1) (digits_zeros 1)).of_eq
        ?_, ?_⟩
      · simp [Nat.ofDigitChars]
      · rw [none]
        exact rounds_zero
  | false =>
      have nonzero : 0 < x.code := Nat.pos_of_ne_zero fun none => by
        rw [(isZero_iff x).mpr none] at zero
        cases zero
      obtain ⟨counted, rounds⟩ := shortest_rounds nonzero
      exact ⟨_, Decimal.write_written counted, rounds⟩

theorem unsignedChars_of_infinite (infinite : x.isFinite = false) :
    x.unsignedChars = ['i', 'n', 'f'] := by
  rw [unsignedChars, infinite]
  rfl

/-- A text begins with a digit where the number is finite, and else with a letter. -/
theorem unsignedChars_head (x : Binary64) :
    ∃ c rest, x.unsignedChars = c :: rest ∧ (c.isDigit = true ∧ x.isFinite = true ∨
      c = 'i' ∧ x.isFinite = false) := by
  cases finite : x.isFinite with
  | true =>
      obtain ⟨q, written, -⟩ := unsignedChars_written finite
      obtain ⟨c, rest, same, digit⟩ := written.head
      exact ⟨c, rest, same, .inl ⟨digit, rfl⟩⟩
  | false => exact ⟨'i', _, unsignedChars_of_infinite finite, .inr ⟨rfl, rfl⟩⟩

theorem unsignedChars_ne_cons (x : Binary64) (rest : List Char) :
    x.unsignedChars ≠ '-' :: rest ∧ x.unsignedChars ≠ 'n' :: rest := by
  obtain ⟨c, _, same, sort⟩ := unsignedChars_head x
  rw [same]
  constructor
  all_goals
    intro h
    rw [(List.cons.inj h).1] at sort
    revert sort
    simp

theorem code_of_infinite (number : x.isNaN = false) (infinite : x.isFinite = false) :
    x.code = 2047 * 2 ^ 52 := by
  have field : x.exponentField = 0x7FF := by simpa [isFinite] using infinite
  have fraction : x.fractionField = 0 := by simpa [isNaN, field] using number
  rw [exponentField_eq] at field
  rw [fractionField_eq] at fraction
  omega

theorem code_of_unsignedChars (number : x.isNaN = false) (number' : y.isNaN = false)
    (same : x.unsignedChars = y.unsignedChars) : x.code = y.code := by
  obtain ⟨c, rest, here, sort⟩ := unsignedChars_head x
  obtain ⟨d, rest', there, sort'⟩ := unsignedChars_head y
  obtain ⟨rfl, rfl⟩ := List.cons.inj (here.symm.trans (same.trans there))
  rcases sort with ⟨digit, finite⟩ | ⟨rfl, infinite⟩
  · rcases sort' with ⟨-, finite'⟩ | ⟨rfl, -⟩
    · obtain ⟨q, written, rounds⟩ := unsignedChars_written finite
      obtain ⟨q', written', rounds'⟩ := unsignedChars_written finite'
      have value : q = q' := written.read.symm.trans ((same ▸ written'.read))
      exact rounds.unique (value ▸ rounds')
    · exact absurd digit (by decide)
  · rcases sort' with ⟨digit, -⟩ | ⟨-, infinite'⟩
    · exact absurd digit (by decide)
    · rw [code_of_infinite number infinite, code_of_infinite number' infinite']

/-- A text begins with a digit, a minus sign or one of two letters. -/
theorem chars_head (x : Binary64) :
    ∃ c rest, x.chars = c :: rest ∧ (c.isDigit = true ∨ c ∈ ['-', 'i', 'n']) := by
  cases nan : x.isNaN with
  | true => exact ⟨'n', ['a', 'n'], chars_of_nan nan, .inr (by decide)⟩
  | false =>
      rw [chars_eq nan]
      split
      · exact ⟨'-', _, rfl, .inr (by decide)⟩
      · obtain ⟨c, rest, same, sort⟩ := unsignedChars_head x
        refine ⟨c, rest, same, ?_⟩
        rcases sort with ⟨digit, -⟩ | ⟨rfl, -⟩
        · exact .inl digit
        · exact .inr (by decide)

/-- A text has a character that no text of an integer has. -/
theorem chars_marked (x : Binary64) : ∃ c ∈ x.chars, c.isDigit = false ∧ c ≠ '-' := by
  cases nan : x.isNaN with
  | true => exact ⟨'n', chars_of_nan nan ▸ List.mem_cons_self, by decide⟩
  | false =>
      have inside : ∀ c ∈ x.unsignedChars, c ∈ x.chars := by
        intro c member
        rw [chars_eq nan]
        split
        · exact List.mem_cons_of_mem _ member
        · exact member
      cases finite : x.isFinite with
      | true =>
          obtain ⟨q, written, -⟩ := unsignedChars_written finite
          rcases written.marked with point | exponent
          · exact ⟨'.', inside _ point, by decide⟩
          · exact ⟨'e', inside _ exponent, by decide⟩
      | false =>
          exact ⟨'i', inside _ (by rw [unsignedChars_of_infinite finite]; decide), by decide⟩

theorem chars_ne_nan (number : x.isNaN = false) : x.chars ≠ ['n', 'a', 'n'] := by
  rw [chars_eq number]
  split
  · exact fun h => absurd (List.cons.inj h).1 (by decide)
  · exact (unsignedChars_ne_cons x _).2

/-- Doubles with the same text are the same, unless both of them are no numbers. -/
theorem chars_injective (same : x.chars = y.chars) : x = y ∨ x.isNaN = true ∧ y.isNaN = true := by
  cases nan : x.isNaN with
  | true =>
      refine .inr ⟨rfl, ?_⟩
      by_contra number
      exact chars_ne_nan (Bool.eq_false_iff.mpr number) (same ▸ chars_of_nan nan)
  | false =>
      cases nan' : y.isNaN with
      | true => exact absurd (same.trans (chars_of_nan nan')) (chars_ne_nan nan)
      | false =>
          rw [chars_eq nan, chars_eq nan'] at same
          refine .inl ?_
          cases sign : x.negative <;> cases sign' : y.negative <;> rw [sign, sign'] at same
          · exact eq_of_code (sign.trans sign'.symm) (code_of_unsignedChars nan nan' same)
          · exact absurd same (unsignedChars_ne_cons x _).1
          · exact absurd same.symm (unsignedChars_ne_cons y _).1
          · exact eq_of_code (sign.trans sign'.symm)
              (code_of_unsignedChars nan nan' (List.cons.inj same).2)

end Binary64

end SdkBlueprint.Number

namespace SdkBlueprint.Document
open SdkBlueprint.Number

theorem decimal_eq (n : Int) : decimal n =
    if 0 ≤ n then Nat.toDigits 10 n.toNat else '-' :: Nat.toDigits 10 (-n).toNat := by
  rw [decimal, Int.toString_eq_repr, Int.repr_eq_if]
  split
  · rw [Nat.toList_repr]
  · rw [String.toList_append, Nat.toList_repr]
    rfl

theorem decimal_digits {n : Int} {c : Char} (member : c ∈ decimal n) :
    c.isDigit = true ∨ c = '-' := by
  rw [decimal_eq] at member
  split at member
  · exact .inl (digits_toDigits _ c member)
  · rcases List.mem_cons.mp member with sign | digit
    · exact .inr sign
    · exact .inl (digits_toDigits _ c digit)

theorem decimal_ne_nil (n : Int) : decimal n ≠ [] := by
  rw [decimal_eq]
  split
  · exact Nat.toDigits_ne_nil
  · exact List.cons_ne_nil _ _

end SdkBlueprint.Document
