import Mathlib.Algebra.Order.Field.Power
import Mathlib.Algebra.Order.Field.Rat
import Mathlib.Tactic.FieldSimp
import Mathlib.Tactic.Linarith
import Mathlib.Tactic.Positivity
import Mathlib.Tactic.Ring
import SdkBlueprint.Number.Shortest

/-! Rounding intervals. The patterns without a sign count the magnitudes in their order. The
interval of each ends where that of the next one begins, and an end goes to the even mantissa, so
that no fraction lies in the intervals of two magnitudes. -/
namespace SdkBlueprint.Number

namespace Binary64

/-- The pattern without its sign. -/
def code (x : Binary64) : Nat := x.bits.toNat % 2 ^ 63

theorem exponentField_eq (x : Binary64) : x.exponentField = x.code / 2 ^ 52 := by
  have field : x.exponentField = x.bits.toNat / 2 ^ 52 % 2 ^ 11 := by
    rw [exponentField, UInt64.toNat_and, UInt64.toNat_shiftRight, ← Nat.shiftRight_eq_div_pow]
    exact Nat.and_two_pow_sub_one_eq_mod _ 11
  rw [field, code]
  omega

theorem fractionField_eq (x : Binary64) : x.fractionField = x.code % 2 ^ 52 := by
  have field : x.fractionField = x.bits.toNat % 2 ^ 52 := by
    rw [fractionField, UInt64.toNat_and]
    exact Nat.and_two_pow_sub_one_eq_mod _ 52
  rw [field, code]
  omega

theorem isZero_iff (x : Binary64) : x.isZero = true ↔ x.code = 0 := by
  simp only [isZero, Bool.and_eq_true, beq_iff_eq, exponentField_eq, fractionField_eq]
  omega

/-- A double is its sign and its magnitude. -/
theorem eq_of_code {x y : Binary64} (sign : x.negative = y.negative) (same : x.code = y.code) :
    x = y := by
  have signed : ∀ z : Binary64, z.negative = decide (z.bits.toNat / 2 ^ 63 = 1) := by
    intro z
    have bit : (z.bits >>> 63).toNat = z.bits.toNat / 2 ^ 63 := by
      simp [UInt64.toNat_shiftRight, Nat.shiftRight_eq_div_pow]
    rw [negative, Bool.beq_eq_decide_eq, decide_eq_decide, ← bit, ← UInt64.toNat_inj]
    rfl
  have inside := x.bits.toNat_lt
  have inside' := y.bits.toNat_lt
  rw [signed, signed, decide_eq_decide] at sign
  have bits : x.bits.toNat = y.bits.toNat := by
    unfold code at same
    omega
  cases x
  cases y
  exact congrArg Binary64.mk (UInt64.toNat_inj.mp bits)

end Binary64

namespace Magnitude

def significand (code : Nat) : Nat :=
  if code < 2 ^ 52 then code else 2 ^ 52 + code % 2 ^ 52

def spacing (code : Nat) : Nat := 2 ^ (code / 2 ^ 52 - 1)

/-- How far down the interval goes, in quarters of the spacing. -/
def reach (code : Nat) : Nat := if significand code = 2 ^ 52 ∧ 1 < code / 2 ^ 52 then 1 else 2

/-- The end of the interval below the magnitude, in quarters of the smallest magnitude. -/
def low (code : Nat) : Nat := (4 * significand code - reach code) * spacing code

def value (code : Nat) : Nat := 4 * significand code * spacing code

def high (code : Nat) : Nat := (4 * significand code + 2) * spacing code

variable {k l : Nat}

theorem spacing_pos (k : Nat) : 0 < spacing k := Nat.two_pow_pos _

theorem significand_lt (k : Nat) : significand k < 2 ^ 53 := by
  unfold significand
  split <;> omega

theorem significand_pos (pos : 0 < k) : 0 < significand k := by
  unfold significand
  split <;> omega

theorem significand_parity (k : Nat) : significand k % 2 = k % 2 := by
  unfold significand
  split <;> omega

theorem low_lt_high (k : Nat) : low k < high k := by
  have bound : 4 * significand k - reach k < 4 * significand k + 2 := by omega
  exact (Nat.mul_lt_mul_right (spacing_pos k)).mpr bound

/-- An interval begins where the one before it ends. -/
theorem low_succ (k : Nat) : low (k + 1) = high k := by
  -- At a power of two the spacing doubles, and the interval reaches down half as far.
  by_cases binade : (k + 1) % 2 ^ 52 = 0 ∧ 2 ^ 53 ≤ k + 1
  · have next : significand (k + 1) = 2 ^ 52 := by
      unfold significand
      rw [if_neg (by omega), binade.1, Nat.add_zero]
    have last : significand k = 2 ^ 53 - 1 := by
      unfold significand
      rw [if_neg (by omega)]
      omega
    have doubled : spacing (k + 1) = 2 * spacing k := by
      unfold spacing
      rw [← Nat.pow_succ']
      congr 1
      omega
    have near : reach (k + 1) = 1 := if_pos ⟨next, by omega⟩
    rw [low, high, next, last, near, doubled]
    omega
  · have next : significand (k + 1) = significand k + 1 := by
      unfold significand
      split <;> split <;> omega
    have same : spacing (k + 1) = spacing k := by
      unfold spacing
      congr 1
      omega
    have far : reach (k + 1) = 2 := by
      refine if_neg fun h => binade ?_
      unfold significand at h
      split at h <;> omega
    rw [low, high, next, far, same]
    rfl

theorem low_strictMono : StrictMono low :=
  strictMono_nat_of_lt_succ fun k => (low_succ k).symm ▸ low_lt_high k

/-- The unit of the ends of intervals. -/
def quarter : ℚ := (2 ^ 1076)⁻¹

theorem quarter_pos : 0 < quarter := inv_pos.mpr (pow_pos two_pos _)

/-- The fraction rounds to the magnitude. -/
structure Rounds (code : Nat) (q : ℚ) : Prop where
  above : low code * quarter ≤ q
  below : q ≤ high code * quarter
  atEnd : q = low code * quarter ∨ q = high code * quarter → significand code % 2 = 0

theorem Rounds.not_lt {q : ℚ} (hk : Rounds k q) (hl : Rounds l q) : ¬ k < l := by
  intro before
  have ordered : (high k : ℚ) ≤ low l := by
    rw [← low_succ]
    exact_mod_cast low_strictMono.monotone before
  have middle : high k * quarter ≤ low l * quarter :=
    mul_le_mul_of_nonneg_right ordered quarter_pos.le
  have top : q = high k * quarter := le_antisymm hk.below (middle.trans hl.above)
  have bottom : q = low l * quarter := le_antisymm (hk.below.trans middle) hl.above
  have meet : low (k + 1) = low l := by
    rw [low_succ]
    exact_mod_cast mul_right_cancel₀ quarter_pos.ne' (top.symm.trans bottom)
  -- Of two neighbours only one is even, so that the end between them belongs to one of them.
  have adjacent := low_strictMono.injective meet
  have even := hk.atEnd (.inr top)
  have even' := hl.atEnd (.inl bottom)
  rw [significand_parity] at even even'
  omega

/-- A fraction rounds to one magnitude only. -/
theorem Rounds.unique {q : ℚ} (hk : Rounds k q) (hl : Rounds l q) : k = l :=
  Nat.le_antisymm (Nat.not_lt.mp (hl.not_lt hk)) (Nat.not_lt.mp (hk.not_lt hl))

theorem Rounds.of_inside {q : ℚ} (above : low k * quarter < q) (below : q < high k * quarter) :
    Rounds k q :=
  ⟨above.le, below.le, fun ends => (ends.elim above.ne' below.ne).elim⟩

theorem value_eq (pos : 0 < k) : value k = low k + reach k * spacing k := by
  have inside : reach k ≤ 4 * significand k := by
    have := significand_pos pos
    unfold reach
    split <;> omega
  rw [value, low, ← Nat.add_mul, Nat.sub_add_cancel inside]

theorem high_eq (k : Nat) : high k = value k + 2 * spacing k := Nat.add_mul _ _ _

theorem value_le (k : Nat) : value k ≤ 2 ^ 54 * (reach k * spacing k) := by
  have share : 4 * significand k ≤ 2 ^ 54 * reach k := by
    have bound := significand_lt k
    unfold reach
    split <;> omega
  rw [value, ← Nat.mul_assoc]
  exact Nat.mul_le_mul_right _ share

/-- What is off by less than one part in `2 ^ 54` still rounds to the magnitude. -/
theorem Rounds.of_near (pos : 0 < k) {q : ℚ}
    (near : |q - value k * quarter| * 2 ^ 54 < value k * quarter) : Rounds k q := by
  have share : (value k : ℚ) ≤ 2 ^ 54 * (reach k * spacing k) := by exact_mod_cast value_le k
  have off : |q - value k * quarter| < reach k * spacing k * quarter := by
    refine lt_of_mul_lt_mul_right (near.trans_le ?_) (pow_nonneg zero_le_two 54)
    calc (value k : ℚ) * quarter ≤ 2 ^ 54 * (reach k * spacing k) * quarter :=
          mul_le_mul_of_nonneg_right share quarter_pos.le
      _ = reach k * spacing k * quarter * 2 ^ 54 := by ring
  have reached : (reach k : ℚ) * spacing k * quarter ≤ 2 * spacing k * quarter := by
    have small : (reach k : ℚ) ≤ 2 := by
      unfold reach
      split <;> norm_num
    have weight : (0 : ℚ) ≤ spacing k * quarter := by
      have := quarter_pos
      positivity
    rw [mul_assoc, mul_assoc]
    exact mul_le_mul_of_nonneg_right small weight
  have lower : (value k : ℚ) = low k + reach k * spacing k := by exact_mod_cast value_eq pos
  have upper : (high k : ℚ) = value k + 2 * spacing k := by exact_mod_cast high_eq k
  obtain ⟨down, up⟩ := abs_lt.mp off
  refine .of_inside ?_ ?_
  · rw [lower] at down
    linarith
  · rw [upper]
    linarith

end Magnitude

open Magnitude

theorem twoTo_eq (n : Nat) : twoTo n = 2 ^ n := rfl

namespace Binary64

theorem mantissa_eq (x : Binary64) : x.mantissa = significand x.code := by
  simp only [mantissa, significand, beq_iff_eq, exponentField_eq, fractionField_eq, twoTo_eq]
  split <;> split <;> omega

theorem exponent_eq (x : Binary64) :
    x.exponent = ((x.code / 2 ^ 52 - 1 : Nat) : Int) - (1074 : Nat) := by
  simp only [exponent, beq_iff_eq, exponentField_eq, Int.ofNat_eq_natCast]
  split <;> omega

/-- A power of two as a fraction. -/
theorem scaleDown_ratio (e : Int) :
    0 < (scaleDown 1 1 e).2 ∧ ((scaleDown 1 1 e).1 : ℚ) / (scaleDown 1 1 e).2 = 2 ^ (-e) := by
  unfold scaleDown
  split
  · next negative =>
    obtain ⟨n, rfl⟩ : ∃ n : Nat, e = -n := ⟨(-e).toNat, by omega⟩
    exact ⟨Nat.one_pos, by simp [twoTo_eq]⟩
  · next positive =>
    obtain ⟨n, rfl⟩ : ∃ n : Nat, e = n := ⟨e.toNat, by omega⟩
    exact ⟨by simp [twoTo_eq], by simp [twoTo_eq]⟩

theorem scale_eq (x : Binary64) : (2 : ℚ) ^ x.exponent = spacing x.code * (4 * quarter) := by
  have smallest : 4 * quarter = ((2 : ℚ) ^ 1074)⁻¹ := by
    rw [quarter, show 1076 = 1074 + 2 from rfl, pow_add]
    field_simp
    norm_num
  rw [exponent_eq, zpow_sub₀ two_ne_zero, zpow_natCast, zpow_natCast, smallest, spacing,
    div_eq_mul_inv]
  norm_cast

end Binary64

namespace Neighbourhood

/-- The fractions are those of the magnitude's interval. -/
structure Spans (b : Neighbourhood) (code : Nat) : Prop where
  den_pos : 0 < b.den
  low : (b.low : ℚ) / b.den = Magnitude.low code * quarter
  value : (b.value : ℚ) / b.den = Magnitude.value code * quarter
  high : (b.high : ℚ) / b.den = Magnitude.high code * quarter
  closed : b.closed = true ↔ significand code % 2 = 0

theorem Spans.holds_iff {b : Neighbourhood} {code : Nat} (h : b.Spans code) {num den : Nat}
    (pos : 0 < den) : b.holds num den = true ↔ Rounds code ((num : ℚ) / den) := by
  have den_pos : (0 : ℚ) < b.den := by exact_mod_cast h.den_pos
  have pos' : (0 : ℚ) < den := by exact_mod_cast pos
  have above : Magnitude.low code * quarter ≤ (num : ℚ) / den ↔ b.low * den ≤ num * b.den := by
    rw [← h.low, div_le_div_iff₀ den_pos pos']
    exact_mod_cast Iff.rfl
  have below : (num : ℚ) / den ≤ Magnitude.high code * quarter ↔ num * b.den ≤ b.high * den := by
    rw [← h.high, div_le_div_iff₀ pos' den_pos]
    exact_mod_cast Iff.rfl
  have bottom : (num : ℚ) / den = Magnitude.low code * quarter ↔ num * b.den = b.low * den := by
    rw [← h.low, div_eq_div_iff pos'.ne' den_pos.ne']
    exact_mod_cast Iff.rfl
  have top : (num : ℚ) / den = Magnitude.high code * quarter ↔ num * b.den = b.high * den := by
    rw [← h.high, div_eq_div_iff pos'.ne' den_pos.ne']
    exact_mod_cast Iff.rfl
  have rounds : Rounds code ((num : ℚ) / den) ↔
      b.low * den ≤ num * b.den ∧ num * b.den ≤ b.high * den ∧
        (num * b.den = b.low * den ∨ num * b.den = b.high * den → b.closed = true) := by
    rw [h.closed, ← above, ← below, ← bottom, ← top]
    exact ⟨fun r => ⟨r.above, r.below, r.atEnd⟩, fun ⟨a, b, c⟩ => ⟨a, b, c⟩⟩
  rw [rounds, holds]
  cases b.closed with
  | true => simp
  | false =>
      simp only [Bool.false_eq_true, if_false, Bool.and_eq_true, decide_eq_true_eq, imp_false]
      constructor
      · rintro ⟨above, below⟩
        exact ⟨above.le, below.le, fun ends => ends.elim above.ne' below.ne⟩
      · rintro ⟨above, below, inner⟩
        exact ⟨lt_of_le_of_ne above fun same => inner (.inl same.symm),
          lt_of_le_of_ne below fun same => inner (.inr same)⟩

end Neighbourhood

theorem Binary64.neighbourhood_spans (x : Binary64) : x.neighbourhood.Spans x.code := by
  obtain ⟨pos, scale⟩ := scaleDown_ratio (-x.exponent)
  rw [Int.neg_neg, scale_eq] at scale
  have quarters : ∀ n : Nat, ((n * (scaleDown 1 1 (-x.exponent)).1 : Nat) : ℚ) /
      ((4 * (scaleDown 1 1 (-x.exponent)).2 : Nat) : ℚ) = (n * spacing x.code : Nat) * quarter := by
    intro n
    push_cast
    rw [mul_div_mul_comm, scale]
    ring
  have reached : (if x.mantissa == twoTo 52 && 1 < x.exponentField then 1 else 2) =
      reach x.code := by
    simp only [reach, mantissa_eq, exponentField_eq, twoTo_eq, Bool.and_eq_true, beq_iff_eq,
      decide_eq_true_eq]
  refine ⟨Nat.mul_pos (by decide) pos, ?_, ?_, ?_, ?_⟩
  · rw [Magnitude.low, ← quarters, ← reached, ← mantissa_eq]
    rfl
  · rw [Magnitude.value, ← quarters, ← mantissa_eq]
    rfl
  · rw [Magnitude.high, ← quarters, ← mantissa_eq]
    rfl
  · rw [← mantissa_eq]
    exact beq_iff_eq

end SdkBlueprint.Number
