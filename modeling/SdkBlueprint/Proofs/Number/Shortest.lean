import Mathlib.Tactic.GCongr
import SdkBlueprint.Proofs.Number.Intervals

/-! Shortest decimals. Seventeen digits always do, since their grid is finer than the interval of
any magnitude, so that what is found rounds to the number it is found for. -/
namespace SdkBlueprint.Number
open Magnitude

theorem tenTo_eq (n : Nat) : tenTo n = 10 ^ n := rfl

theorem ten_zpow_pos (e : Int) : (0 : ℚ) < 10 ^ e := zpow_pos (by norm_num) e

theorem ten_zpow_add (d e : Int) : (10 : ℚ) ^ (d + e) = 10 ^ d * 10 ^ e :=
  zpow_add₀ (by norm_num) d e

theorem scaleTen_pos {num den : Nat} (pos : 0 < den) (e : Int) : 0 < (scaleTen num den e).2 := by
  unfold scaleTen
  split
  · exact Nat.mul_pos pos (Nat.pow_pos (by decide))
  · exact pos

theorem scaleTen_ratio (num den : Nat) (e : Int) :
    ((scaleTen num den e).1 : ℚ) / (scaleTen num den e).2 = num / den * 10 ^ e := by
  unfold scaleTen
  split
  · next negative =>
    obtain ⟨n, rfl⟩ : ∃ n : Nat, e = -n := ⟨(-e).toNat, by omega⟩
    simp [tenTo_eq, div_eq_mul_inv, mul_assoc, mul_comm]
  · next positive =>
    obtain ⟨n, rfl⟩ : ∃ n : Nat, e = n := ⟨e.toNat, by omega⟩
    simp [tenTo_eq, mul_div_right_comm]

/-! The number of digits before the point. -/

theorem toDigits_length_spec {n : Nat} (pos : 0 < n) :
    10 ^ ((Nat.toDigits 10 n).length - 1) ≤ n ∧ n < 10 ^ (Nat.toDigits 10 n).length := by
  have some : 0 < (Nat.toDigits 10 n).length := Nat.length_toDigits_pos
  refine ⟨?_, (Nat.length_toDigits_le_iff (by decide) some).mp le_rfl⟩
  by_contra short
  rcases Nat.eq_zero_or_pos ((Nat.toDigits 10 n).length - 1) with single | several
  · rw [single] at short
    exact short pos
  · have := (Nat.length_toDigits_le_iff (by decide) several).mpr (not_le.mp short)
    omega

theorem toDigits_length_eq {n k : Nat} (least : 10 ^ (k - 1) ≤ n) (most : n < 10 ^ k) :
    (Nat.toDigits 10 n).length = k := by
  have pos : 0 < n := (Nat.pow_pos (by decide)).trans_le least
  obtain ⟨least', most'⟩ := toDigits_length_spec pos
  have upper := (Nat.pow_lt_pow_iff_right (by decide)).mp (least.trans_lt most')
  have lower := (Nat.pow_lt_pow_iff_right (by decide)).mp (least'.trans_lt most)
  omega

theorem down_spec {den : Nat} (pos : 0 < den) (fuel : Nat) {num : Nat} (small : num < den)
    (enough : den ≤ num * 10 ^ fuel) (point : Int) :
    (10 : ℚ) ^ (pointOf.down den fuel num point - 1 - point) ≤ num / den ∧
      (num : ℚ) / den < 10 ^ (pointOf.down den fuel num point - point) := by
  have pos' : (0 : ℚ) < den := by exact_mod_cast pos
  induction fuel generalizing num point with
  | zero => omega
  | succ fuel ih =>
      rw [pointOf.down]
      split
      · next here =>
        have tenth : (den : ℚ) ≤ num * 10 := by exact_mod_cast here
        rw [sub_right_comm, sub_self, zpow_zero, le_div_iff₀ pos', div_lt_one pos']
        refine ⟨?_, by exact_mod_cast small⟩
        norm_num
        linarith
      · next further =>
        have grown : den ≤ num * 10 * 10 ^ fuel := by rwa [mul_assoc, ← pow_succ']
        obtain ⟨least, most⟩ := ih (not_le.mp further) grown (point - 1)
        generalize pointOf.down den fuel (num * 10) (point - 1) = found at least most ⊢
        have ten : ((num * 10 : Nat) : ℚ) / den = num / den * 10 := by
          push_cast
          ring
        rw [ten, show found - 1 - (point - 1) = found - 1 - point + 1 by ring,
          zpow_add_one₀ (by norm_num)] at least
        rw [ten, show found - (point - 1) = found - point + 1 by ring,
          zpow_add_one₀ (by norm_num)] at most
        exact ⟨le_of_mul_le_mul_right least (by norm_num), lt_of_mul_lt_mul_right most (by norm_num)⟩

theorem pointOf_spec {num den : Nat} (pos : 0 < den) (enough : den ≤ num * 10 ^ 400) :
    (10 : ℚ) ^ (pointOf num den - 1) ≤ num / den ∧ (num : ℚ) / den < 10 ^ pointOf num den := by
  have pos' : (0 : ℚ) < den := by exact_mod_cast pos
  unfold pointOf
  split
  · next large =>
    have some : 0 < (Nat.toDigits 10 (num / den)).length := Nat.length_toDigits_pos
    obtain ⟨least, most⟩ := toDigits_length_spec (Nat.div_pos large pos)
    generalize (Nat.toDigits 10 (num / den)).length = count at some least most
    have before : (Int.ofNat count - 1) = ((count - 1 : Nat) : Int) := by
      rw [Int.ofNat_eq_natCast]
      omega
    rw [before, Int.ofNat_eq_natCast, zpow_natCast, zpow_natCast, le_div_iff₀ pos',
      div_lt_iff₀ pos']
    refine ⟨?_, ?_⟩
    · exact_mod_cast (Nat.le_div_iff_mul_le pos).mp least
    · exact_mod_cast (Nat.div_lt_iff_lt_mul pos).mp most
  · next small =>
    have := down_spec pos 400 (not_le.mp small) enough 0
    simpa only [sub_zero] using this

/-! The neighbours on a grid. -/

namespace Neighbourhood

variable {b : Neighbourhood} {point : Int} {count : Nat}

/-- The digits below the value, on the grid with so many digits. -/
def floorOn (b : Neighbourhood) (point : Int) (count : Nat) : Nat :=
  (scaleTen b.value b.den (Int.ofNat count - point)).1 /
    (scaleTen b.value b.den (Int.ofNat count - point)).2

/-- The number with these digits on the grid reads back. -/
def readsOn (b : Neighbourhood) (point : Int) (count n : Nat) : Bool :=
  b.holds (scaleTen n 1 (point - Int.ofNat count)).1 (scaleTen n 1 (point - Int.ofNat count)).2

theorem onGrid_found {d : Nat} (h : b.onGrid point count = some d) :
    (d = b.floorOn point count ∨ d = b.floorOn point count + 1) ∧
      b.readsOn point count d = true := by
  unfold onGrid at h
  simp only at h
  split at h
  · next here above =>
    split at h
    · exact ⟨.inl (Option.some.inj h).symm, (Option.some.inj h) ▸ here⟩
    · exact ⟨.inr (Option.some.inj h).symm, (Option.some.inj h) ▸ above⟩
  · next here above => exact ⟨.inl (Option.some.inj h).symm, (Option.some.inj h) ▸ here⟩
  · next here above => exact ⟨.inr (Option.some.inj h).symm, (Option.some.inj h) ▸ above⟩
  · cases h

theorem onGrid_some (h : b.readsOn point count (b.floorOn point count) = true ∨
    b.readsOn point count (b.floorOn point count + 1) = true) :
    ∃ d, b.onGrid point count = some d := by
  unfold onGrid
  simp only
  split
  · exact ⟨_, rfl⟩
  · exact ⟨_, rfl⟩
  · exact ⟨_, rfl⟩
  · next below above =>
    rcases h with here | here
    · exact absurd (here.symm.trans below) (by decide)
    · exact absurd (here.symm.trans above) (by decide)

variable {code : Nat}

theorem Spans.readsOn_iff (h : b.Spans code) {n : Nat} :
    b.readsOn point count n = true ↔ Rounds code (n * 10 ^ (point - count)) := by
  rw [readsOn, h.holds_iff (scaleTen_pos Nat.one_pos _), scaleTen_ratio, Nat.cast_one, div_one]
  rfl

theorem floorOn_spec (pos : 0 < b.den) (point : Int) (count : Nat) :
    (b.floorOn point count : ℚ) ≤ b.value / b.den * 10 ^ (count - point) ∧
      (b.value / b.den * 10 ^ (count - point) : ℚ) < b.floorOn point count + 1 := by
  have den_pos : 0 < (scaleTen b.value b.den (Int.ofNat count - point)).2 := scaleTen_pos pos _
  have ratio := scaleTen_ratio b.value b.den (Int.ofNat count - point)
  rw [Int.ofNat_eq_natCast] at den_pos ratio
  rw [← ratio, floorOn, Int.ofNat_eq_natCast]
  generalize scaleTen b.value b.den (count - point) = f at den_pos
  have den_pos' : (0 : ℚ) < f.2 := by exact_mod_cast den_pos
  rw [le_div_iff₀ den_pos', div_lt_iff₀ den_pos']
  refine ⟨?_, ?_⟩
  · exact_mod_cast Nat.div_mul_le_self f.1 f.2
  · exact_mod_cast (Nat.div_lt_iff_lt_mul den_pos).mp (Nat.lt_succ_self (f.1 / f.2))

/-- The point stands where it makes the value a fraction of one with no zero after the point. -/
structure Placed (b : Neighbourhood) (point : Int) : Prop where
  den_pos : 0 < b.den
  least : (10 : ℚ) ^ (point - 1) ≤ b.value / b.den
  most : (b.value / b.den : ℚ) < 10 ^ point

theorem Placed.floorOn_bounds (h : b.Placed point) (some : 0 < count) :
    10 ^ (count - 1) ≤ b.floorOn point count ∧ b.floorOn point count < 10 ^ count := by
  obtain ⟨below, above⟩ := floorOn_spec h.den_pos point count
  have scale := ten_zpow_pos (count - point)
  have least : (10 : ℚ) ^ (count - 1) ≤ b.value / b.den * 10 ^ (count - point : Int) := by
    calc (10 : ℚ) ^ (count - 1) = 10 ^ (point - 1) * 10 ^ (count - point : Int) := by
          rw [← ten_zpow_add, ← zpow_natCast]
          congr 1
          omega
      _ ≤ _ := mul_le_mul_of_nonneg_right h.least scale.le
  have most : (b.value / b.den * 10 ^ (count - point : Int) : ℚ) < 10 ^ count := by
    calc (b.value / b.den * 10 ^ (count - point : Int) : ℚ)
        < 10 ^ point * 10 ^ (count - point : Int) := mul_lt_mul_of_pos_right h.most scale
      _ = 10 ^ count := by
          rw [← ten_zpow_add, ← zpow_natCast]
          congr 1
          omega
  constructor
  · have := least.trans_lt above
    exact Nat.lt_succ_iff.mp (by exact_mod_cast this)
  · exact_mod_cast below.trans_lt most

/-- The grid with seventeen digits has a number that reads back. -/
theorem Spans.onGrid_seventeen (h : b.Spans code) (pos : 0 < code) (placed : b.Placed point) :
    ∃ d, b.onGrid point 17 = some d := by
  obtain ⟨below, above⟩ := floorOn_spec placed.den_pos point 17
  have least := placed.least
  have grid := ten_zpow_pos (point - 17)
  have size : (10 : ℚ) ^ (point - 1) = 10 ^ 16 * 10 ^ (point - 17) := by
    rw [← zpow_natCast, ← ten_zpow_add]
    congr 1
    omega
  have unscaled : (b.value / b.den : ℚ) =
      b.value / b.den * 10 ^ ((17 : Nat) - point) * 10 ^ (point - 17) := by
    rw [mul_assoc, ← ten_zpow_add, Nat.cast_ofNat, sub_add_sub_cancel, sub_self, zpow_zero, mul_one]
  generalize (b.value / b.den * 10 ^ ((17 : Nat) - point) : ℚ) = scaled at below above unscaled
  -- The value is 10 ^ 16 steps of the grid at least, so that half a step is less than one part
  -- in 2 ^ 54 of it.
  have near : ∀ n : Nat, |(n : ℚ) - scaled| ≤ 1 / 2 → b.readsOn point 17 n = true := by
    intro n half
    rw [h.readsOn_iff]
    refine Rounds.of_near pos ?_
    rw [← h.value]
    calc |(n : ℚ) * 10 ^ (point - (17 : Nat)) - b.value / b.den| * 2 ^ 54
        = |(n : ℚ) - scaled| * 10 ^ (point - 17) * 2 ^ 54 := by
          rw [unscaled, Nat.cast_ofNat, ← sub_mul, abs_mul, abs_of_pos grid]
      _ ≤ 1 / 2 * 10 ^ (point - 17) * 2 ^ 54 := by gcongr
      _ < 10 ^ 16 * 10 ^ (point - 17) := by linarith
      _ ≤ b.value / b.den := size ▸ least
  refine onGrid_some ?_
  rcases le_total scaled (b.floorOn point 17 + 1 / 2) with lower | upper
  · exact .inl (near _ (abs_le.mpr ⟨by linarith, by linarith⟩))
  · exact .inr (near _ (abs_le.mpr ⟨by push_cast; linarith, by push_cast; linarith⟩))

end Neighbourhood

theorem trailingZeros_dvd (fuel n : Nat) : 10 ^ trailingZeros fuel n ∣ n := by
  induction fuel generalizing n with
  | zero => exact one_dvd n
  | succ fuel ih =>
      rw [trailingZeros]
      split
      · next round =>
        simp only [Bool.and_eq_true, beq_iff_eq] at round
        rw [Nat.pow_succ]
        exact (Nat.mul_dvd_mul_right (ih (n / 10)) 10).trans
          (Nat.div_mul_cancel (Nat.dvd_of_mod_eq_zero round.1)).dvd
      · exact one_dvd n

namespace Decimal

/-- The number that is written. -/
def value (d : Decimal) : ℚ := d.digits * 10 ^ (d.point - d.count)

/-- The decimal has as many digits as it counts. -/
structure Counted (d : Decimal) : Prop where
  pos : 0 < d.digits
  length : (Nat.toDigits 10 d.digits).length = d.count

/-- The decimal without the zeros at its end. -/
def trimmed (digits count : Nat) (point : Int) : Decimal :=
  if digits == tenTo count then ⟨1, 1, point + 1⟩
  else ⟨digits / tenTo (trailingZeros 17 digits), count - trailingZeros 17 digits, point⟩

theorem trimmed_spec {digits count : Nat} (least : 10 ^ (count - 1) ≤ digits)
    (most : digits ≤ 10 ^ count) (point : Int) :
    (trimmed digits count point).Counted ∧
      (trimmed digits count point).value = digits * 10 ^ (point - count) := by
  unfold trimmed
  split
  · next full =>
    rw [beq_iff_eq, tenTo_eq] at full
    refine ⟨⟨Nat.one_pos, toDigits_length_eq le_rfl (show 1 < 10 ^ 1 by decide)⟩, ?_⟩
    rw [value, full]
    push_cast
    rw [one_mul, add_sub_cancel_right, ← zpow_natCast, ← ten_zpow_add, add_sub_cancel]
  · next short =>
    rw [beq_iff_eq, tenTo_eq] at short
    have below : digits < 10 ^ count := lt_of_le_of_ne most short
    obtain ⟨kept, whole⟩ := trailingZeros_dvd 17 digits
    generalize trailingZeros 17 digits = zeros at whole ⊢
    have size : 0 < 10 ^ zeros := Nat.pow_pos (by decide)
    have pos : 0 < kept := by
      refine Nat.pos_of_ne_zero fun none => ?_
      have := (Nat.pow_pos (by decide) : 0 < 10 ^ (count - 1)).trans_le least
      rw [whole, none] at this
      exact this.false
    have fits : zeros < count := by
      refine (Nat.pow_lt_pow_iff_right (by decide : 1 < 10)).mp (lt_of_le_of_lt ?_ below)
      rw [whole]
      exact Nat.le_mul_of_pos_right _ pos
    have split : ∀ n, zeros ≤ n → 10 ^ n = 10 ^ zeros * 10 ^ (n - zeros) := by
      intro n within
      rw [← pow_add, Nat.add_sub_cancel' within]
    rw [tenTo_eq, whole, Nat.mul_div_cancel_left _ size]
    rw [whole, split _ fits.le] at below
    rw [whole, split _ (Nat.le_sub_one_of_lt fits), Nat.sub_right_comm] at least
    refine ⟨⟨pos, toDigits_length_eq ?_ ?_⟩, ?_⟩
    · exact Nat.le_of_mul_le_mul_left least size
    · exact Nat.lt_of_mul_lt_mul_left below
    · have shifted : point - ((count - zeros : Nat) : Int) = zeros + (point - count) := by omega
      rw [value, shifted, ten_zpow_add, zpow_natCast]
      push_cast
      ring

end Decimal

variable {x : Binary64}

namespace Binary64

/-- The digits before the point. -/
def point (x : Binary64) : Int := pointOf x.neighbourhood.value x.neighbourhood.den

theorem neighbourhood_placed (nonzero : 0 < x.code) : x.neighbourhood.Placed x.point := by
  have spans := x.neighbourhood_spans
  have den_pos : (0 : ℚ) < x.neighbourhood.den := by exact_mod_cast spans.den_pos
  have smallest : 4 ≤ value x.code :=
    Nat.mul_le_mul (Nat.mul_le_mul_left 4 (significand_pos nonzero)) (spacing_pos x.code)
  have tenth : 1 ≤ 4 * quarter * 10 ^ 400 := by
    have powers : 2 ^ 1076 ≤ 4 * 10 ^ 400 := by decide +kernel
    rw [quarter, ← div_eq_mul_inv, div_mul_eq_mul_div, one_le_div (pow_pos two_pos _)]
    exact_mod_cast powers
  have enough : x.neighbourhood.den ≤ x.neighbourhood.value * 10 ^ 400 := by
    have most : (1 : ℚ) ≤ x.neighbourhood.value / x.neighbourhood.den * 10 ^ 400 := by
      rw [spans.value]
      refine tenth.trans (mul_le_mul_of_nonneg_right ?_ (by positivity))
      exact mul_le_mul_of_nonneg_right (by exact_mod_cast smallest) quarter_pos.le
    rw [div_mul_eq_mul_div, one_le_div den_pos] at most
    exact_mod_cast most
  obtain ⟨least, most⟩ := pointOf_spec spans.den_pos enough
  exact ⟨spans.den_pos, least, most⟩

end Binary64

theorem shortest_found (nonzero : 0 < x.code) :
    ∃ d k, x.neighbourhood.onGrid x.point (k + 1) = some d ∧
      shortest x = Decimal.trimmed d (k + 1) x.point := by
  cases found : (List.range 17).findSome? fun k =>
      (x.neighbourhood.onGrid x.point (k + 1)).map fun d => (d, k + 1) with
  | none =>
      obtain ⟨d, exact⟩ :=
        x.neighbourhood_spans.onGrid_seventeen nonzero (Binary64.neighbourhood_placed nonzero)
      have missed := List.findSome?_eq_none_iff.mp found 16 (by decide)
      rw [exact] at missed
      cases missed
  | some pair =>
      obtain ⟨k, -, here⟩ := List.exists_of_findSome?_eq_some found
      obtain ⟨d, exact, rfl⟩ := Option.map_eq_some_iff.mp here
      refine ⟨d, k, exact, ?_⟩
      unfold shortest
      simp only
      rw [show pointOf x.neighbourhood.value x.neighbourhood.den = x.point from rfl, found]
      unfold Decimal.trimmed
      simp only [Option.getD_some]
      split <;> rfl

/-- What is found for a number rounds to it. -/
theorem shortest_rounds (nonzero : 0 < x.code) :
    (shortest x).Counted ∧ Rounds x.code (shortest x).value := by
  obtain ⟨d, k, exact, shortest⟩ := shortest_found nonzero
  obtain ⟨near, reads⟩ := Neighbourhood.onGrid_found exact
  obtain ⟨least, most⟩ := (Binary64.neighbourhood_placed nonzero).floorOn_bounds (Nat.add_one_pos k)
  have least' : 10 ^ (k + 1 - 1) ≤ d := least.trans (by omega)
  have most' : d ≤ 10 ^ (k + 1) := le_trans (by omega) (Nat.succ_le_of_lt most)
  obtain ⟨counted, value⟩ := Decimal.trimmed_spec least' most' x.point
  rw [shortest, value]
  exact ⟨counted, x.neighbourhood_spans.readsOn_iff.mp reads⟩

end SdkBlueprint.Number
