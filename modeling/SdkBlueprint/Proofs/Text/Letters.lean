import Mathlib.Data.List.Basic
import SdkBlueprint.Text.Letters

/-! Underscores in lower case. No character becomes an underscore and no underscore becomes
another character, so that a text has one in lower case if and only if it has one. -/
namespace SdkBlueprint.Text

theorem toLower_eq_underscore {c : Char} : c.toLower = '_' ↔ c = '_' := by
  unfold Char.toLower
  split
  · next capital =>
    refine iff_of_false (fun same => ?_) ?_
    · have code := congrArg Char.val same
      simp only [ge_iff_le, UInt32.le_iff_toNat_le, ← UInt32.toNat_inj, UInt32.toNat_add]
        at capital code
      simp at capital code
      omega
    · rintro rfl
      revert capital
      decide
  · rfl

theorem eq_of_ofNat_eq_underscore {n : Nat} (h : Char.ofNat n = '_') : n = 95 := by
  by_cases valid : n.isValidChar
  · rw [Char.ofNat, dif_pos valid] at h
    exact congrArg Char.toNat h
  · rw [Char.ofNat, dif_neg valid] at h
    exact absurd h (by decide)

/-- What the letters beyond ASCII become in lower case lies behind the underscore. -/
theorem caseRuns_high : ∀ r ∈ caseRuns, 96 ≤ Int.ofNat r.first + r.offset := by decide +kernel

theorem mem_lowerChar_underscore {c : Char} : '_' ∈ lowerChar c ↔ c = '_' := by
  unfold lowerChar
  split
  · rw [List.mem_singleton, eq_comm, toLower_eq_underscore]
  · next high =>
    have other : c ≠ '_' := fun same => high (same ▸ by decide)
    refine iff_of_false ?_ other
    split
    · decide
    · split
      · next r found =>
        have covered := List.find?_some found
        simp only [CaseRun.covers, Bool.and_eq_true, decide_eq_true_eq] at covered
        have far := caseRuns_high r (List.mem_of_find?_eq_some found)
        rw [List.mem_singleton]
        intro same
        have code := eq_of_ofNat_eq_underscore same.symm
        have first := covered.1.1
        simp only [Int.ofNat_eq_natCast] at far code
        omega
      · rw [List.mem_singleton]
        exact fun same => other same.symm

theorem mem_lowerFrom_underscore (before : Bool) (cs : List Char) :
    '_' ∈ lowerFrom before cs ↔ '_' ∈ cs := by
  induction cs generalizing before with
  | nil => rfl
  | cons c rest ih =>
      rw [lowerFrom, List.mem_append, ih, List.mem_cons]
      refine or_congr_left ((Iff.trans ?_ eq_comm))
      split
      · next sigma =>
        have other : c ≠ '_' := by
          rintro rfl
          revert sigma
          decide
        refine iff_of_false ?_ other
        split <;> decide
      · exact mem_lowerChar_underscore

theorem underscore_mem_lower (s : String) : '_' ∈ (lower s).toList ↔ '_' ∈ s.toList := by
  rw [lower, String.toList_ofList]
  exact mem_lowerFrom_underscore false s.toList

end SdkBlueprint.Text
