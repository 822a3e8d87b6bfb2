import Mathlib.Data.List.Basic
import SdkBlueprint.Proofs.Text.Parts
import SdkBlueprint.Text.Letters

/-! The case of ASCII letters. Lower case loses it, also where the characters around a sigma decide
which of two forms it takes; and blanks have no case, so that trimming leaves it as it is. -/
namespace SdkBlueprint.Text

/-- The texts differ at most in the case of ASCII letters. -/
def SameButCase (s t : List Char) : Prop := s.map Char.toLower = t.map Char.toLower

/-- What does not tell any of the capitals from its small letter tells no case at all. -/
theorem toLower_blind {α : Type} (f : Char → α)
    (capitals : ∀ n < 26, f (Char.ofNat (65 + n)).toLower = f (Char.ofNat (65 + n))) (c : Char) :
    f c.toLower = f c := by
  by_cases capital : c.val ≥ 'A'.val ∧ c.val ≤ 'Z'.val
  · have first : 65 ≤ c.toNat := UInt32.le_iff_toNat_le.mp capital.1
    have last : c.toNat ≤ 90 := UInt32.le_iff_toNat_le.mp capital.2
    have same := capitals (c.toNat - 65) (by omega)
    have code : 65 + (c.toNat - 65) = c.toNat := by omega
    rwa [code, Char.ofNat_toNat] at same
  · have small : c.toLower = c := dif_neg capital
    rw [small]

section Characters

variable (c : Char)

theorem isBlank_toLower : isBlank c.toLower = isBlank c := toLower_blind isBlank (by decide) c

theorem isCased_toLower : isCased c.toLower = isCased c := toLower_blind isCased (by decide) c

theorem isCaseIgnorable_toLower : isCaseIgnorable c.toLower = isCaseIgnorable c :=
  toLower_blind isCaseIgnorable (by decide +kernel) c

theorem lowerChar_toLower : lowerChar c.toLower = lowerChar c :=
  toLower_blind lowerChar (by decide) c

theorem toLower_isSigma : (c.toLower.toNat == 0x3A3) = (c.toNat == 0x3A3) :=
  toLower_blind (fun c => c.toNat == 0x3A3) (by decide) c

end Characters

theorem startsCased_map_toLower (cs : List Char) :
    startsCased (cs.map Char.toLower) = startsCased cs := by
  have ignored : isCaseIgnorable ∘ Char.toLower = isCaseIgnorable := funext isCaseIgnorable_toLower
  rw [startsCased, startsCased, List.dropWhile_map, ignored]
  cases cs.dropWhile isCaseIgnorable with
  | nil => rfl
  | cons c rest => exact isCased_toLower c

theorem lowerFrom_map_toLower (before : Bool) (cs : List Char) :
    lowerFrom before (cs.map Char.toLower) = lowerFrom before cs := by
  induction cs generalizing before with
  | nil => rfl
  | cons c rest ih =>
      rw [List.map_cons, lowerFrom, lowerFrom, ih, isCaseIgnorable_toLower, isCased_toLower,
        toLower_isSigma, lowerChar_toLower, startsCased_map_toLower]

theorem trimChars_map_toLower (cs : List Char) :
    trimChars (cs.map Char.toLower) = (trimChars cs).map Char.toLower := by
  have blank : isBlank ∘ Char.toLower = isBlank := funext isBlank_toLower
  rw [trimChars, trimChars, List.dropWhile_map, blank, ← List.map_reverse, List.dropWhile_map,
    blank, List.map_reverse]

namespace SameButCase

variable {s t : List Char}

theorem lowerChars_eq (h : SameButCase s t) : lowerChars s = lowerChars t := by
  have small := congrArg lowerChars h
  rwa [lowerChars, lowerChars, lowerFrom_map_toLower, lowerFrom_map_toLower] at small

theorem trimmed (h : SameButCase s t) : SameButCase (trimChars s) (trimChars t) := by
  rw [SameButCase, ← trimChars_map_toLower, h, trimChars_map_toLower]

/-- A text that is cut where a test first fails is so, whatever its case, if the test has none. -/
theorem takeWhile {test : Char → Bool} (blind : ∀ c, test c.toLower = test c)
    (h : SameButCase s t) : SameButCase (s.takeWhile test) (t.takeWhile test) := by
  have same : test ∘ Char.toLower = test := funext blind
  have cut := congrArg (List.takeWhile test) h
  rwa [List.takeWhile_map, List.takeWhile_map, same] at cut

end SameButCase
end SdkBlueprint.Text
