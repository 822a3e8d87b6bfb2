import Mathlib.Algebra.Ring.Nat
import SdkBlueprint.Text.Quoted

/-! Quoted text. Each character reads back from its escape whatever follows it, so that different
texts are quoted differently. -/
namespace SdkBlueprint.Text

def hexValue (c : Char) : Nat := if c.isDigit then c.toNat - 48 else c.toNat - 87

theorem hexValue_hexDigit (n : Nat) : hexValue (hexDigit n) = n % 16 := by
  have each : ∀ d < 16, hexValue (Nat.digitChar d) = d := by decide
  exact each _ (Nat.mod_lt n (by decide))

def readHex (cs : List Char) : Nat := cs.foldl (fun n c => n * 16 + hexValue c) 0

theorem length_hexDigits (width n : Nat) : (hexDigits width n).length = width := by
  induction width generalizing n with
  | zero => rfl
  | succ width ih => rw [hexDigits, List.length_append, ih, List.length_singleton]

theorem readHex_hexDigits (width n : Nat) : readHex (hexDigits width n) = n % 16 ^ width := by
  induction width generalizing n with
  | zero => exact (Nat.mod_one n).symm
  | succ width ih =>
      have rest := ih (n / 16)
      unfold readHex at rest ⊢
      rw [hexDigits, List.foldl_append, rest, List.foldl_cons, List.foldl_nil, hexValue_hexDigit,
        Nat.pow_succ', Nat.mod_mul]
      omega

/-- The character with a code of so many digits, and what follows it. -/
def readCode (width : Nat) (cs : List Char) : Option (Char × List Char) :=
  some (Char.ofNat (readHex (cs.take width)), cs.drop width)

theorem readCode_hexDigits {width : Nat} {c : Char} (fits : c.toNat < 16 ^ width)
    (rest : List Char) : readCode width (hexDigits width c.toNat ++ rest) = some (c, rest) := by
  have length := length_hexDigits width c.toNat
  rw [readCode, List.take_left' length, List.drop_left' length, readHex_hexDigits,
    Nat.mod_eq_of_lt fits, Char.ofNat_toNat]

/-- The first character of a text with escapes, and what follows it. -/
def readEscaped : List Char → Option (Char × List Char)
  | [] => none
  | '\\' :: 'n' :: rest => some ('\n', rest)
  | '\\' :: 'r' :: rest => some ('\r', rest)
  | '\\' :: 't' :: rest => some ('\t', rest)
  | '\\' :: 'x' :: rest => readCode 2 rest
  | '\\' :: 'u' :: rest => readCode 4 rest
  | '\\' :: 'U' :: rest => readCode 8 rest
  | '\\' :: c :: rest => some (c, rest)
  | c :: rest => some (c, rest)

def IsQuote (q : Char) : Prop := q = '\'' ∨ q = '"'

theorem quoteFor_isQuote (cs : List Char) : IsQuote (quoteFor cs) := by
  unfold quoteFor
  split
  · exact .inr rfl
  · exact .inl rfl

theorem readEscaped_plain {c : Char} (plain : c ≠ '\\') (rest : List Char) :
    readEscaped (c :: rest) = some (c, rest) := by
  unfold readEscaped
  split
  all_goals simp_all

/-- A character reads back from its escape, whatever follows it. -/
theorem readEscaped_escapeQuoted {q : Char} (quote : IsQuote q) (c : Char) (rest : List Char) :
    readEscaped (escapeQuoted q c ++ rest) = some (c, rest) := by
  fun_cases escapeQuoted q c with
  | case1 special =>
      rw [Bool.or_eq_true, beq_iff_eq, beq_iff_eq] at special
      rcases special with rfl | rfl
      · rcases quote with rfl | rfl <;> rfl
      · rfl
  | case2 _ line =>
      rw [beq_iff_eq.mp line]
      rfl
  | case3 _ _ line =>
      rw [beq_iff_eq.mp line]
      rfl
  | case4 _ _ _ tab =>
      rw [beq_iff_eq.mp tab]
      rfl
  | case5 special =>
      rw [Bool.or_eq_true, beq_iff_eq, beq_iff_eq, not_or] at special
      exact readEscaped_plain special.2 rest
  | case6 _ _ _ _ _ small => exact readCode_hexDigits small rest
  | case7 _ _ _ _ _ _ small => exact readCode_hexDigits small rest
  | case8 => exact readCode_hexDigits c.val.toNat_lt rest

/-- Texts with escapes are told from the whole, if each character reads back from its escape and
none is read from what follows the texts. -/
theorem flatMap_cancel {f : Char → List Char} {read : List Char → Option (Char × List Char)}
    (reads : ∀ c rest, read (f c ++ rest) = some (c, rest)) {cs ds r s : List Char}
    (hr : read r = none) (hs : read s = none)
    (same : cs.flatMap f ++ r = ds.flatMap f ++ s) : cs = ds ∧ r = s := by
  induction cs generalizing ds with
  | nil =>
      cases ds with
      | nil => exact ⟨rfl, same⟩
      | cons d ds =>
          rw [List.flatMap_nil, List.nil_append, List.flatMap_cons, List.append_assoc] at same
          rw [same, reads] at hr
          cases hr
  | cons c cs ih =>
      rw [List.flatMap_cons, List.append_assoc] at same
      have read := reads c (cs.flatMap f ++ r)
      cases ds with
      | nil =>
          rw [same, List.flatMap_nil, List.nil_append, hs] at read
          cases read
      | cons d ds =>
          rw [same, List.flatMap_cons, List.append_assoc, reads] at read
          obtain ⟨rfl, rest⟩ := Prod.mk.inj (Option.some.inj read)
          obtain ⟨rfl, after⟩ := ih rest.symm
          exact ⟨rfl, after⟩

theorem flatMap_escapeQuoted_injective {q : Char} (quote : IsQuote q) :
    Function.Injective (List.flatMap (escapeQuoted q)) := by
  intro cs ds same
  exact (flatMap_cancel (readEscaped_escapeQuoted quote) rfl rfl (congrArg (· ++ []) same)).1

theorem quoteChars_injective : Function.Injective quoteChars := by
  intro cs ds same
  obtain ⟨quote, inner⟩ := List.cons.inj same
  rw [← quote] at inner
  exact flatMap_escapeQuoted_injective (quoteFor_isQuote cs) (List.append_cancel_right inner)

end SdkBlueprint.Text
