import Mathlib.Data.List.TakeWhile
import SdkBlueprint.Text.Blank
import SdkBlueprint.Text.Parts

/-! Texts in texts. The parts of a text make up the text again, and what is trimmed has no blank at
either end. -/
namespace SdkBlueprint.Text

/-- The text has the other one somewhere in it. -/
def Holds (text part : String) : Prop := part.toList <:+: text.toList

theorem Holds.last (before part : String) : Holds (before ++ part) part := by
  rw [Holds, String.toList_append]
  exact (List.suffix_append _ _).isInfix

theorem Holds.append {text part : String} (h : Holds text part) (more : String) :
    Holds (text ++ more) part := by
  rw [Holds, String.toList_append]
  exact h.trans (List.prefix_append _ _).isInfix

theorem parts_eq_splitOn (separator : Char) (cs : List Char) :
    parts separator cs = cs.splitOn separator := by
  induction cs with
  | nil => rfl
  | cons c rest ih =>
      rw [List.splitOn, List.splitOnP_cons_eq_if_modifyHead, ← List.splitOn, parts, ih]
      split
      · rfl
      · cases found : rest.splitOn separator with
        | nil => exact absurd (ih.trans found) (parts_ne_nil separator rest)
        | cons part more => rfl

theorem intercalate_parts (separator : Char) (cs : List Char) :
    [separator].intercalate (parts separator cs) = cs := by
  rw [parts_eq_splitOn, List.intercalate_splitOn]

/-- What is joined has every property that is kept when texts are put together. -/
theorem of_intercalate {P : List Char → Prop} {separator : List Char} {parts : List (List Char)}
    (empty : P []) (together : ∀ {a b}, P a → P b → P (a ++ b)) (between : P separator)
    (each : ∀ part ∈ parts, P part) : P (separator.intercalate parts) := by
  induction parts with
  | nil => exact empty
  | cons part more ih =>
      obtain ⟨first, later⟩ := List.forall_mem_cons.mp each
      cases more with
      | nil => simpa [List.intercalate] using first
      | cons next more =>
          rw [List.intercalate_cons_cons]
          exact together (together first between) (ih later)

/-- The word stands in the piece between blanks, and has none at its ends. -/
structure Trims (piece word : List Char) : Prop where
  around : ∃ front back, piece = front ++ word ++ back ∧
    (∀ c ∈ front, isBlank c) ∧ ∀ c ∈ back, isBlank c
  first : ∀ c ∈ word.head?, ¬ isBlank c
  last : ∀ c ∈ word.getLast?, ¬ isBlank c

theorem head_dropWhile_blank {cs : List Char} {c : Char}
    (h : (cs.dropWhile isBlank).head? = some c) : ¬ isBlank c := by
  have stops := List.head?_dropWhile_not isBlank cs
  rw [h] at stops
  exact Bool.not_eq_true _ ▸ stops

theorem trims_trimChars (piece : List Char) : Trims piece (trimChars piece) := by
  obtain ⟨late, dropped⟩ : ∃ late, late = piece.dropWhile isBlank := ⟨_, rfl⟩
  have blank (cs : List Char) : ∀ c ∈ cs.takeWhile isBlank, isBlank c :=
    fun c hc => List.mem_takeWhile_imp hc
  have back : late = trimChars piece ++ (late.reverse.takeWhile isBlank).reverse := by
    rw [trimChars, ← dropped, ← List.reverse_append, List.takeWhile_append_dropWhile,
      List.reverse_reverse]
  refine ⟨⟨piece.takeWhile isBlank, (late.reverse.takeWhile isBlank).reverse, ?_, blank _, ?_⟩,
    fun c hc => ?_, fun c hc => ?_⟩
  · rw [List.append_assoc, ← back, dropped, List.takeWhile_append_dropWhile]
  · exact fun c hc => blank _ c (List.mem_reverse.mp hc)
  · have first : late.head? = some c := by
      rw [back, List.head?_append, Option.mem_def.mp hc]
      rfl
    exact head_dropWhile_blank (dropped ▸ first)
  · rw [trimChars, List.getLast?_reverse] at hc
    exact head_dropWhile_blank hc

theorem dropWhile_blank_of_head {cs : List Char} (h : ∀ c ∈ cs.head?, ¬ isBlank c) :
    cs.dropWhile isBlank = cs := by
  cases cs with
  | nil => rfl
  | cons c rest => exact List.dropWhile_cons_of_neg (h c rfl)

namespace Trims

variable {piece word front back : List Char}

/-- There is one word to trim a piece to. -/
theorem eq_trimChars (h : Trims piece word) : trimChars piece = word := by
  obtain ⟨front, back, rfl, before, behind⟩ := h.around
  rw [trimChars, List.append_assoc, List.dropWhile_append_of_pos before]
  cases word with
  | nil => rw [List.nil_append, List.dropWhile_eq_nil_iff.mpr behind]; rfl
  | cons c rest =>
      have ended : (c :: rest).reverse.dropWhile isBlank = (c :: rest).reverse :=
        dropWhile_blank_of_head fun d hd => h.last d (List.head?_reverse ▸ hd)
      have backwards : ∀ d ∈ back.reverse, isBlank d :=
        fun d hd => behind d (List.mem_reverse.mp hd)
      have begun : (c :: rest ++ back).dropWhile isBlank = c :: rest ++ back :=
        dropWhile_blank_of_head h.first
      rw [begun, List.reverse_append, List.dropWhile_append_of_pos backwards, ended,
        List.reverse_reverse]

/-- More blanks around a piece change nothing. -/
theorem widened (h : Trims piece word) (before : ∀ c ∈ front, isBlank c)
    (behind : ∀ c ∈ back, isBlank c) : Trims (front ++ piece ++ back) word := by
  obtain ⟨first, last, rfl, blankFirst, blankLast⟩ := h.around
  refine ⟨⟨front ++ first, last ++ back, by simp only [List.append_assoc], ?_, ?_⟩, h.first, h.last⟩
  · exact fun c hc => (List.mem_append.mp hc).elim (before c) (blankFirst c)
  · exact fun c hc => (List.mem_append.mp hc).elim (blankLast c) (behind c)

end Trims
end SdkBlueprint.Text
