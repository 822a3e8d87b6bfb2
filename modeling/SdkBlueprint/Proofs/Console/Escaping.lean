import SdkBlueprint.Console.Markup
import SdkBlueprint.Proofs.Journal

/-! Escaped text. Whatever a message says, the markup around it stays in order: no tag is read out
of the text, and a backslash at its end takes nothing but the tag behind it. -/
namespace SdkBlueprint.Console

variable {cs e tail content after : List Char} {opened : List (List Char)}

section Tags

theorem slashedTag?_slash (cs : List Char) :
    slashedTag? ('\\' :: cs) = (slashedTag? cs).map fun r => (r.1 + 1, r.2) := by
  simp only [slashedTag?, List.dropWhile_cons, List.takeWhile_cons, beq_self_eq_true, if_true,
    List.length_cons]
  split
  · rw [Option.map_map]
    rfl
  · rfl

theorem slashedTag?_slashes (n : Nat) (cs : List Char) :
    slashedTag? (List.replicate n '\\' ++ cs) = (slashedTag? cs).map fun r => (r.1 + n, r.2) := by
  induction n with
  | zero => simp
  | succ n ih =>
      rw [List.replicate_succ, List.cons_append, slashedTag?_slash, ih, Option.map_map]
      rfl

theorem slashedTag?_bracket (cs : List Char) :
    slashedTag? ('[' :: cs) = (tag? cs).map fun r => (0, r.1, r.2) := rfl

theorem slashedTag?_other {c : Char} (slash : c ≠ '\\') (bracket : c ≠ '[') (cs : List Char) :
    slashedTag? (c :: cs) = none := by
  simp only [slashedTag?, List.dropWhile_cons, beq_eq_false_iff_ne.mpr slash, Bool.false_eq_true,
    if_false]
  split
  · next same => exact absurd (List.cons.inj same).1 bracket
  · rfl

theorem untilClosed_closed (h : untilClosed cs = some (content, after)) (rest : List Char) :
    untilClosed (content ++ ']' :: rest) = some (content, rest) := by
  induction cs generalizing content after with
  | nil => cases h
  | cons c cs ih =>
      rw [untilClosed] at h
      split at h
      · cases h
        rfl
      · next close =>
        split at h
        · cases h
        · next bracket =>
          obtain ⟨⟨body, last⟩, found, same⟩ := Option.map_eq_some_iff.mp h
          cases same
          rw [List.cons_append, untilClosed, if_neg close, if_neg bracket, ih found]
          rfl

theorem tag?_closed (h : tag? cs = some (content, after)) (rest : List Char) :
    tag? (content ++ ']' :: rest) = some (content, rest) := by
  unfold tag? at h
  split at h
  · split at h
    · next begins =>
      obtain ⟨⟨body, last⟩, found, same⟩ := Option.map_eq_some_iff.mp h
      cases same
      rw [List.cons_append, tag?, if_pos begins, untilClosed_closed found]
      rfl
    · cases h
  · cases h

/-- A tag is found again where it is written, whatever comes after it. -/
theorem slashedTag?_written (h : tag? cs = some (content, after)) (n : Nat) (rest : List Char) :
    slashedTag? (List.replicate n '\\' ++ written content ++ rest) = some (n, content, rest) := by
  rw [List.append_assoc, slashedTag?_slashes, written, List.cons_append, List.cons_append,
    slashedTag?_bracket, List.append_assoc, List.singleton_append, tag?_closed h]
  simp

theorem tag?_of_slashedTag? {k : Nat} (h : slashedTag? cs = some (k, content, after)) :
    ∃ rest, tag? rest = some (content, after) := by
  unfold slashedTag? at h
  split at h
  · obtain ⟨found, known, same⟩ := Option.map_eq_some_iff.mp h
    cases same
    exact ⟨_, known⟩
  · cases h

theorem untilClosed_opened (n : Nat) (cs : List Char) :
    untilClosed (List.replicate n '\\' ++ '[' :: cs) = none := by
  induction n with
  | zero => rfl
  | succ n ih =>
      rw [List.replicate_succ, List.cons_append, untilClosed, ih]
      rfl

end Tags

/-- What escaping makes of the pieces of a text, as far as they are read. -/
inductive Escaped : List Char → List Char → Prop
  | nil (cs : List Char) : Escaped cs []
  | tag {cs content after e : List Char} {k : Nat} :
      slashedTag? cs = some (k, content, after) → Escaped after e →
      Escaped cs (List.replicate (2 * k + 1) '\\' ++ written content ++ e)
  | plain {c : Char} {cs e : List Char} :
      slashedTag? (c :: cs) = none → Escaped cs e → Escaped (c :: cs) (c :: e)

theorem escapePiece_addChar (c : Char) (ps : List Piece) :
    (addChar c ps).flatMap escapePiece = c :: ps.flatMap escapePiece := by
  unfold addChar
  split <;> rfl

theorem piecesFrom_escaped (fuel : Nat) (cs : List Char) :
    Escaped cs ((piecesFrom fuel cs).flatMap escapePiece) := by
  fun_induction piecesFrom fuel cs with
  | case1 => exact .nil _
  | case2 => exact .nil _
  | case3 fuel c cs k content after found ih => exact .tag found ih
  | case4 fuel c cs free ih =>
      rw [escapePiece_addChar]
      exact .plain free ih

/-- The text is read without a failure where the given styles are open. -/
def Readable (opened : List (List Char)) (cs : List Char) : Prop :=
  ∀ fuel, ∃ out, readPieces opened (piecesFrom fuel cs) = .ok out

/-- Text behind an escaped one that completes no tag of it, and that is read without a failure
whatever backslashes come before it. -/
structure Ending (opened : List (List Char)) (tail : List Char) : Prop where
  unclosed : untilClosed tail = none
  untagged : tag? tail = none
  reads : ∀ slashes, Readable opened (List.replicate slashes '\\' ++ tail)

namespace Escaped

/-- Where the text closes no bracket, its markup does not either. -/
theorem untilClosed (h : Escaped cs e) (free : Console.untilClosed cs = none)
    (ending : Console.untilClosed tail = none) : Console.untilClosed (e ++ tail) = none := by
  induction h with
  | nil => exact ending
  | @tag cs k content after e found rest ih =>
      rw [written, List.append_assoc, List.append_assoc, List.cons_append]
      exact untilClosed_opened _ _
  | @plain c cs e none rest ih =>
      rw [Console.untilClosed] at free
      rw [List.cons_append, Console.untilClosed]
      split at free
      · cases free
      · next close =>
        rw [if_neg close]
        split at free
        · next bracket => rw [if_pos bracket]
        · next bracket =>
          rw [if_neg bracket, ih (Option.map_eq_none_iff.mp free)]
          rfl

/-- Where the text does not go on as a tag, its markup does not either. -/
theorem tag? (h : Escaped cs e) (free : Console.tag? cs = none)
    (unclosed : Console.untilClosed tail = none) (untagged : Console.tag? tail = none) :
    Console.tag? (e ++ tail) = none := by
  cases h with
  | nil => exact untagged
  | tag found rest =>
      rw [List.append_assoc, List.replicate_succ]
      rfl
  | plain none rest =>
      rw [Console.tag?] at free
      rw [List.cons_append, Console.tag?]
      split at free
      · next begins =>
        rw [if_pos begins, rest.untilClosed (Option.map_eq_none_iff.mp free) unclosed]
        rfl
      · next begins => rw [if_neg begins]

/-- Where no tag begins in the text, none begins in its markup, unless the markup is nothing but
backslashes. -/
theorem slashedTag? (h : Escaped cs e) (free : Console.slashedTag? cs = none)
    (ending : Ending opened tail) :
    Console.slashedTag? (e ++ tail) = none ∨ ∃ n, e = List.replicate n '\\' := by
  induction h with
  | nil => exact .inr ⟨0, rfl⟩
  | tag found rest ih => cases free.symm.trans found
  | @plain c cs e none rest ih =>
      rw [List.cons_append]
      by_cases slash : c = '\\'
      · subst slash
        rw [slashedTag?_slash] at none ⊢
        rcases ih (Option.map_eq_none_iff.mp none) with free | ⟨n, same⟩
        · exact .inl (by rw [free]; rfl)
        · exact .inr ⟨n + 1, by rw [same]; rfl⟩
      · by_cases bracket : c = '['
        · subst bracket
          rw [slashedTag?_bracket] at none ⊢
          rw [rest.tag? (Option.map_eq_none_iff.mp none) ending.unclosed ending.untagged]
          exact .inl rfl
        · exact .inl (slashedTag?_other slash bracket _)

end Escaped

theorem piecesFrom_tag {k : Nat} (found : slashedTag? cs = some (k, content, after)) (fuel : Nat) :
    piecesFrom (fuel + 1) cs = .tag k content :: piecesFrom fuel after := by
  cases cs with
  | nil => cases found
  | cons c cs => rw [piecesFrom, found]

theorem readPieces_addChar {ps : List Piece} (c : Char)
    (h : ∃ out, readPieces opened ps = .ok out) :
    ∃ out, readPieces opened (addChar c ps) = .ok out := by
  obtain ⟨out, read⟩ := h
  unfold addChar
  split
  · obtain ⟨more, known, _⟩ := attempt_map_ok read
    exact ⟨_, by rw [readPieces, known]; rfl⟩
  · exact ⟨_, by rw [readPieces, read]; rfl⟩

namespace Readable

variable {opened' : List (List Char)} {k : Nat}

theorem nil : Readable opened [] := by
  intro fuel
  cases fuel <;> exact ⟨[], rfl⟩

theorem free {c : Char} (none : slashedTag? (c :: cs) = none) (h : Readable opened cs) :
    Readable opened (c :: cs) := by
  intro fuel
  cases fuel with
  | zero => exact ⟨[], rfl⟩
  | succ fuel =>
      rw [piecesFrom, none]
      exact readPieces_addChar c (h fuel)

theorem word {pre : List Char} (plain : ∀ c ∈ pre, c ≠ '\\' ∧ c ≠ '[') (h : Readable opened cs) :
    Readable opened (pre ++ cs) := by
  induction pre with
  | nil => exact h
  | cons c pre ih =>
      have first := plain c (by simp)
      exact .free (slashedTag?_other first.1 first.2 _) (ih fun d hd => plain d (by simp [hd]))

/-- A tag with an odd number of backslashes before it is text. -/
theorem literal (found : slashedTag? cs = some (k, content, after)) (odd : k % 2 = 1)
    (h : Readable opened after) : Readable opened cs := by
  intro fuel
  cases fuel with
  | zero => exact ⟨[], by rw [piecesFrom]; rfl⟩
  | succ fuel =>
      obtain ⟨out, read⟩ := h fuel
      rw [piecesFrom_tag found, readPieces, odd, read]
      exact ⟨_, rfl⟩

/-- A tag with an even number of backslashes before it counts. -/
theorem applied (found : slashedTag? cs = some (k, content, after)) (even : k % 2 = 0)
    (applied : applyTag opened content = .ok opened') (h : Readable opened' after) :
    Readable opened cs := by
  intro fuel
  cases fuel with
  | zero => exact ⟨[], by rw [piecesFrom]; rfl⟩
  | succ fuel =>
      obtain ⟨out, read⟩ := h fuel
      rw [piecesFrom_tag found, readPieces, even, applied]
      exact ⟨_, by simp only [bind, Except.bind, read]; rfl⟩

/-- A tag in front of a text that can be read with the tag applied. -/
theorem tag (known : tag? (content ++ [']']) = some (content, []))
    (applied : applyTag opened content = .ok opened') (h : Readable opened' cs) :
    Readable opened (written content ++ cs) :=
  .applied (slashedTag?_written known 0 cs) rfl applied h

end Readable

namespace Ending

theorem nil : Ending opened [] := by
  refine ⟨rfl, rfl, fun slashes => ?_⟩
  induction slashes with
  | zero => exact .nil
  | succ n ih =>
      refine .free ?_ ih
      exact (slashedTag?_slashes (n + 1) []).trans rfl

/-- A closing tag is text behind an odd number of backslashes, and else closes its style. -/
theorem tag {opened' : List (List Char)} (known : tag? (content ++ [']']) = some (content, []))
    (applied : applyTag opened content = .ok opened') : Ending opened (written content) := by
  refine ⟨rfl, rfl, fun slashes => ?_⟩
  have found := slashedTag?_written known slashes []
  rw [List.append_nil] at found
  rcases Nat.mod_two_eq_zero_or_one slashes with even | odd
  · exact .applied found even applied .nil
  · exact .literal found odd .nil

theorem slash (h : Ending opened tail) : Ending opened ('\\' :: tail) := by
  refine ⟨?_, rfl, fun slashes => ?_⟩
  · rw [untilClosed, h.unclosed]
    rfl
  · have more := h.reads (slashes + 1)
    rwa [List.replicate_succ', List.append_assoc, List.singleton_append] at more

end Ending

theorem Escaped.readable (h : Escaped cs e) (ending : Ending opened tail) :
    Readable opened (e ++ tail) := by
  induction h with
  | nil => exact ending.reads 0
  | @tag cs content after e k found rest ih =>
      obtain ⟨_, known⟩ := tag?_of_slashedTag? found
      rw [List.append_assoc]
      exact .literal (slashedTag?_written known (2 * k + 1) _) (by omega) ih
  | @plain c cs e none rest ih =>
      rcases (Escaped.plain none rest).slashedTag? none ending with free | ⟨n, same⟩
      · exact .free free ih
      · rw [same]
        exact ending.reads n

/-- Escaped text is read without a failure, whatever the text is. -/
theorem escape_readable (ending : Ending opened tail) (cs : List Char) :
    Readable opened (escape cs ++ tail) := by
  have escaped := piecesFrom_escaped cs.length cs
  unfold escape escapeEnd
  split
  · exact escaped.readable ending
  · rw [List.append_assoc]
    exact escaped.readable ending.slash
  · exact escaped.readable ending

theorem shownText_total {markup : List Char} (h : Readable [] markup) :
    ∃ shown, shownText markup = .ok shown := by
  obtain ⟨out, read⟩ := h markup.length
  exact ⟨_, by rw [shownText, pieces, read]; rfl⟩

end SdkBlueprint.Console
