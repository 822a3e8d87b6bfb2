import Mathlib.Data.List.SplitBy
import SdkBlueprint.Console.Grid
import SdkBlueprint.Proofs.Text.Parts

/-! Texts that fit. A text of one line that is no wider than the line is not broken, cut or
shortened: padding it to the width of the line is all that happens. -/
namespace SdkBlueprint.Console
open SdkBlueprint.Text

variable {cs : List Char}

/-- A text of one line that takes room of its own. Blanks at the end other than spaces only stay if
no character is narrower than a cell. -/
structure OneLine (cs : List Char) : Prop where
  line : ∀ c ∈ cs, c ≠ '\t' ∧ endsMeasure c = false
  ending : cs.length ≤ cells cs ∨ ∀ c ∈ cs.drop (trimEnd cs).length, c = ' '
  visible : cells cs = 0 → cs = []

theorem cells_append (cs ds : List Char) : cells (cs ++ ds) = cells cs + cells ds := by
  induction cs with
  | nil => simp [cells]
  | cons c cs ih => rw [List.cons_append, cells, cells, ih, Nat.add_assoc]

theorem cells_spaces (n : Nat) : cells (List.replicate n ' ') = n := by
  induction n with
  | zero => rfl
  | succ n ih =>
      have space : charCells ' ' = 1 := by decide
      rw [List.replicate_succ, cells, ih, space, Nat.add_comm]

theorem trimEnd_begins (cs : List Char) : trimEnd cs <+: cs := by
  rw [trimEnd, ← List.reverse_suffix, List.reverse_reverse]
  exact List.dropWhile_suffix isBlank

theorem expandTabs_of_no_tab (free : ∀ c ∈ cs, c ≠ '\t') (column : Nat) :
    expandTabs column cs = cs := by
  induction cs generalizing column with
  | nil => rfl
  | cons c cs ih =>
      obtain ⟨first, rest⟩ := List.forall_mem_cons.mp free
      simp [expandTabs, first, ih rest]

/-- The words make up the text again, unless it is all blank. -/
theorem words_flatten (cs : List Char) : words cs = [] ∨ (words cs).flatten = cs := by
  have whole := List.flatten_splitBy (fun a b => !isBlank a || isBlank b) cs
  unfold words
  split
  · exact .inl rfl
  · next first rest pieces =>
    rw [pieces] at whole
    split
    · split
      · exact .inl rfl
      · exact .inr (by simpa using whole)
    · exact .inr whole

theorem arrange_fitting {overflow : Overflow} {width used : Nat} {first : Bool}
    {ws : List (List Char)} (fits : used + cells ws.flatten ≤ width) :
    arrange overflow width first used ws = ws.map (Part.mk false) := by
  induction ws generalizing first used with
  | nil => rfl
  | cons w ws ih =>
      rw [List.flatten_cons, cells_append] at fits
      obtain ⟨blanks, split⟩ := trimEnd_begins w
      have trimmed : cells (trimEnd w) ≤ cells w := by
        rw [← congrArg cells split, cells_append]
        exact Nat.le_add_right _ _
      have here : used + cells (trimEnd w) ≤ width := by omega
      have later : used + cells w + cells ws.flatten ≤ width := by omega
      unfold arrange
      rw [if_pos here, ih later, List.map_cons]

theorem joinParts_unbroken (ws : List (List Char)) :
    joinParts (ws.map (Part.mk false)) = [ws.flatten] := by
  induction ws with
  | nil => rfl
  | cons w ws ih =>
      rw [List.map_cons, joinParts, ih]
      rfl

theorem wrapLine_fitting {overflow : Overflow} {width : Nat} (free : ∀ c ∈ cs, c ≠ '\t')
    (fits : cells cs ≤ width) :
    wrapLine overflow width cs = [cut overflow width (dropExcess width cs)] := by
  rw [wrapLine, expandTabs_of_no_tab free]
  rcases words_flatten cs with none | whole
  · simp only [none, List.map_cons, List.map_nil]
  · have arranged : joinParts (arrange overflow width true 0 (words cs)) = [cs] := by
      rw [arrange_fitting (by rw [whole]; omega), joinParts_unbroken, whole]
    split
    · simp only [List.map_cons, List.map_nil]
    · simp only [arranged, List.map_cons, List.map_nil]

theorem dropExcess_begins (width : Nat) (cs : List Char) : dropExcess width cs <+: cs :=
  List.take_prefix _ _

namespace OneLine

/-- Where every character takes a cell nothing more is asked of blanks. -/
theorem of_visible (h : cs.all fun c => c != '\t' && !endsMeasure c && decide (1 ≤ charCells c)) :
    OneLine cs := by
  simp only [List.all_eq_true, Bool.and_eq_true, bne_iff_ne, Bool.not_eq_true', decide_eq_true_eq,
    and_assoc] at h
  have narrow : cs.length ≤ cells cs := by
    induction cs with
    | nil => exact Nat.le_refl 0
    | cons c cs ih =>
        obtain ⟨⟨_, _, first⟩, later⟩ := List.forall_mem_cons.mp h
        have rest := ih later
        rw [List.length_cons, cells]
        omega
  refine ⟨fun c hc => ⟨(h c hc).1, (h c hc).2.1⟩, .inl narrow, fun none => ?_⟩
  exact List.length_eq_zero_iff.mp (Nat.le_zero.mp (none ▸ narrow))

theorem wrap {width : Nat} {overflow : Overflow} (h : OneLine cs) (fits : cells cs ≤ width) :
    wrap overflow width cs = [dropExcess width cs] := by
  have feed : '\n' ∉ cs := fun hc => by simpa [endsMeasure] using (h.line _ hc).2
  have line : parts '\n' cs = [cs] := (parts_eq_splitOn _ _).trans (List.splitOn_eq_singleton feed)
  have less : cells (dropExcess width cs) ≤ width := by
    obtain ⟨rest, split⟩ := dropExcess_begins width cs
    have whole := congrArg cells split
    rw [cells_append] at whole
    omega
  have kept : cut overflow width (dropExcess width cs) = dropExcess width cs := by
    unfold cut
    exact if_pos less
  rw [Console.wrap, line, List.flatMap_singleton,
    wrapLine_fitting (fun c hc => (h.line c hc).1) fits, kept]

theorem padCells_dropExcess {width : Nat} (h : OneLine cs) (fits : cells cs ≤ width) :
    padCells width (dropExcess width cs) = padCells width cs := by
  rcases h.ending with narrow | spaces
  · have all : dropExcess width cs = cs := by
      rw [dropExcess, Nat.sub_eq_zero_of_le (narrow.trans fits), Nat.min_zero, Nat.sub_zero,
        List.take_length]
    rw [all]
  · obtain ⟨k, taken, beyond⟩ :
        ∃ k, dropExcess width cs = cs.take k ∧ (trimEnd cs).length ≤ k := by
      have shorter := (trimEnd_begins cs).length_le
      exact ⟨_, rfl, by omega⟩
    have spaced : ∀ c ∈ cs.drop k, c = ' ' := by
      intro c hc
      rw [← Nat.add_sub_cancel' beyond, ← List.drop_drop] at hc
      exact spaces c (List.mem_of_mem_drop hc)
    have split := List.take_append_drop k cs
    rw [List.eq_replicate_iff.mpr ⟨rfl, spaced⟩] at split
    have whole := congrArg cells split
    rw [cells_append, cells_spaces] at whole
    have room : width - cells (cs.take k) = (cs.drop k).length + (width - cells cs) := by omega
    rw [taken, padCells, padCells, room, List.replicate_add, ← List.append_assoc, split]

theorem measure (h : OneLine cs) : measure cs = cells cs := by
  rw [Console.measure]
  by_cases empty : cs = []
  · rw [empty]
    rfl
  · have chain : cs.IsChain fun a b => (!endsMeasure a && !endsMeasure b) = true :=
      (List.pairwise_of_forall_mem_list fun a ha b hb => by
        simp [(h.line a ha).2, (h.line b hb).2]).isChain
    rw [List.splitBy_of_isChain empty chain, List.map_singleton, List.foldl_cons, List.foldl_nil,
      Nat.zero_max]

/-- In a column with room for it the text stands between blanks. -/
theorem cellLines {width : Nat} (h : OneLine cs) (fits : cells cs ≤ width) :
    cellLines (width + 2) cs = [' ' :: padCells width cs ++ [' ']] := by
  rw [Console.cellLines, Nat.add_sub_cancel]
  by_cases none : width = 0
  · subst none
    rw [h.visible (Nat.le_zero.mp fits)]
    rfl
  · have wide : ¬ width + 2 ≤ 2 := by omega
    simp only [wide, if_false, h.wrap fits, List.map_cons, List.map_nil, h.padCells_dropExcess fits]

end OneLine
end SdkBlueprint.Console
