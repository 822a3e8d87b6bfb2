import SdkBlueprint.Console.Printer
import SdkBlueprint.Proofs.Console.Fitting
import SdkBlueprint.Proofs.Console.Unmarked

/-! Tables in their two forms. Without colour the cells of a row stand between tabs and are read
back from there; with colour every row is a line of the frame, with its cells padded to the widths
that all rows share. Only markup in a cell makes the two differ. -/
namespace SdkBlueprint.Console
open SdkBlueprint.Text

theorem foldl_max_le_iff {xs : List Nat} {b n : Nat} :
    xs.foldl max b ≤ n ↔ b ≤ n ∧ ∀ x ∈ xs, x ≤ n := by
  induction xs generalizing b with
  | nil => simp
  | cons x xs ih => rw [List.foldl_cons, ih, Nat.max_le, List.forall_mem_cons, and_assoc]

theorem le_foldl_max {xs : List Nat} {x : Nat} (h : x ∈ xs) : x ≤ xs.foldl max 0 :=
  (foldl_max_le_iff.mp (Nat.le_refl (xs.foldl max 0))).2 x h

theorem foldl_max_const {xs : List Nat} {n : Nat} (some : xs ≠ []) (all : ∀ x ∈ xs, x = n) :
    xs.foldl max 0 = n := by
  obtain ⟨x, hx⟩ := List.exists_mem_of_ne_nil xs some
  have below : n ≤ xs.foldl max 0 := all x hx ▸ le_foldl_max hx
  have above : xs.foldl max 0 ≤ n :=
    foldl_max_le_iff.mpr ⟨Nat.zero_le n, fun x hx => Nat.le_of_eq (all x hx)⟩
  exact Nat.le_antisymm above below

section Drawn

variable {edge : Char} {widths : List Nat} {row : List (List Char)}

/-- A cell with a blank on each side, in a column of this width. -/
def padded (width : Nat) (cs : List Char) : List Char := ' ' :: padCells (width - 2) cs ++ [' ']

/-- The line of a row whose cells fit. -/
def drawnRow (edge : Char) (widths : List Nat) (row : List (List Char)) : List Char :=
  edge :: [edge].intercalate (List.zipWith padded widths row) ++ [edge]

/-- Every row is a line, and the header stands between borders of its own. -/
def frame (widths : List Nat) (header : List (List Char)) (rows : List (List (List Char))) :
    List (List Char) :=
  border '┏' '━' '┳' '┓' widths :: drawnRow '┃' widths header ::
    border '┡' '━' '╇' '┩' widths :: rows.map (drawnRow '│' widths) ++
      [border '└' '─' '┴' '┘' widths]

/-- The columns are as wide as their widest cells with the blanks beside them. -/
def naturalWidths (header : List (List Char)) (rows : List (List (List Char))) : List Nat :=
  (List.range header.length).map (columnWidth ((header :: rows).map Row.mk))

theorem cellLines_fitting {width : Nat} {cs : List Char} (line : OneLine cs)
    (fits : cells cs + 2 ≤ width) : cellLines width cs = [padded width cs] := by
  have both : width = width - 2 + 2 := by omega
  have room : cells cs ≤ width - 2 := by omega
  rw [both, line.cellLines room, padded, Nat.add_sub_cancel]

theorem stretch_single (bottom : Bool) (width : Nat) (line : List Char) :
    stretch bottom width 1 [line] = [line] := by
  cases bottom <;> rfl

theorem rowLines_fitting (header : Bool) (columns : widths ≠ []) (same : row.length = widths.length)
    (fits : ∀ i (hw : i < widths.length) (hr : i < row.length),
      OneLine row[i] ∧ cells row[i] + 2 ≤ widths[i]) :
    rowLines header edge widths ⟨row⟩ = [drawnRow edge widths row] := by
  have lines : (widths.zipIdx.map fun w => (w.1, cellLines w.1 (cellAt w.2 ⟨row⟩))) =
      List.zipWith (fun w cs => (w, [padded w cs])) widths row := by
    refine List.ext_getElem (by simp [same]) fun i hw hz => ?_
    have inside : i < widths.length := by simpa using hw
    have there : i < row.length := same ▸ inside
    obtain ⟨line, room⟩ := fits i inside there
    simp [cellAt, there, cellLines_fitting line room]
  have height : ((List.zipWith (fun w cs => (w, [padded w cs])) widths row).map
      fun c => c.2.length).foldl max 0 = 1 := by
    refine foldl_max_const ?_ fun x hx => ?_
    · cases widths with
      | nil => exact absurd rfl columns
      | cons w ws =>
          cases row with
          | nil => cases same
          | cons c cs => simp
    · obtain ⟨i, hi, rfl⟩ := List.getElem_of_mem hx
      simp
  have stretched : (List.zipWith (fun w cs => (w, [padded w cs])) widths row).map
      (fun c => stretch header c.1 1 c.2) =
        List.zipWith (fun w cs => [padded w cs]) widths row := by
    rw [List.map_zipWith]
    simp only [stretch_single]
  rw [rowLines, lines, height]
  simp only [stretched, List.range_one, List.map_singleton, List.map_zipWith]
  rfl

variable {header : List (List Char)} {rows : List (List (List Char))}

theorem naturalWidths_fit (line : ∀ row ∈ header :: rows, ∀ cs ∈ row, OneLine cs)
    (member : row ∈ header :: rows) (i : Nat) (hw : i < (naturalWidths header rows).length)
    (hr : i < row.length) :
    OneLine row[i] ∧ cells row[i] + 2 ≤ (naturalWidths header rows)[i] := by
  have one := line row member row[i] (List.getElem_mem hr)
  have here : cellAt i ⟨row⟩ = row[i] := by simp [cellAt, hr]
  have measured : measure (cellAt i ⟨row⟩) ∈
      ((header :: rows).map Row.mk).map fun r => measure (cellAt i r) := by
    rw [List.map_map]
    exact List.mem_map.mpr ⟨row, member, rfl⟩
  have wide := le_foldl_max measured
  rw [here, one.measure] at wide
  refine ⟨one, ?_⟩
  simp only [naturalWidths, List.getElem_map, List.getElem_range, columnWidth]
  exact Nat.add_le_add_right wide 2

/-- A table that has room is drawn as a frame with its cells. -/
theorem gridLines_fitting {total : Nat} (columns : header ≠ [])
    (rect : ∀ row ∈ rows, row.length = header.length)
    (line : ∀ row ∈ header :: rows, ∀ cs ∈ row, OneLine cs)
    (room : totalWidth (naturalWidths header rows) + header.length + 1 ≤ total) :
    gridLines total ⟨header⟩ (rows.map Row.mk) = frame (naturalWidths header rows) header rows := by
  have some : header.length ≠ 0 := fun none => columns (List.length_eq_zero_iff.mp none)
  have lengths : ∀ row ∈ header :: rows, row.length = header.length :=
    List.forall_mem_cons.mpr ⟨rfl, rect⟩
  have count : (((⟨header⟩ :: rows.map Row.mk).map fun r => r.cells.length).foldl max 0) =
      header.length := by
    refine foldl_max_const (by simp) fun x hx => ?_
    rw [← List.map_cons (f := Row.mk), List.map_map] at hx
    obtain ⟨row, member, rfl⟩ := List.mem_map.mp hx
    exact lengths row member
  have widths : columnWidths total header.length (⟨header⟩ :: rows.map Row.mk) =
      naturalWidths header rows := by
    have fits : totalWidth (naturalWidths header rows) ≤ total - (header.length + 1) := by omega
    exact if_pos fits
  have row (bottom : Bool) (edge : Char) : ∀ row ∈ header :: rows,
      rowLines bottom edge (naturalWidths header rows) ⟨row⟩ =
        [drawnRow edge (naturalWidths header rows) row] := by
    intro row member
    refine rowLines_fitting bottom ?_ ?_ (naturalWidths_fit line member)
    · simpa [naturalWidths] using some
    · simpa [naturalWidths] using lengths row member
  have body : (rows.map Row.mk).flatMap (rowLines false '│' (naturalWidths header rows)) =
      rows.map (drawnRow '│' (naturalWidths header rows)) := by
    rw [List.flatMap_map, List.map_eq_flatMap]
    exact List.flatMap_congr fun r hr => row false '│' r (List.mem_cons_of_mem header hr)
  rw [gridLines, count]
  simp only [beq_eq_false_iff_ne.mpr some, Bool.false_eq_true, if_false, widths, body,
    row true '┃' header List.mem_cons_self]
  rfl

end Drawn

section Plain

theorem ended_toList {text : String} (free : '\n' ∉ text.toList) :
    (ended text).toList = text.toList ++ ['\n'] := by
  have last : text.toList.getLast? ≠ some '\n' := fun h => free (List.mem_of_getLast? h)
  rw [ended, if_neg (by simpa using last), String.toList_append]
  rfl

theorem parts_lines {separator : Char} {lines : List (List Char)}
    (free : ∀ line ∈ lines, separator ∉ line) :
    parts separator (lines.flatMap fun line => line ++ [separator]) = lines ++ [[]] := by
  induction lines with
  | nil => rfl
  | cons line lines ih =>
      obtain ⟨first, later⟩ := List.forall_mem_cons.mp free
      have rest := ih later
      rw [parts_eq_splitOn] at rest ⊢
      rw [List.flatMap_cons, List.append_assoc, List.singleton_append,
        List.splitOn_append_cons_self_of_not_mem first, rest, List.cons_append]

/-- Cells are read back from between the tabs. -/
theorem plainTable_read {header : List String} {rows : List (List String)}
    (columns : header ≠ []) (rect : ∀ row ∈ rows, row.length = header.length)
    (free : ∀ row ∈ header :: rows, ∀ cell ∈ row, '\t' ∉ cell.toList ∧ '\n' ∉ cell.toList) :
    (parts '\n' (Printer.plainTable header rows).toList).map (parts '\t') =
      (header :: rows).map (List.map String.toList) ++ [[[]]] := by
  have feed : ∀ row ∈ header :: rows, '\n' ∉ ['\t'].intercalate (row.map String.toList) := by
    intro row member
    exact of_intercalate (P := fun cs => '\n' ∉ cs) List.not_mem_nil
      (fun before after => by simp [before, after]) (by simp)
      (List.forall_mem_map.mpr fun cell there => (free row member cell there).2)
  have lines : (Printer.plainTable header rows).toList =
      ((header :: rows).map fun row => ['\t'].intercalate (row.map String.toList)).flatMap
        fun line => line ++ ['\n'] := by
    rw [Printer.plainTable, String.toList_join, List.flatMap_map, List.flatMap_map]
    refine List.flatMap_congr fun row member => ?_
    have text : ("\t".intercalate row).toList = ['\t'].intercalate (row.map String.toList) :=
      String.toList_intercalate
    rw [ended_toList (text ▸ feed row member), text]
  rw [lines, parts_lines (by simpa using feed), List.map_append, List.map_map]
  refine congrArg (· ++ [[[]]]) (List.map_congr_left fun row member => ?_)
  have lengths : ∀ row ∈ header :: rows, row.length = header.length :=
    List.forall_mem_cons.mpr ⟨rfl, rect⟩
  have some : row.map String.toList ≠ [] := by
    intro none
    have length := lengths row member
    rw [List.map_eq_nil_iff.mp none] at length
    exact columns (List.length_eq_zero_iff.mp length.symm)
  rw [Function.comp, parts_eq_splitOn, List.splitOn_intercalate _ _ some]
  intro cell hc
  obtain ⟨text, there, rfl⟩ := List.mem_map.mp hc
  exact (free row member text there).1

end Plain
end SdkBlueprint.Console
