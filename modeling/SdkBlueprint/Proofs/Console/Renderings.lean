import SdkBlueprint.Proofs.Console.Messages
import SdkBlueprint.Proofs.Console.Tables

/-! The two renderings of a table. They agree on tables without markup, and with them on the types
that have no dictionaries in them; a dictionary is cut down to the word for it when it is drawn. -/
namespace SdkBlueprint

namespace TypeExpr
open Console

mutual

/-- The type has no dictionaries in it, and its names and literals are no markup. -/
def Markless : TypeExpr → Prop
  | .named t => t.isDictionary = false ∧
    Bare (if t.isLiteral then Text.quoteChars t.name.toList else t.name.toList)
  | .composite members _ _ isDictionary => isDictionary = false ∧ AllMarkless members

def AllMarkless : List TypeExpr → Prop
  | [] => True
  | t :: rest => Markless t ∧ AllMarkless rest

end

theorem bare_markChars {isArray : Bool} {body : List Char} (h : Bare body) :
    Bare (markChars isArray false body) := by
  have brackets : Bare ['[', ']'] :=
    .bracket rfl (.plain (by decide) (by decide) (by decide) rfl .nil)
  cases isArray with
  | false => exact h
  | true => exact h.append brackets

theorem bare_joiner (composition : Composition) : Bare (joiner composition) := by
  cases composition <;> exact .of_plain rfl

mutual

theorem describeChars_bare : ∀ t : TypeExpr, Markless t → Bare t.describeChars
  | .named t, h => by
      obtain ⟨single, leaf⟩ := h
      rw [describeChars, single]
      exact bare_markChars leaf
  | .composite members composition isArray isDictionary, h => by
      obtain ⟨single, all⟩ := h
      have body := Text.of_intercalate .nil Bare.append (bare_joiner composition)
        (describeAll_bare members all)
      have opening : Bare ['('] := .of_plain rfl
      have closing : Bare [')'] := .of_plain rfl
      rw [describeChars, single]
      refine bare_markChars ?_
      split
      · exact (opening.append body).append closing
      · exact body

theorem describeAll_bare : ∀ ts : List TypeExpr, AllMarkless ts → ∀ part ∈ describeAll ts, Bare part
  | [], _ => by simp [describeAll]
  | t :: rest, h => by
      rw [describeAll]
      exact List.forall_mem_cons.mpr ⟨describeChars_bare t h.1, describeAll_bare rest h.2⟩

end
end TypeExpr

namespace Console
open Text

variable {header : List String} {rows : List (List String)} {title : Option String}

/-- Whatever markup is in the cells, what it shows is drawn in full, each cell in its place. -/
theorem drawTable_shown {total : Nat} {headed : List (List Char)} {shown : List (List (List Char))}
    {caption : Option (List Char)}
    (header_shown : header.mapM (fun s => shownText s.toList) = .ok headed)
    (rows_shown : rows.mapM (fun row => row.mapM fun s => shownText s.toList) = .ok shown)
    (titled : (title.filter (· != "")).mapM (fun s => shownText s.toList) = .ok caption)
    (columns : headed ≠ []) (rect : ∀ row ∈ shown, row.length = headed.length)
    (line : ∀ row ∈ headed :: shown, ∀ cs ∈ row, OneLine cs)
    (room : totalWidth (naturalWidths headed shown) + headed.length + 1 ≤ total) :
    drawTable total header rows title = .ok (lineText (titleLines caption ++
      frame (naturalWidths headed shown) headed shown)) := by
  have some : (headed.isEmpty && shown.all List.isEmpty) = false := by simp [columns]
  simp only [drawTable, header_shown, rows_shown, titled, bind, Except.bind, some,
    gridLines_fitting columns rect line room]
  rfl

/-- The characters of every cell. -/
def charsOf (rows : List (List String)) : List (List (List Char)) :=
  rows.map (List.map String.toList)

/-- The widths that the columns of a table ask for. -/
def askedWidths (header : List String) (rows : List (List String)) : List Nat :=
  naturalWidths (header.map String.toList) (charsOf rows)

/-- Every row has a cell for each column, and no cell is more than a line. -/
structure Tabular (header : List String) (rows : List (List String)) : Prop where
  columns : header ≠ []
  rect : ∀ row ∈ rows, row.length = header.length
  line : ∀ row ∈ header :: rows, ∀ cell ∈ row, OneLine cell.toList

namespace Tabular

theorem chars_line (h : Tabular header rows) :
    ∀ row ∈ header.map String.toList :: charsOf rows, ∀ cs ∈ row, OneLine cs := by
  have each : ∀ row ∈ header :: rows, ∀ cs ∈ row.map String.toList, OneLine cs := by
    intro row member cs hc
    obtain ⟨cell, there, rfl⟩ := List.mem_map.mp hc
    exact h.line row member cell there
  obtain ⟨first, later⟩ := List.forall_mem_cons.mp each
  exact List.forall_mem_cons.mpr ⟨first, List.forall_mem_map.mpr later⟩

theorem drawTable {total : Nat} {caption : Option (List Char)} (h : Tabular header rows)
    (unmarked : ∀ row ∈ header :: rows, ∀ cell ∈ row, Unmarked cell.toList)
    (titled : (title.filter (· != "")).mapM (fun s => shownText s.toList) = .ok caption)
    (room : totalWidth (askedWidths header rows) + header.length + 1 ≤ total) :
    drawTable total header rows title = .ok (lineText (titleLines caption ++
      frame (askedWidths header rows) (header.map String.toList) (charsOf rows))) := by
  have shown : ∀ row ∈ header :: rows,
      row.mapM (fun s => shownText s.toList) = .ok (row.map String.toList) :=
    fun row member => mapM_eq_map fun cell hc => (unmarked row member cell hc).shownText
  have all : rows.mapM (fun row => row.mapM fun s => shownText s.toList) = .ok (charsOf rows) :=
    mapM_eq_map fun row member => shown row (List.mem_cons_of_mem header member)
  have some : header.map String.toList ≠ [] := by simpa using h.columns
  have rect : ∀ row ∈ charsOf rows, row.length = (header.map String.toList).length := by
    simpa [charsOf] using h.rect
  exact drawTable_shown (shown header List.mem_cons_self) all titled some rect h.chars_line
    (List.length_map String.toList ▸ room)

theorem plainTable (h : Tabular header rows) :
    (parts '\n' (Printer.plainTable header rows).toList).map (parts '\t') =
      charsOf (header :: rows) ++ [[[]]] := by
  refine plainTable_read h.columns h.rect fun row member cell hc => ?_
  have line := (h.line row member cell hc).line
  refine ⟨fun tab => (line _ tab).1 rfl, fun feed => ?_⟩
  simpa [endsMeasure] using (line _ feed).2

end Tabular

/-- The tabbed form is read back as the table. The drawn form has the same cells in the same rows
and columns if they are no markup, and what describes a type is none if there are no dictionaries in
the type. -/
theorem renderings_agree {p : Printer} {caption : Option (List Char)} (table : Tabular header rows)
    (titled : (title.filter (· != "")).mapM (fun s => shownText s.toList) = .ok caption)
    (room : totalWidth (askedWidths header rows) + header.length + 1 ≤ p.width) :
    (∃ tabbed, Prints ({ p with styled := false }.table header rows title) (.ok ()) tabbed [] ∧
      (parts '\n' tabbed.toList).map (parts '\t') = charsOf (header :: rows) ++ [[[]]]) ∧
    ((∀ row ∈ header :: rows, ∀ cell ∈ row, Unmarked cell.toList) →
      Prints ({ p with styled := true }.table header rows title) (.ok ())
        (lineText (titleLines caption ++
          frame (askedWidths header rows) (header.map String.toList) (charsOf rows))) []) ∧
    ∀ t : TypeExpr, t.Markless → Unmarked t.describe.toList := by
  refine ⟨⟨_, toStdout_prints _, table.plainTable⟩, fun unmarked => ?_, fun t markless => ?_⟩
  · unfold Printer.table
    rw [table.drawTable unmarked titled room]
    exact toStdout_prints _
  · rw [TypeExpr.describe, String.toList_ofList]
    exact (TypeExpr.describeChars_bare t markless).unmarked

/-- A row of a table of operations. -/
def listedPets : List (List String) := [["GET", "string[]"]]

theorem listedPets_tabular : Tabular ["HTTP", "Returns"] listedPets := by
  have http : OneLine "HTTP".toList := .of_visible rfl
  have returns : OneLine "Returns".toList := .of_visible rfl
  have get : OneLine "GET".toList := .of_visible rfl
  have strings : OneLine "string[]".toList := .of_visible rfl
  refine ⟨by decide, by decide, ?_⟩
  simp only [listedPets, List.forall_mem_cons]
  exact ⟨⟨http, returns, by simp⟩, ⟨get, strings, by simp⟩, by simp⟩

theorem listedPets_unmarked :
    ∀ row ∈ ["HTTP", "Returns"] :: listedPets, ∀ cell ∈ row, Unmarked cell.toList := by
  have http : Bare "HTTP".toList := .of_plain rfl
  have returns : Bare "Returns".toList := .of_plain rfl
  have get : Bare "GET".toList := .of_plain rfl
  have strings : Bare (TypeExpr.markChars true false "string".toList) :=
    TypeExpr.bare_markChars (.of_plain rfl)
  simp only [listedPets, List.forall_mem_cons]
  exact ⟨⟨http.unmarked, returns.unmarked, by simp⟩, ⟨get.unmarked, strings.unmarked, by simp⟩,
    by simp⟩

theorem renderings_listedPets :
    Tabular ["HTTP", "Returns"] listedPets ∧
      Prints ((Printer.mk true false 80).table ["HTTP", "Returns"] listedPets none) (.ok ())
        ("┏━━━━━━┳━━━━━━━━━━┓\n" ++
          "┃ HTTP ┃ Returns  ┃\n" ++
          "┡━━━━━━╇━━━━━━━━━━┩\n" ++
          "│ GET  │ string[] │\n" ++
          "└──────┴──────────┘\n") [] := by
  refine ⟨listedPets_tabular, ?_⟩
  have room : totalWidth (askedWidths ["HTTP", "Returns"] listedPets) + 2 + 1 ≤ 80 := by decide
  have titled : ((none : Option String).filter (· != "")).mapM (fun s => shownText s.toList) =
      .ok none := rfl
  have drawn :=
    (renderings_agree (p := Printer.mk true false 80) listedPets_tabular titled room).2.1
      listedPets_unmarked
  have picture : lineText (titleLines none ++ frame (askedWidths ["HTTP", "Returns"] listedPets)
      (["HTTP", "Returns"].map String.toList) (charsOf listedPets)) =
        "┏━━━━━━┳━━━━━━━━━━┓\n" ++
          "┃ HTTP ┃ Returns  ┃\n" ++
          "┡━━━━━━╇━━━━━━━━━━┩\n" ++
          "│ GET  │ string[] │\n" ++
          "└──────┴──────────┘\n" := by decide +kernel
  rw [picture] at drawn
  exact drawn

/-- The dictionary of texts. -/
def dictionaryOfTexts : TypeExpr := .named ⟨"string", false, false, true, false⟩

/-- Between tabs the dictionary is written in full, but only the word for it is drawn. -/
theorem dictionary_cut_down :
    Printer.plainTable ["Returns"] [[dictionaryOfTexts.describe]] =
      "Returns\ndict[str, string]\n" ∧
    drawTable 80 ["Returns"] [[dictionaryOfTexts.describe]] none = .ok
      ("┏━━━━━━━━━┓\n" ++
        "┃ Returns ┃\n" ++
        "┡━━━━━━━━━┩\n" ++
        "│ dict    │\n" ++
        "└─────────┘\n") := by
  refine ⟨by decide +kernel, ?_⟩
  have header : shownText "Returns".toList = .ok "Returns".toList :=
    (Bare.of_plain rfl).unmarked.shownText
  have cell : shownText dictionaryOfTexts.describe.toList = .ok "dict".toList := by
    rw [TypeExpr.describe, String.toList_ofList]
    have free : ∀ c ∈ "string".toList, c ≠ '[' ∧ c ≠ ']' := by simp
    exact shownText_dictionary free
  have grid : lineText (gridLines 80 ⟨["Returns".toList]⟩ [⟨["dict".toList]⟩]) =
      "┏━━━━━━━━━┓\n" ++
        "┃ Returns ┃\n" ++
        "┡━━━━━━━━━┩\n" ++
        "│ dict    │\n" ++
        "└─────────┘\n" := by decide +kernel
  rw [← grid]
  simp only [drawTable, List.mapM_cons, List.mapM_nil, header, cell]
  rfl

end Console
end SdkBlueprint
