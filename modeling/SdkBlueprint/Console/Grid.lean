import SdkBlueprint.Console.Markup
import SdkBlueprint.Console.Wrapping

/-! Tables with drawn borders. Every column is as wide as its widest cell with a
blank on each side; if the table does not fit, the widest columns are narrowed. -/
namespace SdkBlueprint.Console
open SdkBlueprint.Text

/-- A column has a cell in every row, the header included. -/
structure Row where
  cells : List (List Char)

/-- Ends of lines by which the width of a cell is measured. -/
def endsMeasure (c : Char) : Bool :=
  let n := c.toNat
  n == 10 || (28 ≤ n && n ≤ 30) || n == 0x85 || n == 0x2028 || n == 0x2029

def measure (cs : List Char) : Nat :=
  ((cs.splitBy fun a b => !endsMeasure a && !endsMeasure b).map cells).foldl max 0

def cellAt (column : Nat) (row : Row) : List Char := (row.cells[column]?).getD []

def columnWidth (rows : List Row) (column : Nat) : Nat :=
  (rows.map fun r => measure (cellAt column r)).foldl max 0 + 2

/-- Half of an odd number goes to the even neighbour. -/
def roundedQuotient (n d : Nat) : Nat :=
  let q := n / d
  let r := n % d
  if 2 * r < d then q else if d < 2 * r then q + 1 else q + q % 2

/-- Takes an excess away from the chosen columns in equal parts, but no more than a
bound from each. -/
def reduceChosen (excess bound : Nat) : List (Nat × Bool) → List Nat
  | [] => []
  | (w, chosen) :: rest =>
    let left := ((w, chosen) :: rest).countP fun c => c.2
    if chosen then
      let taken := min bound (roundedQuotient excess left)
      (w - taken) :: reduceChosen (excess - taken) bound rest
    else w :: reduceChosen excess bound rest

def totalWidth (widths : List Nat) : Nat := widths.foldl (· + ·) 0

def narrow (fuel limit : Nat) (widths : List Nat) : List Nat :=
  match fuel with
  | 0 => widths
  | fuel + 1 =>
    let excess := totalWidth widths - limit
    let widest := widths.foldl max 0
    let next := (widths.filter (· != widest)).foldl max 0
    if excess == 0 || widest == next then widths
    else
      narrow fuel limit
        (reduceChosen excess (min excess (widest - next)) (widths.map fun w => (w, w == widest)))

def columnWidths (total : Nat) (columns : Nat) (rows : List Row) : List Nat :=
  let widths := (List.range columns).map (columnWidth rows)
  let limit := total - (columns + 1)
  if totalWidth widths ≤ limit then widths else narrow (totalWidth widths + 1) limit widths

def border (left fill joint right : Char) (widths : List Nat) : List Char :=
  left :: List.intercalate [joint] (widths.map fun w => List.replicate w fill) ++ [right]

/-- Lines of a cell, with a blank on each side. A cell without room shows nothing. -/
def cellLines (width : Nat) (cs : List Char) : List (List Char) :=
  let lines := if width ≤ 2 then [[]] else wrap .ellipsis (width - 2) cs
  lines.map fun l => ' ' :: padCells (width - 2) l ++ [' ']

/-- Brings a cell to a height, below or above its lines. -/
def stretch (bottom : Bool) (width height : Nat) (lines : List (List Char)) : List (List Char) :=
  let empty := List.replicate (height - lines.length) (List.replicate width ' ')
  if bottom then empty ++ lines else lines ++ empty

def rowLines (header : Bool) (edge : Char) (widths : List Nat) (row : Row) : List (List Char) :=
  let columns := widths.zipIdx.map fun w => (w.1, cellLines w.1 (cellAt w.2 row))
  let height := (columns.map fun c => c.2.length).foldl max 0
  let columns := columns.map fun c => stretch header c.1 height c.2
  (List.range height).map fun i =>
    edge :: List.intercalate [edge] (columns.map fun lines => (lines[i]?).getD []) ++ [edge]

/-- The lines of a table without its title. A table without columns is an empty
line. -/
def gridLines (total : Nat) (header : Row) (rows : List Row) : List (List Char) :=
  let columns := ((header :: rows).map fun r => r.cells.length).foldl max 0
  if columns == 0 then [[]]
  else
    let widths := columnWidths total columns (header :: rows)
    border '┏' '━' '┳' '┓' widths :: rowLines true '┃' widths header ++
      border '┡' '━' '╇' '┩' widths :: rows.flatMap (rowLines false '│' widths) ++
      [border '└' '─' '┴' '┘' widths]

/-- A title is a line of its own and is not wrapped. -/
def titleLines : Option (List Char) → List (List Char)
  | some title => (parts '\n' title).map (expandTabs 0)
  | none => []

def drawTable (total : Nat) (header : List String) (rows : List (List String))
    (title : Option String) : Attempt String := do
  let header ← header.mapM fun s => shownText s.toList
  let rows ← rows.mapM fun row => row.mapM fun s => shownText s.toList
  let title ← (title.filter (· != "")).mapM fun s => shownText s.toList
  let grid := gridLines total ⟨header⟩ (rows.map Row.mk)
  let lines := if header.isEmpty && rows.all List.isEmpty then grid else titleLines title ++ grid
  return String.ofList (lines.flatMap fun l => l ++ ['\n'])

end SdkBlueprint.Console
