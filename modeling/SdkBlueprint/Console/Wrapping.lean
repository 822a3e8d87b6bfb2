import SdkBlueprint.Text.Blank
import SdkBlueprint.Text.CellWidth
import SdkBlueprint.Text.Parts

/-! Text in lines of a limited width. Lines break between words. A word that is
wider than a line is broken or cut. -/
namespace SdkBlueprint.Console
open SdkBlueprint.Text

/-- What becomes of a word that is too wide. -/
inductive Overflow where
  | fold
  | ellipsis
  deriving DecidableEq

def tabStop : Nat := 8

def expandTabs (column : Nat) : List Char → List Char
  | [] => []
  | c :: rest =>
    if c == '\t' then
      let n := tabStop - column % tabStop
      List.replicate n ' ' ++ expandTabs (column + n) rest
    else c :: expandTabs (column + charCells c) rest

/-- Words with the blanks after them. Blanks at the beginning belong to the first
word. -/
def words (cs : List Char) : List (List Char) :=
  match cs.splitBy fun a b => !isBlank a || isBlank b with
  | [] => []
  | first :: rest =>
    if first.all isBlank then
      match rest with
      | [] => []
      | second :: more => (first ++ second) :: more
    else first :: rest

def trimEnd (cs : List Char) : List Char := (cs.reverse.dropWhile isBlank).reverse

/-- Part of a line; it may have to begin the line. -/
structure Part where
  breaks : Bool
  chars : List Char

def consLine (c : Char) : List (List Char) → List (List Char)
  | [] => [[c]]
  | line :: more => (c :: line) :: more

def chop (width used : Nat) : List Char → List (List Char)
  | [] => [[]]
  | c :: rest =>
    let n := charCells c
    if width < used + n then [] :: consLine c (chop width n rest)
    else consLine c (chop width (used + n) rest)

/-- A broken word; only the first word of all does not begin a line. -/
def chopped (breaks : Bool) : List (List Char) → List Part
  | [] => []
  | line :: more => ⟨breaks, line⟩ :: more.map fun l => ⟨true, l⟩

/-- Decides for every word whether it begins a line. `used` counts the cells of the
current line. -/
def arrange (overflow : Overflow) (width : Nat) (first : Bool) (used : Nat) :
    List (List Char) → List Part
  | [] => []
  | word :: rest =>
    let length := cells (trimEnd word)
    if used + length ≤ width then
      ⟨false, word⟩ :: arrange overflow width false (used + cells word) rest
    else if width < length then
      match overflow with
      | .fold =>
        let lines := chop width 0 word
        chopped (!first) lines ++
          arrange overflow width false (cells (lines.getLast?.getD [])) rest
      | .ellipsis => ⟨!first, word⟩ :: arrange overflow width false (cells word) rest
    else if used != 0 && !first then
      ⟨true, word⟩ :: arrange overflow width false (cells word) rest
    else ⟨false, word⟩ :: arrange overflow width false used rest

def joinParts : List Part → List (List Char)
  | [] => [[]]
  | p :: rest =>
    match joinParts rest with
    | [] => [p.chars]
    | line :: more =>
      if p.breaks then [] :: (p.chars ++ line) :: more else (p.chars ++ line) :: more

/-- Blanks beyond the width at the end of a line are dropped. -/
def dropExcess (width : Nat) (cs : List Char) : List Char :=
  let blanks := cs.length - (trimEnd cs).length
  cs.take (cs.length - min blanks (cs.length - width))

def fitting (width : Nat) : List Char → List Char
  | [] => []
  | c :: rest =>
    let n := charCells c
    if width < n then [] else c :: fitting (width - n) rest

def setCells (width : Nat) (cs : List Char) : List Char := padCells width (fitting width cs)

def cut (overflow : Overflow) (width : Nat) (cs : List Char) : List Char :=
  if cells cs ≤ width then cs
  else
    match overflow with
    | .fold => setCells width cs
    | .ellipsis => setCells (width - 1) cs ++ ['…']

def wrapLine (overflow : Overflow) (width : Nat) (cs : List Char) : List (List Char) :=
  let cs := expandTabs 0 cs
  let lines := match words cs with
    | [] => [cs]
    | ws => joinParts (arrange overflow width true 0 ws)
  lines.map fun l => cut overflow width (dropExcess width l)

def wrap (overflow : Overflow) (width : Nat) (cs : List Char) : List (List Char) :=
  (parts '\n' cs).flatMap (wrapLine overflow width)

end SdkBlueprint.Console
