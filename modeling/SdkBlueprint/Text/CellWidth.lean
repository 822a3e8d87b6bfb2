import SdkBlueprint.Text.WidthTable
import SdkBlueprint.Text.Letters

/-! Width of text in the cells of a terminal. -/
namespace SdkBlueprint.Text

def charCells (c : Char) : Nat :=
  let n := c.toNat
  if 32 ≤ n && n ≤ 126 then 1
  else if inRanges zeroWidthRanges n then 0
  else if inRanges doubleWidthRanges n then 2
  else 1

def cells : List Char → Nat
  | [] => 0
  | c :: rest => charCells c + cells rest

/-- Pads with blanks on the right up to `width` cells. -/
def padCells (width : Nat) (cs : List Char) : List Char :=
  cs ++ List.replicate (width - cells cs) ' '

end SdkBlueprint.Text
