import SdkBlueprint.Text.Parts

/-! Names of files: the parts between slashes, counted from the root or from the
working folder. -/
namespace SdkBlueprint

structure FilePath where
  fromRoot : Bool
  parts : List String
  deriving DecidableEq

namespace FilePath

/-- Empty parts and single dots say nothing. -/
def ofText (text : String) : FilePath :=
  let parts := (Text.parts '/' text.toList).map String.ofList
  ⟨text.toList.head? == some '/', parts.filter fun p => p != "" && p != "."⟩

def text (p : FilePath) : String :=
  let joined := "/".intercalate p.parts
  if p.fromRoot then "/" ++ joined
  else if p.parts.isEmpty then "."
  else joined

def parent (p : FilePath) : FilePath := { p with parts := p.parts.dropLast }

def child (p : FilePath) (name : String) : FilePath := { p with parts := p.parts ++ [name] }

def name (p : FilePath) : String := p.parts.getLast?.getD ""

/-- The end of the name from its last dot on, unless the name begins or ends there. -/
def suffix (p : FilePath) : String :=
  let reversed := p.name.toList.reverse
  let ending := reversed.takeWhile (· != '.')
  let front := (reversed.dropWhile (· != '.')).drop 1
  if ending.isEmpty || front.isEmpty then ""
  else String.ofList ('.' :: ending.reverse)

end FilePath
end SdkBlueprint
