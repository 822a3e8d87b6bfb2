import SdkBlueprint.Document.Display
import SdkBlueprint.Schema.Fields

/-! References between parts of a document. The last segment of a pointer names
the target; in it `~1` stands for a slash and `~0` for a tilde. -/
namespace SdkBlueprint.Schema
open SdkBlueprint.Document

def lastSegment (cs : List Char) : List Char :=
  (cs.reverse.takeWhile (· != '/')).reverse

/-- Replaces each `~` that the digit follows, together with the digit. -/
def unescapeTilde (digit : Char) (replacement : Char) : List Char → List Char
  | '~' :: d :: rest =>
    if d = digit then replacement :: unescapeTilde digit replacement rest
    else '~' :: unescapeTilde digit replacement (d :: rest)
  | c :: rest => c :: unescapeTilde digit replacement rest
  | [] => []

def unescapePointer (cs : List Char) : List Char :=
  unescapeTilde '0' '~' (unescapeTilde '1' '/' cs)

/-- The pointer form of a key: a tilde becomes `~0`, then a slash `~1`. -/
def escapePointer : List Char → List Char
  | [] => []
  | c :: rest =>
    (if c = '~' then ['~', '0'] else if c = '/' then ['~', '1'] else [c]) ++ escapePointer rest

def pointerKeyChars (cs : List Char) : List Char := unescapePointer (lastSegment cs)

/-- Key of the part that a reference points at. -/
def pointerKey (ref : String) : String := String.ofList (pointerKeyChars ref.toList)

def ref? (node : Value) : Option Value := node.field? "$ref"

def isReference (node : Value) : Bool := (ref? node).isSome

/-- Key of the target, for a reference that is a text. -/
def targetKey : Value → Attempt String
  | .scalar (.text s) => .ok (pointerKey s)
  | .scalar (.bytes _) => misuse .wrongKind
  | _ => misuse .noFields

end SdkBlueprint.Schema
