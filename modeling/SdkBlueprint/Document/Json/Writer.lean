import SdkBlueprint.Document.Value
import SdkBlueprint.Failure
import SdkBlueprint.Text.Quoted

/-! JSON text of values. It is written on one line with a blank after every comma
and colon, or indented with one item on a line. Dates, bytes and sets have no JSON
form, and integers of too many digits are not written. -/
namespace SdkBlueprint.Document.Json
open SdkBlueprint.Text

structure Layout where
  /-- Characters beyond ASCII are written as escapes. -/
  asciiOnly : Bool
  /-- Blanks per level; one line when absent. -/
  indent : Option Nat

def literalLayout : Layout := ⟨true, none⟩

def unitEscape (n : Nat) : List Char := '\\' :: 'u' :: hexDigits 4 n

/-- A character beyond the basic plane is written as a surrogate pair. -/
def escapeUnits (n : Nat) : List Char :=
  if n < 0x10000 then unitEscape n
  else
    let m := n - 0x10000
    unitEscape (0xD800 + m / 0x400) ++ unitEscape (0xDC00 + m % 0x400)

def escapeChar (asciiOnly : Bool) (c : Char) : List Char :=
  if c == '"' || c == '\\' then ['\\', c]
  else if c == '\n' then ['\\', 'n']
  else if c == '\r' then ['\\', 'r']
  else if c == '\t' then ['\\', 't']
  else if c.toNat == 8 then ['\\', 'b']
  else if c.toNat == 12 then ['\\', 'f']
  else if c.toNat < 32 then unitEscape c.toNat
  else if asciiOnly && 127 ≤ c.toNat then escapeUnits c.toNat
  else [c]

def quoteChars (asciiOnly : Bool) (cs : List Char) : List Char :=
  '"' :: cs.flatMap (escapeChar asciiOnly) ++ ['"']

def floatChars (x : Number.Binary64) : List Char :=
  if x.isNaN then "NaN".toList
  else if !x.isFinite then (if x.negative then "-Infinity" else "Infinity").toList
  else x.chars

def scalarChars (asciiOnly : Bool) : Scalar → List Char
  | .null => "null".toList
  | .bool b => (if b then "true" else "false").toList
  | .int n => (toString n).toList
  | .float x => floatChars x
  | .text s => quoteChars asciiOnly s.toList
  | _ => []

/-- Keys are texts in JSON; other scalars become texts in their JSON form. -/
def keyChars (asciiOnly : Bool) : Scalar → List Char
  | .text s => quoteChars asciiOnly s.toList
  | s => '"' :: scalarChars asciiOnly s ++ ['"']

/-- Why a scalar cannot be written, if it cannot. -/
def scalarFault? (s : Scalar) : Option Misuse :=
  match s with
  | .bytes _ => some .wrongKind
  | .date _ => some .wrongKind
  | .moment _ => some .wrongKind
  | s => if s.isLong then some .badValue else none

mutual

/-- Why a value cannot be written. Of several faults the first one is told. -/
def fault? : Value → Option Misuse
  | .scalar s => scalarFault? s
  | .list items => itemFault? items
  | .map entries => entryFault? entries
  | .set _ => some .wrongKind

def itemFault? : List Value → Option Misuse
  | [] => none
  | v :: rest => (fault? v).or (itemFault? rest)

def entryFault? : List (Scalar × Value) → Option Misuse
  | [] => none
  | (k, v) :: rest => ((scalarFault? k).or (fault? v)).or (entryFault? rest)

end

def breakAt (layout : Layout) (level : Nat) : List Char :=
  match layout.indent with
  | some n => '\n' :: List.replicate (n * level) ' '
  | none => []

def separator (layout : Layout) (level : Nat) : List Char :=
  match layout.indent with
  | some _ => ',' :: breakAt layout level
  | none => [',', ' ']

def bracket (layout : Layout) (level : Nat) (openChar closeChar : Char)
    (items : List (List Char)) : List Char :=
  if items.isEmpty then [openChar, closeChar]
  else
    openChar :: breakAt layout (level + 1) ++
      List.intercalate (separator layout (level + 1)) items ++
      breakAt layout level ++ [closeChar]

mutual

def chars (layout : Layout) (level : Nat) : Value → List Char
  | .scalar s => scalarChars layout.asciiOnly s
  | .list items => bracket layout level '[' ']' (itemChars layout (level + 1) items)
  | .map entries => bracket layout level '\x7b' '\x7d' (entryChars layout (level + 1) entries)
  | .set _ => []

def itemChars (layout : Layout) (level : Nat) : List Value → List (List Char)
  | [] => []
  | v :: rest => chars layout level v :: itemChars layout level rest

def entryChars (layout : Layout) (level : Nat) : List (Scalar × Value) → List (List Char)
  | [] => []
  | (k, v) :: rest =>
    (keyChars layout.asciiOnly k ++ ':' :: ' ' :: chars layout level v) ::
      entryChars layout level rest

end

def write (layout : Layout) (v : Value) : String := String.ofList (chars layout 0 v)

/-- JSON text of a value, unless some part of it cannot be written. -/
def written (layout : Layout) (v : Value) : Attempt String :=
  match fault? v with
  | none => .ok (write layout v)
  | some cause => misuse cause

end SdkBlueprint.Document.Json
