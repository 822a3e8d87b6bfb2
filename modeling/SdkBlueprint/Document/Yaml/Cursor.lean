import SdkBlueprint.Failure

/-! A place in a YAML text. It knows its line and column, on which the structure
of the text depends. -/
namespace SdkBlueprint.Document.Yaml

inductive Refusal where
  /-- The text is no YAML, or its tags have no meaning. -/
  | malformed (reason : String)
  /-- A scalar cannot be what its tag says. -/
  | misuse (cause : Misuse)
  deriving DecidableEq

abbrev Scan (α : Type) := Except Refusal α

def malformed {α : Type} (reason : String) : Scan α := .error (.malformed reason)

def byteOrderMark : Char := Char.ofNat 0xFEFF

def isBreak (c : Char) : Bool :=
  c == '\n' || c == '\r' || c.toNat == 0x85 || c.toNat == 0x2028 || c.toNat == 0x2029

def isAllowed (c : Char) : Bool :=
  let n := c.toNat
  n == 9 || n == 10 || n == 13 || (0x20 ≤ n && n ≤ 0x7E) || n == 0x85 ||
    (0xA0 ≤ n && n ≤ 0xD7FF) || (0xE000 ≤ n && n ≤ 0xFFFD) || 0x10000 ≤ n

def endsLine : Option Char → Bool
  | none => true
  | some c => isBreak c

/-- The end of the line or a blank. -/
def endsField : Option Char → Bool
  | some ' ' => true
  | c => endsLine c

/-- The end of the line, a blank or a tab. -/
def endsWord : Option Char → Bool
  | some '\t' => true
  | c => endsField c

structure Cursor where
  rest : List Char
  index : Nat
  line : Nat
  column : Nat

namespace Cursor

def start (cs : List Char) : Cursor :=
  match cs with
  | c :: rest => if c == byteOrderMark then ⟨rest, 1, 0, 0⟩ else ⟨cs, 0, 0, 0⟩
  | [] => ⟨[], 0, 0, 0⟩

def peek (c : Cursor) : Option Char := c.rest.head?

def peekAt (c : Cursor) (n : Nat) : Option Char := c.rest[n]?

/-- One character on. A carriage return before a line feed is no break of its own,
and a byte order mark takes no column. -/
def advance (c : Cursor) : Cursor :=
  match c.rest with
  | [] => c
  | ch :: rest =>
    if isBreak ch && !(ch == '\r' && rest.head? == some '\n') then
      ⟨rest, c.index + 1, c.line + 1, 0⟩
    else if ch == byteOrderMark then ⟨rest, c.index + 1, c.line, c.column⟩
    else ⟨rest, c.index + 1, c.line, c.column + 1⟩

def skip : Nat → Cursor → Cursor
  | 0, c => c
  | n + 1, c => skip n c.advance

/-- The characters from here on that satisfy a condition, and the place after
them. -/
def span (p : Char → Bool) (c : Cursor) : List Char × Cursor :=
  let cs := c.rest.takeWhile p
  (cs, skip cs.length c)

def skipWhile (p : Char → Bool) (c : Cursor) : Cursor := (c.span p).2

def skipBlanks (c : Cursor) : Cursor := c.skipWhile (· == ' ')

def skipComment (c : Cursor) : Cursor :=
  if c.peek == some '#' then c.skipWhile fun ch => !isBreak ch else c

/-- A line break here, as it counts in a scalar, and the place after it. -/
def lineBreak? (c : Cursor) : Option (Char × Cursor) :=
  match c.rest with
  | '\r' :: '\n' :: _ => some ('\n', skip 2 c)
  | ch :: _ =>
    if ch.toNat == 0x2028 || ch.toNat == 0x2029 then some (ch, c.advance)
    else if isBreak ch then some ('\n', c.advance)
    else none
  | [] => none

def startsWith (c : Cursor) (word : String) : Bool := word.toList.isPrefixOf c.rest

def atMarker (c : Cursor) : Bool :=
  (c.startsWith "---" || c.startsWith "...") && endsWord (c.peekAt 3)

/-- Rest of a line that may hold blanks and a comment only. -/
def restOfLine (c : Cursor) : Scan Cursor :=
  let c := c.skipBlanks.skipComment
  if endsLine c.peek then
    match c.lineBreak? with
    | some (_, next) => .ok next
    | none => .ok c
  else malformed "expected a comment or a line break"

end Cursor
end SdkBlueprint.Document.Yaml
