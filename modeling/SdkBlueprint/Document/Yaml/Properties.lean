import SdkBlueprint.Document.Json.Reader
import SdkBlueprint.Document.Yaml.Token

/-! Names in a YAML text: anchors and aliases, tags, and the directives that give
tags their meaning. Each reader starts at the indicator. -/
namespace SdkBlueprint.Document.Yaml

def isNameChar (c : Char) : Bool := c.isAlphanum || c == '-' || c == '_'

def readName (c : Cursor) : Scan (String × Cursor) :=
  let (name, next) := c.advance.span isNameChar
  if name.isEmpty then malformed "expected a name"
  else if endsWord next.peek || next.peek.any fun ch => "?:,]\x7d%@`".toList.contains ch then
    .ok (String.ofList name, next)
  else malformed "expected the end of a name"

def escapeBytes : List Char → Scan (List UInt8 × List Char)
  | '%' :: a :: b :: rest =>
    match Json.hexNumber? [a, b] with
    | none => malformed "expected two hexadecimal digits"
    | some n => (escapeBytes rest).map fun r => (UInt8.ofNat n :: r.1, r.2)
  | '%' :: _ => malformed "expected two hexadecimal digits"
  | rest => .ok ([], rest)

def isUriChar (c : Char) : Bool :=
  c.isAlphanum || "-;/?:@&=+$,_.!~*'()[]%".toList.contains c

/-- Text of a tag with its escapes replaced; they have to be UTF-8. -/
def unescapeUri (fuel : Nat) (cs : List Char) : Scan (List Char) :=
  match fuel, cs with
  | 0, _ => .ok []
  | _, [] => .ok []
  | fuel + 1, '%' :: _ =>
    match escapeBytes cs with
    | .error e => .error e
    | .ok (bytes, rest) =>
      match String.fromUTF8? ⟨bytes.toArray⟩ with
      | none => malformed "escapes in a tag are no UTF-8"
      | some s => (unescapeUri fuel rest).map fun more => s.toList ++ more
  | fuel + 1, c :: rest => (unescapeUri fuel rest).map fun more => c :: more

def readUri (c : Cursor) : Scan (String × Cursor) :=
  let (raw, next) := c.span isUriChar
  if raw.isEmpty then malformed "expected a tag"
  else (unescapeUri raw.length raw).map fun cs => (String.ofList cs, next)

/-- A handle: an exclamation mark, or a name between two of them. -/
def readHandle (c : Cursor) : Scan (String × Cursor) :=
  if c.peek != some '!' then malformed "expected an exclamation mark"
  else
    let (name, next) := c.advance.span isNameChar
    if next.peek == some '!' then .ok (String.ofList ('!' :: name ++ ['!']), next.advance)
    else if name.isEmpty && next.peek == some ' ' then .ok ("!", next)
    else malformed "expected an exclamation mark"

def hasHandle (cs : List Char) : Bool :=
  (cs.takeWhile fun ch => !endsField (some ch)).contains '!'

def readWrittenTag (c : Cursor) : Scan (WrittenTag × Cursor) :=
  if c.peekAt 1 == some '<' then do
    let (rest, next) ← readUri (Cursor.skip 2 c)
    if next.peek == some '>' then return (⟨none, rest⟩, next.advance)
    else malformed "expected a closing bracket"
  else if endsWord (c.peekAt 1) then .ok (⟨none, "!"⟩, c.advance)
  else if hasHandle (c.rest.drop 1) then do
    let (handle, next) ← readHandle c
    let (rest, next) ← readUri next
    return (⟨some handle, rest⟩, next)
  else do
    let (rest, next) ← readUri c.advance
    return (⟨some "!", rest⟩, next)

def readTag (c : Cursor) : Scan (WrittenTag × Cursor) := do
  let (tag, next) ← readWrittenTag c
  if endsField next.peek then return (tag, next) else malformed "expected a blank after a tag"

def readVersionNumber (c : Cursor) : Scan (Nat × Cursor) :=
  let (digits, next) := c.span Char.isDigit
  if digits.isEmpty then malformed "expected a version number"
  else if maxIntegerDigits < digits.length then .error (.misuse .badValue)
  else .ok (Json.digitsValue digits, next)

def readVersion (c : Cursor) : Scan (Directive × Cursor) := do
  let (major, next) ← readVersionNumber c.skipBlanks
  if next.peek != some '.' then malformed "expected a version number"
  let (_, next) ← readVersionNumber next.advance
  if endsField next.peek then return (.version major, next)
  else malformed "expected a version number"

def readHandleDirective (c : Cursor) : Scan (Directive × Cursor) := do
  let (handle, next) ← readHandle c.skipBlanks
  if next.peek != some ' ' then malformed "expected a blank after a handle"
  let (target, next) ← readUri next.skipBlanks
  if endsField next.peek then return (.handle handle target, next)
  else malformed "expected a blank after a tag"

/-- A directive with the rest of its line. One of an unknown name says nothing. -/
def readDirective (c : Cursor) : Scan (Directive × Cursor) := do
  let (name, next) := c.advance.span isNameChar
  if name.isEmpty || !endsField next.peek then malformed "expected the name of a directive"
  let (directive, next) ←
    if name == "YAML".toList then readVersion next
    else if name == "TAG".toList then readHandleDirective next
    else .ok (.other, next.skipWhile fun ch => !isBreak ch)
  return (directive, ← next.restOfLine)

end SdkBlueprint.Document.Yaml
