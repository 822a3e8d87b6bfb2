import SdkBlueprint.Document.Yaml.Properties

/-! Text of scalars: between quotes, in a block, or plain. A single line break
inside is a blank, and of several the first one is dropped. -/
namespace SdkBlueprint.Document.Yaml

/-- How a line break and the empty lines after it count in a folded text. -/
def foldBreak (first : Char) (more : List Char) : List Char :=
  if first != '\n' then first :: more
  else if more.isEmpty then [' ']
  else more

def simpleEscape? : Char → Option Nat
  | '0' => some 0
  | 'a' => some 7
  | 'b' => some 8
  | 't' => some 9
  | '\t' => some 9
  | 'n' => some 10
  | 'v' => some 11
  | 'f' => some 12
  | 'r' => some 13
  | 'e' => some 27
  | ' ' => some 32
  | '"' => some 34
  | '\\' => some 92
  | '/' => some 47
  | 'N' => some 0x85
  | '_' => some 0xA0
  | 'L' => some 0x2028
  | 'P' => some 0x2029
  | _ => none

def escapeLength? : Char → Option Nat
  | 'x' => some 2
  | 'u' => some 4
  | 'U' => some 8
  | _ => none

/-- The character of a number; half a surrogate pair has none and is replaced. -/
def numberedChar (n : Nat) : Scan Char :=
  if 0x10FFFF < n then .error (.misuse .badValue)
  else if 0xD800 ≤ n && n < 0xE000 then .ok (Char.ofNat 0xFFFD)
  else .ok (Char.ofNat n)

/-- Empty lines inside quotes. A document marker must not stand at a line's
beginning. -/
def quotedBreaks (fuel : Nat) (c : Cursor) : Scan (List Char × Cursor) :=
  match fuel with
  | 0 => .ok ([], c)
  | fuel + 1 =>
    if c.atMarker then malformed "unexpected document marker"
    else
      let c := c.skipWhile fun ch => ch == ' ' || ch == '\t'
      match c.lineBreak? with
      | some (ch, next) => (quotedBreaks fuel next).map fun r => (ch :: r.1, r.2)
      | none => .ok ([], c)

def quotedBlanks (c : Cursor) : Scan (List Char × Cursor) :=
  let (blanks, c) := c.span fun ch => ch == ' ' || ch == '\t'
  match c.lineBreak? with
  | some (ch, next) =>
    (quotedBreaks next.rest.length.succ next).map fun r => (foldBreak ch r.1, r.2)
  | none => if c.rest.isEmpty then malformed "unexpected end of the text" else .ok (blanks, c)

def readEscape (c : Cursor) : Scan (List Char × Cursor) :=
  match c.rest with
  | [] => malformed "unexpected end of the text"
  | ch :: rest =>
    match simpleEscape? ch, escapeLength? ch with
    | some n, _ => .ok ([Char.ofNat n], c.advance)
    | none, some length =>
      let digits := rest.take length
      match (if digits.length < length then none else Json.hexNumber? digits) with
      | none => malformed "expected hexadecimal digits"
      | some n => (numberedChar n).map fun d => ([d], Cursor.skip (length + 1) c)
    | none, none =>
      match c.lineBreak? with
      | some (_, next) => quotedBreaks next.rest.length.succ next
      | none => malformed "unknown escape"

def quotedText (fuel : Nat) (quote : Char) (c : Cursor) : Scan (List Char × Cursor) :=
  match fuel with
  | 0 => malformed "unexpected end of the text"
  | fuel + 1 =>
    match c.rest with
    | [] => malformed "unexpected end of the text"
    | ch :: rest =>
      if ch == quote then
        if quote == '\'' && rest.head? == some '\'' then
          (quotedText fuel quote (Cursor.skip 2 c)).map fun r => ('\'' :: r.1, r.2)
        else .ok ([], c.advance)
      else if ch == '\\' && quote == '"' then do
        let (cs, next) ← readEscape c.advance
        let (more, next) ← quotedText fuel quote next
        return (cs ++ more, next)
      else if ch == ' ' || ch == '\t' || isBreak ch then do
        let (cs, next) ← quotedBlanks c
        let (more, next) ← quotedText fuel quote next
        return (cs ++ more, next)
      else (quotedText fuel quote c.advance).map fun r => (ch :: r.1, r.2)

def readQuoted (quote : Char) (c : Cursor) : Scan (String × Cursor) :=
  (quotedText c.rest.length quote c.advance).map fun r => (String.ofList r.1, r.2)

inductive Chomping where
  | strip
  | clip
  | keep
  deriving DecidableEq

def chomping? : Option Char → Option Chomping
  | some '+' => some .keep
  | some '-' => some .strip
  | _ => none

/-- The indentation indicator, which is not zero. -/
def indentDigit? (c : Option Char) : Scan (Option Nat) :=
  match c with
  | some ch =>
    if ch == '0' then malformed "expected an indentation from one to nine"
    else if ch.isDigit then .ok (some (ch.toNat - '0'.toNat))
    else .ok none
  | none => .ok none

def blockHeader (c : Cursor) : Scan (Chomping × Option Nat × Cursor) := do
  match chomping? c.peek with
  | some chomp =>
    let digit ← indentDigit? c.advance.peek
    return (chomp, digit, if digit.isSome then c.advance.advance else c.advance)
  | none =>
    match ← indentDigit? c.peek with
    | none => return (.clip, none, c)
    | some n =>
      match chomping? c.advance.peek with
      | some chomp => return (chomp, some n, c.advance.advance)
      | none => return (.clip, some n, c.advance)

def skipIndent (fuel column : Nat) (c : Cursor) : Cursor :=
  match fuel with
  | 0 => c
  | fuel + 1 =>
    if c.column < column && c.peek == some ' ' then skipIndent fuel column c.advance else c

/-- Empty lines of a block, each indented at most up to a column. -/
def blockBreaks (fuel column : Nat) (c : Cursor) : List Char × Cursor :=
  let c := skipIndent column column c
  match fuel with
  | 0 => ([], c)
  | fuel + 1 =>
    match c.lineBreak? with
    | some (ch, next) =>
      let (more, next) := blockBreaks fuel column next
      (ch :: more, next)
    | none => ([], c)

/-- Blank lines before the first line of a block, and the deepest column that
their blanks reach. -/
def leadingBreaks (fuel deepest : Nat) (c : Cursor) : List Char × Nat × Cursor :=
  match fuel with
  | 0 => ([], deepest, c)
  | fuel + 1 =>
    match c.lineBreak? with
    | some (ch, next) =>
      let (more, deepest, next) := leadingBreaks fuel deepest next
      (ch :: more, deepest, next)
    | none =>
      if c.peek == some ' ' then leadingBreaks fuel (max deepest c.advance.column) c.advance
      else ([], deepest, c)

def startsBlank (c : Cursor) : Bool := c.peek == some ' ' || c.peek == some '\t'

/-- What stands between two lines of a block. Folding spares lines that begin with
a blank. -/
def joinLines (folded leadingText nextBlank : Bool) (lineBreak : List Char)
    (breaks : List Char) : List Char :=
  if folded && lineBreak == ['\n'] && leadingText && !nextBlank then
    if breaks.isEmpty then [' '] else []
  else lineBreak

/-- Lines of a block from its column on. The result is the text, the last line
break, the empty lines at the end and the place after them. -/
def blockLines (fuel : Nat) (folded : Bool) (column : Nat) (breaks : List Char) (c : Cursor) :
    List Char × List Char × List Char × Cursor :=
  match fuel with
  | 0 => ([], [], breaks, c)
  | fuel + 1 =>
    if c.column != column || c.rest.isEmpty then ([], [], breaks, c)
    else
      let leadingText := !startsBlank c
      let (line, next) := c.span fun ch => !isBreak ch
      let (lineBreak, next) := match next.lineBreak? with
        | some (ch, after) => ([ch], after)
        | none => ([], next)
      let (after, next) := blockBreaks next.rest.length column next
      if next.column == column && !next.rest.isEmpty then
        let joint := joinLines folded leadingText (startsBlank next) lineBreak after
        let (more, last, final, next) := blockLines fuel folded column after next
        (breaks ++ line ++ joint ++ more, last, final, next)
      else (breaks ++ line, lineBreak, after, next)

/-- A block scalar from its indicator on, inside a collection of the given
indentation. -/
def readBlock (folded : Bool) (indent : Int) (c : Cursor) : Scan (String × Cursor) := do
  let (chomp, digit, next) ← blockHeader c.advance
  if !endsField next.peek then malformed "expected the end of a block header"
  let next ← next.restOfLine
  let least := max 1 (indent + 1).toNat
  let (breaks, column, next) := match digit with
    | some n =>
      let column := least + n - 1
      let (breaks, next) := blockBreaks next.rest.length column next
      (breaks, column, next)
    | none =>
      let (breaks, deepest, next) := leadingBreaks next.rest.length 0 next
      (breaks, max least deepest, next)
  let (text, last, final, next) := blockLines next.rest.length.succ folded column breaks next
  let ending := match chomp with
    | .strip => []
    | .clip => last
    | .keep => last ++ final
  return (String.ofList (text ++ ending), next)

/-- The character ends a plain scalar: a blank, a colon before one, or inside a
flow collection one of its marks. -/
def endsPlain (inFlow : Bool) (c : Char) (rest : List Char) : Bool :=
  endsWord (some c) ||
    (c == ':' && (endsWord rest.head? ||
      (inFlow && rest.head?.any fun d => ",[]\x7b\x7d".toList.contains d))) ||
    (inFlow && ",?[]\x7b\x7d".toList.contains c)

def plainWord (inFlow : Bool) : List Char → List Char
  | [] => []
  | c :: rest => if endsPlain inFlow c rest then [] else c :: plainWord inFlow rest

/-- Blanks and breaks after a line break in a plain scalar, unless a document
marker comes first. -/
def plainBreaks (fuel : Nat) (c : Cursor) : Option (List Char) × Cursor :=
  match fuel with
  | 0 => (some [], c)
  | fuel + 1 =>
    if c.peek == some ' ' then plainBreaks fuel c.advance
    else
      match c.lineBreak? with
      | none => (some [], c)
      | some (ch, next) =>
        if next.atMarker then (none, next)
        else
          let (more, next) := plainBreaks fuel next
          (more.map (ch :: ·), next)

structure Gap where
  text : List Char
  /-- A line break is among it, so that a key may follow. -/
  broken : Bool
  after : Cursor

def plainGap (c : Cursor) : Gap :=
  let (blanks, c) := c.span (· == ' ')
  match c.lineBreak? with
  | none => ⟨blanks, false, c⟩
  | some (ch, next) =>
    if next.atMarker then ⟨[], true, next⟩
    else
      match plainBreaks next.rest.length.succ next with
      | (none, next) => ⟨[], true, next⟩
      | (some breaks, next) => ⟨foldBreak ch breaks, true, next⟩

/-- The words of a plain scalar. A less indented line ends it outside flow
collections. The flag tells whether a line break came last. -/
def plainWords (fuel : Nat) (inFlow : Bool) (indent : Int) (c : Cursor) :
    List Char × Bool × Cursor :=
  match fuel with
  | 0 => ([], false, c)
  | fuel + 1 =>
    let word := plainWord inFlow c.rest
    let gap := plainGap (Cursor.skip word.length c)
    let stops := gap.text.isEmpty || gap.after.peek == some '#' ||
      (!inFlow && decide (Int.ofNat gap.after.column < indent)) ||
      (plainWord inFlow gap.after.rest).isEmpty
    if stops then (word, gap.broken, gap.after)
    else
      let (more, broken, next) := plainWords fuel inFlow indent gap.after
      (word ++ gap.text ++ more, broken, next)

/-- A plain scalar inside a collection of the given indentation. The flag tells
whether a key may follow, since a line break came last. -/
def readPlain (inFlow : Bool) (indent : Int) (c : Cursor) : String × Bool × Cursor :=
  let (cs, broken, next) := plainWords c.rest.length inFlow (indent + 1) c
  (String.ofList cs, broken, next)

end SdkBlueprint.Document.Yaml
