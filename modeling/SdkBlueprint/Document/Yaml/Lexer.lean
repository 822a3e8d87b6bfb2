import SdkBlueprint.Document.Yaml.ScalarText

/-! From text to tokens. A scalar or collection may turn out to be a key once the
colon after it is seen; its place is kept until then, but only on one line and
within a limited distance. -/
namespace SdkBlueprint.Document.Yaml

/-- A place that may turn out to begin a key. -/
structure PossibleKey where
  /-- Number of tokens before it. -/
  before : Nat
  /-- It stands where a block mapping expects a key. -/
  required : Bool
  index : Nat
  line : Nat
  column : Nat

def keyReach : Nat := 1024

structure Lexer where
  cursor : Cursor
  /-- The newest token comes first. -/
  tokens : List Token
  count : Nat
  /-- Column of the innermost block collection, below zero outside all. -/
  indent : Int
  outerIndents : List Int
  keyAllowed : Bool
  /-- Possible key of every open flow collection and, last, of the block. -/
  keys : List (Option PossibleKey)

namespace Lexer

def start (text : String) : Lexer := ⟨Cursor.start text.toList, [], 0, -1, [], true, [none]⟩

def inFlow (l : Lexer) : Bool := 1 < l.keys.length

def push (t : Token) (l : Lexer) : Lexer :=
  { l with tokens := t :: l.tokens, count := l.count + 1 }

def moveTo (c : Cursor) (l : Lexer) : Lexer := { l with cursor := c }

def allowKey (allowed : Bool) (l : Lexer) : Lexer := { l with keyAllowed := allowed }

def skipToToken (fuel : Nat) (l : Lexer) : Lexer :=
  match fuel with
  | 0 => l
  | fuel + 1 =>
    let c := l.cursor.skipBlanks.skipComment
    match c.lineBreak? with
    | some (_, next) =>
      skipToToken fuel { l with cursor := next, keyAllowed := l.keyAllowed || !l.inFlow }
    | none => l.moveTo c

def isStale (c : Cursor) (k : PossibleKey) : Bool :=
  k.line != c.line || keyReach < c.index - k.index

def dropStale (l : Lexer) : Scan Lexer := do
  let keys ← l.keys.mapM fun key =>
    match key with
    | some k =>
      if isStale l.cursor k then
        if k.required then malformed "expected a colon" else .ok none
      else .ok (some k)
    | none => .ok none
  return { l with keys := keys }

def setKey (key : Option PossibleKey) (l : Lexer) : Lexer := { l with keys := key :: l.keys.drop 1 }

def key? (l : Lexer) : Option PossibleKey := l.keys.head?.join

def dropKey (l : Lexer) : Scan Lexer :=
  if l.key?.any PossibleKey.required then malformed "expected a colon" else .ok (l.setKey none)

/-- Notes that a key may begin here. -/
def noteKey (l : Lexer) : Scan Lexer :=
  if l.keyAllowed then do
    let c := l.cursor
    let required := !l.inFlow && l.indent == Int.ofNat c.column
    return (← l.dropKey).setKey (some ⟨l.count, required, c.index, c.line, c.column⟩)
  else .ok l

/-- Closes the block collections that are indented deeper than a column. -/
def unwindFrom (column : Int) (l : Lexer) : List Int → Lexer
  | [] => { l with outerIndents := [] }
  | outer :: rest =>
    if column < l.indent then unwindFrom column { l.push .blockEnd with indent := outer } rest
    else { l with outerIndents := outer :: rest }

def unwind (column : Int) (l : Lexer) : Lexer :=
  if l.inFlow then l else unwindFrom column l l.outerIndents

/-- Opens a block collection at a column that is deeper than the current one. -/
def openBlock (column : Nat) (t : Token) (l : Lexer) : Lexer :=
  if l.indent < Int.ofNat column then
    { l.push t with indent := column, outerIndents := l.indent :: l.outerIndents }
  else l

/-- Puts tokens, the newest first, where a number of tokens came before. -/
def insertAt (before : Nat) (ts : List Token) (l : Lexer) : Lexer :=
  let after := l.count - before
  { l with
    tokens := l.tokens.take after ++ ts ++ l.tokens.drop after
    count := l.count + ts.length }

def single (t : Token) (l : Lexer) : Lexer := (l.push t).moveTo l.cursor.advance

/-- Ends all block collections, as a marker or directive does. -/
def closeAll (l : Lexer) : Scan Lexer := do
  return (← (l.unwind (-1)).dropKey).allowKey false

def marker (t : Token) (l : Lexer) : Scan Lexer := do
  let l ← l.closeAll
  return (l.push t).moveTo (Cursor.skip 3 l.cursor)

def directive (l : Lexer) : Scan Lexer := do
  let l ← l.closeAll
  let (d, next) ← readDirective l.cursor
  return (l.push (.directive d)).moveTo next

def openFlow (t : Token) (l : Lexer) : Scan Lexer := do
  let l ← l.noteKey
  return ({ l with keys := none :: l.keys }.allowKey true).single t

def closeFlow (t : Token) (l : Lexer) : Scan Lexer := do
  let l ← l.dropKey
  if l.inFlow then return ({ l with keys := l.keys.drop 1 }.allowKey false).single t
  else malformed "unexpected closing bracket"

def flowEntry (l : Lexer) : Scan Lexer := do
  return (← (l.allowKey true).dropKey).single .flowEntry

def blockEntry (l : Lexer) : Scan Lexer := do
  if !l.inFlow && !l.keyAllowed then malformed "unexpected sequence entry"
  let l := if l.inFlow then l else l.openBlock l.cursor.column .blockSequenceStart
  return (← (l.allowKey true).dropKey).single .blockEntry

def explicitKey (l : Lexer) : Scan Lexer := do
  if !l.inFlow && !l.keyAllowed then malformed "unexpected key"
  let l := if l.inFlow then l else l.openBlock l.cursor.column .blockMappingStart
  return (← (l.allowKey !l.inFlow).dropKey).single .key

/-- The value after a key that was noted as possible. -/
def valueOf (k : PossibleKey) (l : Lexer) : Lexer :=
  let opens := !l.inFlow && decide (l.indent < Int.ofNat k.column)
  let l := (l.setKey none).insertAt k.before (if opens then [.key, .blockMappingStart] else [.key])
  let l :=
    if opens then { l with indent := k.column, outerIndents := l.indent :: l.outerIndents } else l
  (l.allowKey false).single .value

/-- The value after an explicit key, or one without a key. -/
def bareValue (l : Lexer) : Scan Lexer := do
  if !l.inFlow && !l.keyAllowed then malformed "unexpected value"
  let l := if l.inFlow then l else l.openBlock l.cursor.column .blockMappingStart
  return (← (l.allowKey !l.inFlow).dropKey).single .value

def value (l : Lexer) : Scan Lexer :=
  match l.key? with
  | some k => .ok (l.valueOf k)
  | none => l.bareValue

/-- A token that may begin a key. -/
def inlineToken (read : Cursor → Scan (Token × Cursor)) (l : Lexer) : Scan Lexer := do
  let l ← l.noteKey
  let (t, next) ← read l.cursor
  return ((l.allowKey false).push t).moveTo next

def blockScalar (folded : Bool) (l : Lexer) : Scan Lexer := do
  let l ← (l.allowKey true).dropKey
  let (text, next) ← readBlock folded l.indent l.cursor
  return (l.push (.scalar text false)).moveTo next

def plain (l : Lexer) : Scan Lexer := do
  let l ← l.noteKey
  let (text, broken, next) := readPlain l.inFlow l.indent l.cursor
  return ((l.allowKey broken).push (.scalar text true)).moveTo next

def quoted (quote : Char) : Lexer → Scan Lexer :=
  inlineToken fun c => (readQuoted quote c).map fun r => (.scalar r.1 false, r.2)

def beginsPlain (inFlow : Bool) (c : Char) (next : Option Char) : Bool :=
  (!endsWord (some c) && !"-?:,[]\x7b\x7d#&*!|>'\"%@`".toList.contains c) ||
    (!endsWord next && (c == '-' || (!inFlow && (c == '?' || c == ':'))))

def token (c : Char) (l : Lexer) : Scan Lexer :=
  let next := l.cursor.peekAt 1
  let first := l.cursor.column == 0
  if c == '%' && first then l.directive
  else if c == '-' && first && l.cursor.atMarker then l.marker .documentStart
  else if c == '.' && first && l.cursor.atMarker then l.marker .documentEnd
  else
    match c with
    | '[' => l.openFlow .flowSequenceStart
    | '\x7b' => l.openFlow .flowMappingStart
    | ']' => l.closeFlow .flowSequenceEnd
    | '\x7d' => l.closeFlow .flowMappingEnd
    | ',' => l.flowEntry
    | '*' => l.inlineToken fun c => (readName c).map fun r => (.alias r.1, r.2)
    | '&' => l.inlineToken fun c => (readName c).map fun r => (.anchor r.1, r.2)
    | '!' => l.inlineToken fun c => (readTag c).map fun r => (.tag r.1, r.2)
    | '\'' => l.quoted '\''
    | '"' => l.quoted '"'
    | _ =>
      if c == '-' && endsWord next then l.blockEntry
      else if c == '?' && (l.inFlow || endsWord next) then l.explicitKey
      else if c == ':' && (l.inFlow || endsWord next) then l.value
      else if c == '|' && !l.inFlow then l.blockScalar false
      else if c == '>' && !l.inFlow then l.blockScalar true
      else if beginsPlain l.inFlow c next then l.plain
      else malformed "a token cannot begin with this character"

/-- Reads one token on, unless the text is at its end. The fuel is more than the
number of characters left. -/
def step (fuel : Nat) (l : Lexer) : Scan (Lexer × Bool) := do
  let l ← (skipToToken fuel l).dropStale
  let l := l.unwind l.cursor.column
  match l.cursor.peek with
  | none => return (← l.closeAll, false)
  | some c => return (← l.token c, true)

/-- Every step but the last one takes at least one character. -/
def run (fuel : Nat) (l : Lexer) : Tokens :=
  match fuel with
  | 0 => ⟨l.tokens.reverse, none⟩
  | fuel + 1 =>
    match l.step (fuel + 1) with
    | .error refusal => ⟨l.tokens.reverse, some refusal⟩
    | .ok (l, true) => run fuel l
    | .ok (l, false) => ⟨l.tokens.reverse, none⟩

end Lexer

def tokens (text : String) : Tokens :=
  if text.toList.all isAllowed then Lexer.run (text.length + 1) (Lexer.start text)
  else ⟨[], some (.malformed "unexpected character")⟩

end SdkBlueprint.Document.Yaml
