import SdkBlueprint.Document.Value

/-! Reading JSON text. Beyond the standard it takes `NaN`, `Infinity` and
`-Infinity`, and of equal keys the last one counts. A refusal names the place
by line, column and character. -/
namespace SdkBlueprint.Document.Json
open SdkBlueprint.Number

/-- What is wrong, with the number of characters from the place to the end. -/
structure Fault where
  reason : String
  left : Nat

inductive Refusal where
  /-- The text is no JSON. -/
  | malformed (reason : String)
  /-- An integer has more digits than are read. -/
  | longInteger
  deriving DecidableEq

inductive Stop where
  | fault (fault : Fault)
  | longInteger

abbrev Step (α : Type) := Except Stop (α × List Char)

def stop {α : Type} (reason : String) (rest : List Char) : Step α :=
  .error (.fault ⟨reason, rest.length⟩)

def isSpace (c : Char) : Bool := c == ' ' || c == '\t' || c == '\n' || c == '\r'

def skipSpaces (cs : List Char) : List Char := cs.dropWhile isSpace

def digitsValue (ds : List Char) : Nat :=
  ds.foldl (fun n c => n * 10 + (c.toNat - '0'.toNat)) 0

structure Tail where
  fraction : List Char
  exponent : Option Int
  rest : List Char

def readFraction (cs : List Char) : List Char × List Char :=
  match cs with
  | '.' :: c :: rest =>
    if c.isDigit then ((c :: rest).takeWhile Char.isDigit, (c :: rest).dropWhile Char.isDigit)
    else ([], cs)
  | _ => ([], cs)

def readExponent (cs : List Char) : Option Int × List Char :=
  match cs with
  | e :: rest =>
    if e == 'e' || e == 'E' then
      let (negative, digits) := match rest with
        | '-' :: ds => (true, ds)
        | '+' :: ds => (false, ds)
        | ds => (false, ds)
      let ds := digits.takeWhile Char.isDigit
      if ds.isEmpty then (none, cs)
      else
        let n := Int.ofNat (digitsValue ds)
        (some (if negative then -n else n), digits.dropWhile Char.isDigit)
    else (none, cs)
  | [] => (none, cs)

def readTail (cs : List Char) : Tail :=
  let (fraction, rest) := readFraction cs
  let (exponent, rest) := readExponent rest
  ⟨fraction, exponent, rest⟩

/-- A number is an integer unless it has a fraction or an exponent. -/
def finishNumber (negative : Bool) (whole : List Char) (after : List Char) : Step Value :=
  let tail := readTail after
  if tail.fraction.isEmpty && tail.exponent.isNone then
    if maxIntegerDigits < whole.length then .error .longInteger
    else
      let n := Int.ofNat (digitsValue whole)
      .ok (.scalar (.int (if negative then -n else n)), after)
  else
    let digits := whole ++ tail.fraction
    let scale := tail.exponent.getD 0 - Int.ofNat tail.fraction.length
    .ok (.scalar (.float (Binary64.ofDecimal negative (digitsValue digits) digits.length scale)),
      tail.rest)

def readNumber (start : List Char) : Step Value :=
  let (negative, cs) := match start with
    | '-' :: rest => (true, rest)
    | _ => (false, start)
  match cs with
  | '0' :: rest => finishNumber negative ['0'] rest
  | c :: _ =>
    if c.isDigit then
      finishNumber negative (cs.takeWhile Char.isDigit) (cs.dropWhile Char.isDigit)
    else stop "Expecting value" start
  | [] => stop "Expecting value" start

def hexValue? (c : Char) : Option Nat :=
  if c.isDigit then some (c.toNat - '0'.toNat)
  else if 'a' ≤ c && c ≤ 'f' then some (c.toNat - 'a'.toNat + 10)
  else if 'A' ≤ c && c ≤ 'F' then some (c.toNat - 'A'.toNat + 10)
  else none

def hexNumber? (cs : List Char) : Option Nat :=
  cs.foldlM (fun n c => (hexValue? c).map fun d => n * 16 + d) 0

def isHighSurrogate (n : Nat) : Bool := 0xD800 ≤ n && n < 0xDC00

def isLowSurrogate (n : Nat) : Bool := 0xDC00 ≤ n && n < 0xE000

/-- The character of a code unit; half a surrogate pair has none and is replaced. -/
def unitChar (n : Nat) : Char :=
  if 0xD800 ≤ n && n < 0xE000 then Char.ofNat 0xFFFD else Char.ofNat n

/-- Reads the four digits after `\u`, and a second unit if the two make a pair.
`cs` starts at the `u`. -/
def readUnit (cs : List Char) : Step Char :=
  let digits := cs.drop 1
  if digits.length ≤ 4 then stop "Invalid \\uXXXX escape" cs
  else
    match hexNumber? (digits.take 4) with
    | none => stop "Invalid \\uXXXX escape" cs
    | some n =>
      let rest := digits.drop 4
      match rest with
      | '\\' :: 'u' :: more =>
        if isHighSurrogate n && 4 < more.length then
          match hexNumber? (more.take 4) with
          | none => stop "Invalid \\uXXXX escape" ('u' :: more)
          | some m =>
            if isLowSurrogate m then
              .ok (Char.ofNat (0x10000 + (n - 0xD800) * 0x400 + (m - 0xDC00)), more.drop 4)
            else .ok (unitChar n, rest)
        else .ok (unitChar n, rest)
      | _ => .ok (unitChar n, rest)

def simpleEscape? : Char → Option Char
  | '"' => some '"'
  | '\\' => some '\\'
  | '/' => some '/'
  | 'b' => some (Char.ofNat 8)
  | 'f' => some (Char.ofNat 12)
  | 'n' => some '\n'
  | 'r' => some '\r'
  | 't' => some '\t'
  | _ => none

/-- Reads on to the closing quote. `begin` starts at the opening quote and is
where a text without end is reported. -/
def readText (fuel : Nat) (begin acc cs : List Char) : Step String :=
  match fuel with
  | 0 => stop "Unterminated string starting at" begin
  | fuel + 1 =>
    match cs with
    | [] => stop "Unterminated string starting at" begin
    | '"' :: rest => .ok (String.ofList acc.reverse, rest)
    | '\\' :: rest =>
      match rest with
      | [] => stop "Unterminated string starting at" begin
      | 'u' :: _ =>
        match readUnit rest with
        | .ok (c, after) => readText fuel begin (c :: acc) after
        | .error e => .error e
      | c :: after =>
        match simpleEscape? c with
        | some d => readText fuel begin (d :: acc) after
        | none => stop "Invalid \\escape" cs
    | c :: rest =>
      if c.toNat < 32 then stop "Invalid control character at" cs
      else readText fuel begin (c :: acc) rest

def readQuoted (fuel : Nat) (cs : List Char) : Step String :=
  readText fuel cs [] (cs.drop 1)

def literals : List (List Char × Scalar) :=
  [("null".toList, .null), ("true".toList, .bool true), ("false".toList, .bool false),
   ("NaN".toList, .float Binary64.nan), ("Infinity".toList, .float (Binary64.infinity false)),
   ("-Infinity".toList, .float (Binary64.infinity true))]

def readAtom (cs : List Char) : Step Value :=
  match literals.find? fun l => l.1.isPrefixOf cs with
  | some (word, s) => .ok (.scalar s, cs.drop word.length)
  | none => readNumber cs

mutual

def readValue (fuel : Nat) (cs : List Char) : Step Value :=
  match fuel with
  | 0 => stop "Expecting value" cs
  | fuel + 1 =>
    match cs with
    | '"' :: _ =>
      match readQuoted fuel cs with
      | .ok (s, rest) => .ok (.text s, rest)
      | .error e => .error e
    | '[' :: rest =>
      match skipSpaces rest with
      | ']' :: after => .ok (.list [], after)
      | rest => readItems fuel [] rest
    | '\x7b' :: rest =>
      match skipSpaces rest with
      | '\x7d' :: after => .ok (.map [], after)
      | rest => readMembers fuel [] rest
    | _ => readAtom cs

def readItems (fuel : Nat) (acc : List Value) (cs : List Char) : Step Value :=
  match fuel with
  | 0 => stop "Expecting value" cs
  | fuel + 1 =>
    match readValue fuel cs with
    | .error e => .error e
    | .ok (v, rest) =>
      match skipSpaces rest with
      | ']' :: after => .ok (.list (v :: acc).reverse, after)
      | ',' :: after => readItems fuel (v :: acc) (skipSpaces after)
      | rest => stop "Expecting ',' delimiter" rest

def readMembers (fuel : Nat) (acc : List (Scalar × Value)) (cs : List Char) : Step Value :=
  match fuel with
  | 0 => stop "Expecting value" cs
  | fuel + 1 =>
    match cs with
    | '"' :: _ =>
      match readQuoted fuel cs with
      | .error e => .error e
      | .ok (key, rest) =>
        match skipSpaces rest with
        | ':' :: after =>
          match readValue fuel (skipSpaces after) with
          | .error e => .error e
          | .ok (v, rest) =>
            let acc := (.text key, v) :: acc
            match skipSpaces rest with
            | '\x7d' :: after => .ok (.map (Value.mapOf acc.reverse), after)
            | ',' :: after => readMembers fuel acc (skipSpaces after)
            | rest => stop "Expecting ',' delimiter" rest
        | rest => stop "Expecting ':' delimiter" rest
    | _ => stop "Expecting property name enclosed in double quotes" cs

end

/-- Every value, every item and every character of a text takes at least one
character of the input, so that this many steps are enough. -/
def readDocument (cs : List Char) : Except Stop Value :=
  match readValue (2 * cs.length + 2) (skipSpaces cs) with
  | .error e => .error e
  | .ok (v, rest) =>
    match skipSpaces rest with
    | [] => .ok v
    | rest => .error (.fault ⟨"Extra data", rest.length⟩)

def place (cs : List Char) (position : Nat) : Nat × Nat :=
  let before := cs.take position
  (before.count '\n' + 1, (before.reverse.takeWhile (· != '\n')).length + 1)

def faultMessage (cs : List Char) (f : Fault) : String :=
  let position := cs.length - f.left
  let (line, column) := place cs position
  let reason := f.reason
  s!"{reason}: line {line} column {column} (char {position})"

def read (text : String) : Except Refusal Value :=
  let cs := text.toList
  if cs.head? == some (Char.ofNat 0xFEFF) then
    .error (.malformed (faultMessage cs
      ⟨"Unexpected UTF-8 BOM (decode using utf-8-sig)", cs.length⟩))
  else
    match readDocument cs with
    | .ok v => .ok v
    | .error (.fault f) => .error (.malformed (faultMessage cs f))
    | .error .longInteger => .error .longInteger

end SdkBlueprint.Document.Json
