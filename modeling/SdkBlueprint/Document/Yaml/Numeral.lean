import SdkBlueprint.Document.Json.Reader
import SdkBlueprint.Document.Yaml.Tag
import SdkBlueprint.Text.Blank
import SdkBlueprint.Text.Parts

/-! Numbers as YAML writes them. Underscores do not count; integers may have base
two, eight, ten or sixteen, and both sorts may come in groups of base sixty. -/
namespace SdkBlueprint.Document.Yaml
open SdkBlueprint.Number

def withoutLines (text : String) : List Char := text.toList.filter (· != '_')

def splitSign (cs : List Char) : Scan (Bool × List Char) :=
  match cs with
  | [] => .error (.misuse .outOfRange)
  | c :: rest => .ok (c == '-', if isSign c then rest else cs)

def signed (negative : Bool) (n : Int) : Int := if negative then -n else n

def digitValue? (base : Nat) (c : Char) : Option Nat :=
  (Json.hexValue? c).filter (· < base)

def digitsOf? (base : Nat) (ds : List Char) : Option Nat :=
  if ds.isEmpty then none
  else ds.foldlM (fun n c => (digitValue? base c).map fun d => n * base + d) 0

def basePrefix (base : Nat) : List (List Char) :=
  if base == 2 then [['0', 'b'], ['0', 'B']]
  else if base == 8 then [['0', 'o'], ['0', 'O']]
  else if base == 16 then [['0', 'x'], ['0', 'X']]
  else []

/-- An integer of a base. Blanks around it, a sign and the mark of the base are
allowed; a decimal one has a limited number of digits. -/
def integer (base : Nat) (cs : List Char) : Scan Int :=
  let cs := Text.trimChars cs
  let negative := cs.head? == some '-'
  let body := dropSign cs
  let ds := ((basePrefix base).find? fun p => p.isPrefixOf body).elim body fun p =>
    body.drop p.length
  match digitsOf? base ds with
  | none => .error (.misuse .badValue)
  | some n =>
    if base == 10 && maxIntegerDigits < ds.length then .error (.misuse .badValue)
    else .ok (signed negative n)

def unsignedInteger (cs : List Char) : Scan Int :=
  match cs with
  | ['0'] => .ok 0
  | '0' :: 'b' :: ds => integer 2 ds
  | '0' :: 'x' :: ds => integer 16 ds
  | '0' :: _ => integer 8 cs
  | [] => .error (.misuse .outOfRange)
  | _ =>
    if cs.contains ':' then do
      let parts ← (Text.parts ':' cs).mapM (integer 10)
      return parts.foldl (fun n d => n * 60 + d) 0
    else integer 10 cs

def intValue (text : String) : Scan Scalar := do
  let (negative, cs) ← splitSign (withoutLines text)
  return .int (signed negative (← unsignedInteger cs))

def decimal? (negative : Bool) (cs : List Char) : Option Binary64 :=
  let whole := cs.takeWhile Char.isDigit
  let rest := cs.dropWhile Char.isDigit
  let (fraction, rest) := match rest with
    | '.' :: more => (more.takeWhile Char.isDigit, more.dropWhile Char.isDigit)
    | rest => ([], rest)
  let (exponent, rest) := Json.readExponent rest
  let ds := whole ++ fraction
  if ds.isEmpty || !rest.isEmpty then none
  else
    let scale := exponent.getD 0 - Int.ofNat fraction.length
    some (Binary64.ofDecimal negative (Json.digitsValue ds) ds.length scale)

/-- A number as it is read after blanks are trimmed and with a sign of its own. -/
def realNumber (cs : List Char) : Scan Binary64 :=
  let cs := Text.trimChars cs
  let negative := cs.head? == some '-'
  let body := dropSign cs
  let word := String.ofList (body.map Char.toLower)
  if word == "inf" || word == "infinity" then .ok (Binary64.infinity negative)
  else if word == "nan" then .ok Binary64.nan
  else
    match decimal? negative body with
    | some x => .ok x
    | none => .error (.misuse .badValue)

/-- Sum of groups of base sixty, from the last one on. -/
def sixtySum (parts : List Binary64) : Binary64 :=
  (parts.reverse.foldl (fun acc x => (acc.1.add (x.scale acc.2), acc.2 * 60))
    (Binary64.zero false, 1)).1

def applySign (negative : Bool) (x : Binary64) : Binary64 := if negative then x.neg else x

def floatValue (text : String) : Scan Scalar := do
  let (negative, cs) ← splitSign ((withoutLines text).map Char.toLower)
  if cs == ".inf".toList then return .float (Binary64.infinity negative)
  else if cs == ".nan".toList then return .float Binary64.nan
  else if cs.contains ':' then
    return .float (applySign negative (sixtySum (← (Text.parts ':' cs).mapM realNumber)))
  else return .float (applySign negative (← realNumber cs))

end SdkBlueprint.Document.Yaml
