import SdkBlueprint.Document.Scalar
import SdkBlueprint.Document.Yaml.Properties

/-! Timestamps as YAML writes them: a date, perhaps with a time of day, a fraction
of a second and an offset. -/
namespace SdkBlueprint.Document.Yaml

structure TimeFields where
  hour : Nat
  minute : Nat
  second : Nat
  /-- Digits after the point. -/
  fraction : List Char
  /-- Offset from UTC in seconds. -/
  offset : Option Int

structure TimestampFields where
  year : Nat
  month : Nat
  day : Nat
  time : Option TimeFields

def digits? (n : Nat) (cs : List Char) : Option (Nat × List Char) :=
  let ds := cs.take n
  if ds.length == n && ds.all Char.isDigit then some (Json.digitsValue ds, cs.drop n) else none

def twoDigits? (cs : List Char) : Option (Nat × List Char) :=
  (digits? 2 cs).or (digits? 1 cs)

def char? (c : Char) : List Char → Option (List Char)
  | d :: rest => if d == c then some rest else none
  | [] => none

def isGap (c : Char) : Bool := c == ' ' || c == '\t'

/-- The offset at the end of a timestamp: nothing, `Z`, or hours and perhaps
minutes. -/
def offset? (cs : List Char) : Option (Option Int) :=
  match cs.dropWhile isGap with
  | [] => if cs.isEmpty then some none else none
  | ['Z'] => some (some 0)
  | sign :: rest => do
    if !(sign == '+' || sign == '-') then failure
    let (hours, rest) ← twoDigits? rest
    let (minutes, rest) ← match rest with
      | ':' :: more => digits? 2 more
      | rest => some (0, rest)
    if !rest.isEmpty then failure
    let seconds := Int.ofNat (hours * 3600 + minutes * 60)
    return some (if sign == '-' then -seconds else seconds)

def time? (cs : List Char) : Option TimeFields := do
  let (hour, cs) ← twoDigits? cs
  let (minute, cs) ← digits? 2 (← char? ':' cs)
  let (second, cs) ← digits? 2 (← char? ':' cs)
  let (fraction, cs) := match cs with
    | '.' :: rest => (rest.takeWhile Char.isDigit, rest.dropWhile Char.isDigit)
    | cs => ([], cs)
  return ⟨hour, minute, second, fraction, ← offset? cs⟩

def afterSeparator? : List Char → Option (List Char)
  | c :: rest =>
    if c == 'T' || c == 't' then some rest
    else if isGap c then some (rest.dropWhile isGap)
    else none
  | [] => none

def timestampFields? (cs : List Char) : Option TimestampFields := do
  let (year, cs) ← digits? 4 cs
  let (month, cs) ← twoDigits? (← char? '-' cs)
  let (day, cs) ← twoDigits? (← char? '-' cs)
  if cs.isEmpty then return ⟨year, month, day, none⟩
  let time ← time? (← afterSeparator? cs)
  return ⟨year, month, day, some time⟩

def validDate (f : TimestampFields) : Bool :=
  1 ≤ f.year && 1 ≤ f.month && f.month ≤ 12 && 1 ≤ f.day &&
    f.day ≤ CalendarDate.daysIn f.year f.month

/-- Microseconds from the digits of a fraction; only six of them count. -/
def microseconds (fraction : List Char) : Nat :=
  let ds := fraction.take 6
  Json.digitsValue (ds ++ List.replicate (6 - ds.length) '0')

/-- An offset is shorter than a day. -/
def validTime (t : TimeFields) : Bool :=
  t.hour ≤ 23 && t.minute ≤ 59 && t.second ≤ 59 &&
    (match t.offset with
      | some o => o.natAbs < 86400
      | none => true)

/-- The date or moment that a timestamp names, if there is one. -/
def timestamp (text : String) : Scan Scalar :=
  match timestampFields? text.toList with
  | none => .error (.misuse .noFields)
  | some f =>
    let date : CalendarDate := ⟨f.year, f.month, f.day⟩
    match f.time with
    | none => if validDate f then .ok (.date date) else .error (.misuse .badValue)
    | some t =>
      if validDate f && validTime t then
        .ok (.moment ⟨date, t.hour, t.minute, t.second, microseconds t.fraction, t.offset⟩)
      else .error (.misuse .badValue)

end SdkBlueprint.Document.Yaml
