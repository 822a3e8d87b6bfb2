import SdkBlueprint.Document.Value
import SdkBlueprint.Failure
import SdkBlueprint.Text.Quoted

/-! Values as text for messages and names. A text stands for itself; inside a
list or a mapping it is quoted. -/
namespace SdkBlueprint.Document
open SdkBlueprint.Text

def padded (width n : Nat) : List Char :=
  let ds := Nat.toDigits 10 n
  List.replicate (width - ds.length) '0' ++ ds

def decimal (n : Int) : List Char := (toString n).toList

def CalendarDate.chars (d : CalendarDate) : List Char :=
  padded 4 d.year ++ '-' :: padded 2 d.month ++ '-' :: padded 2 d.day

/-- An offset as hours and minutes, with seconds only if there are any. -/
def offsetChars (offset : Int) : List Char :=
  let n := offset.natAbs
  (if offset < 0 then '-' else '+') ::
    (padded 2 (n / 3600) ++ ':' :: padded 2 (n / 60 % 60)) ++
    (if n % 60 == 0 then [] else ':' :: padded 2 (n % 60))

def Moment.chars (separator : Char) (m : Moment) : List Char :=
  m.date.chars ++ separator :: padded 2 m.hour ++ ':' :: padded 2 m.minute ++
    ':' :: padded 2 m.second ++
    (if m.microsecond == 0 then [] else '.' :: padded 6 m.microsecond) ++
    (match m.offset with
      | none => []
      | some o => offsetChars o)

def commaSeparated (items : List (List Char)) : List Char :=
  List.intercalate [',', ' '] items

def spanChars (seconds : Int) : List Char :=
  let days := seconds.fdiv 86400
  let rest := seconds.fmod 86400
  let parts :=
    (if days == 0 then [] else ["days=".toList ++ decimal days]) ++
    (if rest == 0 then [] else ["seconds=".toList ++ decimal rest])
  "datetime.timedelta(".toList ++ commaSeparated parts ++ [')']

def offsetQuoted (offset : Int) : List Char :=
  if offset == 0 then "datetime.timezone.utc".toList
  else "datetime.timezone(".toList ++ spanChars offset ++ [')']

def CalendarDate.quotedChars (d : CalendarDate) : List Char :=
  "datetime.date(".toList ++
    commaSeparated ([d.year, d.month, d.day].map (Nat.toDigits 10 ·)) ++ [')']

/-- Seconds and microseconds are left out from the end as long as they are zero. -/
def Moment.quotedChars (m : Moment) : List Char :=
  let clock := [m.date.year, m.date.month, m.date.day, m.hour, m.minute] ++
    (if m.microsecond != 0 then [m.second, m.microsecond]
      else if m.second != 0 then [m.second] else [])
  let zone := match m.offset with
    | none => []
    | some o => ["tzinfo=".toList ++ offsetQuoted o]
  "datetime.datetime(".toList ++ commaSeparated (clock.map (Nat.toDigits 10 ·) ++ zone) ++ [')']

def escapeByte (quote : Char) (b : UInt8) : List Char :=
  let c := Char.ofNat b.toNat
  if c == quote || c == '\\' then ['\\', c]
  else if c == '\n' then ['\\', 'n']
  else if c == '\r' then ['\\', 'r']
  else if c == '\t' then ['\\', 't']
  else if 32 ≤ b && b ≤ 126 then [c]
  else '\\' :: 'x' :: hexDigits 2 b.toNat

def bytesQuoted (bytes : List UInt8) : List Char :=
  let q := quoteFor (bytes.map fun b => Char.ofNat b.toNat)
  'b' :: q :: bytes.flatMap (escapeByte q) ++ [q]

/-- The form a scalar takes inside a list or a mapping. -/
def Scalar.quotedChars : Scalar → List Char
  | .null => "None".toList
  | .bool b => (if b then "True" else "False").toList
  | .int n => decimal n
  | .float x => x.chars
  | .text s => quoteChars s.toList
  | .bytes b => bytesQuoted b
  | .date d => d.quotedChars
  | .moment m => m.quotedChars

/-- The form a scalar takes on its own. -/
def Scalar.displayChars : Scalar → List Char
  | .text s => s.toList
  | .date d => d.chars
  | .moment m => m.chars ' '
  | s => s.quotedChars

def setQuoted (members : List Scalar) : List Char :=
  if members.isEmpty then "set()".toList
  else '\x7b' :: commaSeparated (members.map Scalar.quotedChars) ++ ['\x7d']

mutual

def Value.quotedChars : Value → List Char
  | .scalar s => s.quotedChars
  | .list items => '[' :: commaSeparated (quotedItems items) ++ [']']
  | .map entries => '\x7b' :: commaSeparated (quotedEntries entries) ++ ['\x7d']
  | .set members => setQuoted members

def quotedItems : List Value → List (List Char)
  | [] => []
  | v :: rest => v.quotedChars :: quotedItems rest

def quotedEntries : List (Scalar × Value) → List (List Char)
  | [] => []
  | (k, v) :: rest => (k.quotedChars ++ ':' :: ' ' :: v.quotedChars) :: quotedEntries rest

end

def Scalar.display (s : Scalar) : String := String.ofList s.displayChars

def Value.display : Value → String
  | .scalar s => s.display
  | v => String.ofList v.quotedChars

mutual

/-- No integer is too long to be written, be it a key or lie ever so deep. -/
def Value.isShort : Value → Bool
  | .scalar s => !s.isLong
  | .list items => areShort items
  | .map entries => entriesAreShort entries
  | .set members => members.all fun s => !s.isLong

def areShort : List Value → Bool
  | [] => true
  | v :: rest => v.isShort && areShort rest

def entriesAreShort : List (Scalar × Value) → Bool
  | [] => true
  | (k, v) :: rest => !k.isLong && v.isShort && entriesAreShort rest

end

/-- The text of a value, unless an integer in it is too long. -/
def Value.display? (v : Value) : Attempt String :=
  if v.isShort then .ok v.display else misuse .badValue

theorem display?_of_short {v : Value} (short : v.isShort = true) : v.display? = .ok v.display :=
  if_pos short

theorem display?_of_long {v : Value} (long : v.isShort = false) :
    v.display? = .error (.misuse .badValue) := if_neg (Bool.eq_false_iff.mp long)

end SdkBlueprint.Document
