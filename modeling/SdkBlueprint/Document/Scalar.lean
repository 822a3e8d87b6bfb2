import SdkBlueprint.Number.Shortest

/-! Scalars of a document. They are what a mapping may use as a key, so they come
with the equality under which two keys are one. -/
namespace SdkBlueprint.Document
open SdkBlueprint.Number

/-- Integers of more decimal digits are neither read from text nor written as text. -/
def maxIntegerDigits : Nat := 4300

structure CalendarDate where
  year : Nat
  month : Nat
  day : Nat
  deriving DecidableEq

/-- A date with a time of day and, if it is known, the offset from UTC in seconds. -/
structure Moment where
  date : CalendarDate
  hour : Nat
  minute : Nat
  second : Nat
  microsecond : Nat
  offset : Option Int
  deriving DecidableEq

inductive Scalar where
  | null
  | bool (value : Bool)
  | int (value : Int)
  | float (value : Binary64)
  | text (value : String)
  | bytes (value : List UInt8)
  | date (value : CalendarDate)
  | moment (value : Moment)
  deriving DecidableEq

def CalendarDate.isLeap (year : Nat) : Bool :=
  year % 4 == 0 && (year % 100 != 0 || year % 400 == 0)

def CalendarDate.daysIn (year month : Nat) : Nat :=
  if month == 2 then (if isLeap year then 29 else 28)
  else if month == 4 || month == 6 || month == 9 || month == 11 then 30
  else 31

def CalendarDate.ordinal (d : CalendarDate) : Nat :=
  let y := d.year - 1
  let months := (List.range (d.month - 1)).foldl (fun n m => n + daysIn d.year (m + 1)) 0
  365 * y + y / 4 - y / 100 + y / 400 + months + d.day

/-- Microseconds since the first day, on the clock of the moment's own offset. -/
def Moment.localClock (m : Moment) : Int :=
  ((Int.ofNat m.date.ordinal * 86400 + Int.ofNat (m.hour * 3600 + m.minute * 60 + m.second))
    * 1000000) + Int.ofNat m.microsecond

/-- Moments with an offset are compared as instants; one without an offset is
never equal to one with it. -/
def Moment.same (a b : Moment) : Bool :=
  match a.offset, b.offset with
  | none, none => a.localClock == b.localClock
  | some p, some q => a.localClock - p * 1000000 == b.localClock - q * 1000000
  | _, _ => false

namespace Scalar

/-- Integers and booleans are numbers: true is one and false is zero. -/
def integer? : Scalar → Option Int
  | .bool b => some (if b then 1 else 0)
  | .int n => some n
  | .float x => x.toInt?
  | _ => none

/-- Equality of keys. Numbers are compared by value, whatever their sort. -/
def same (a b : Scalar) : Bool :=
  match a, b with
  | .null, .null => true
  | .text s, .text t => s == t
  | .bytes s, .bytes t => s == t
  | .date d, .date e => d == e
  | .moment m, .moment n => m.same n
  | .float x, .float y => x.sameValue y
  | _, _ =>
    match a.integer?, b.integer? with
    | some m, some n => m == n
    | _, _ => false

def isLong : Scalar → Bool
  | .int n => maxIntegerDigits < (Nat.toDigits 10 n.natAbs).length
  | _ => false

def truthy : Scalar → Bool
  | .null => false
  | .bool b => b
  | .int n => n != 0
  | .float x => !x.isZero
  | .text s => s != ""
  | .bytes b => !b.isEmpty
  | .date _ => true
  | .moment _ => true

end Scalar
end SdkBlueprint.Document
