/-! Double precision numbers as bit patterns. A finite one is a sign and an
exact `mantissa * 2 ^ exponent`; reading a fraction rounds it to the nearest
such value, a tie to the even mantissa. -/
namespace SdkBlueprint.Number

def twoTo (n : Nat) : Nat := Nat.pow 2 n

def tenTo (n : Nat) : Nat := Nat.pow 10 n

structure Binary64 where
  bits : UInt64
  deriving DecidableEq

namespace Binary64

def negative (x : Binary64) : Bool := x.bits >>> 63 == 1

def exponentField (x : Binary64) : Nat := ((x.bits >>> 52) &&& 0x7FF).toNat

def fractionField (x : Binary64) : Nat := (x.bits &&& 0xFFFFFFFFFFFFF).toNat

def isFinite (x : Binary64) : Bool := x.exponentField != 0x7FF

def isNaN (x : Binary64) : Bool := x.exponentField == 0x7FF && x.fractionField != 0

def mantissa (x : Binary64) : Nat :=
  if x.exponentField == 0 then x.fractionField else x.fractionField + twoTo 52

def exponent (x : Binary64) : Int :=
  if x.exponentField == 0 then -1074 else Int.ofNat x.exponentField - 1075

def isZero (x : Binary64) : Bool := x.exponentField == 0 && x.fractionField == 0

def signBit (negative : Bool) : UInt64 := if negative then 0x8000000000000000 else 0

def infinity (negative : Bool) : Binary64 := ⟨signBit negative ||| 0x7FF0000000000000⟩

def nan : Binary64 := ⟨0x7FF8000000000000⟩

def zero (negative : Bool) : Binary64 := ⟨signBit negative⟩

def neg (x : Binary64) : Binary64 := ⟨x.bits ^^^ 0x8000000000000000⟩

/-- Nearest integer to `num / den`, a tie to the even one. -/
def roundDiv (num den : Nat) : Nat :=
  let q := num / den
  let r := num % den
  if 2 * r < den then q
  else if den < 2 * r then q + 1
  else if q % 2 == 0 then q else q + 1

def scaleDown (num den : Nat) (e : Int) : Nat × Nat :=
  if e < 0 then (num * twoTo (-e).toNat, den) else (num, den * twoTo e.toNat)

/-- Exponent that gives `num / den` a mantissa of 53 bits, but not below the
smallest exponent there is. -/
def fittingExponent (num den : Nat) : Int :=
  let guess : Int := Int.ofNat (Nat.log2 num) - Int.ofNat (Nat.log2 den) - 52
  let s := scaleDown num den guess
  let e := if s.1 / s.2 < twoTo 52 then guess - 1 else guess
  max e (-1074)

/-- The double with this mantissa and exponent; the mantissa has at most 53 bits,
and fewer only for the smallest exponent. -/
def pack (negative : Bool) (mantissa : Nat) (exponent : Int) : Binary64 :=
  let (m, e) := if mantissa == twoTo 53 then (twoTo 52, exponent + 1) else (mantissa, exponent)
  if 971 < e then infinity negative
  else if m < twoTo 52 then ⟨signBit negative ||| UInt64.ofNat m⟩
  else ⟨signBit negative ||| (UInt64.ofNat (e + 1075).toNat <<< 52) ||| UInt64.ofNat (m - twoTo 52)⟩

/-- The double nearest to `± num / den`. -/
def ofFraction (negative : Bool) (num den : Nat) : Binary64 :=
  if num == 0 then zero negative
  else
    let e := fittingExponent num den
    let s := scaleDown num den e
    pack negative (roundDiv s.1 s.2) e

/-- The double nearest to `± digits * 10 ^ scale`, where `digits` has `count`
decimal digits at most. -/
def ofDecimal (negative : Bool) (digits count : Nat) (scale : Int) : Binary64 :=
  if digits == 0 then zero negative
  else if 400 < scale then infinity negative
  else if Int.ofNat count + scale < -400 then zero negative
  else if scale < 0 then ofFraction negative digits (tenTo (-scale).toNat)
  else ofFraction negative (digits * tenTo scale.toNat) 1

def fraction (x : Binary64) : Nat × Nat := scaleDown x.mantissa 1 (-x.exponent)

/-- The value, if it is an integer. -/
def toInt? (x : Binary64) : Option Int :=
  if x.isFinite then
    let (num, den) := x.fraction
    if num % den == 0 then
      some (if x.negative then -Int.ofNat (num / den) else Int.ofNat (num / den))
    else none
  else none

/-- Equality of values: both zeros are equal and NaN is equal to nothing. -/
def sameValue (x y : Binary64) : Bool :=
  !x.isNaN && !y.isNaN && (x == y || (x.isZero && y.isZero))

def scale (x : Binary64) (n : Nat) : Binary64 :=
  if x.isFinite then
    let (num, den) := x.fraction
    ofFraction x.negative (num * n) den
  else x

def signedNumerator (x : Binary64) : Int :=
  if x.negative then -Int.ofNat x.fraction.1 else Int.ofNat x.fraction.1

/-- The sum, rounded. A sum of zero is negative only if both parts are. -/
def add (x y : Binary64) : Binary64 :=
  if x.isNaN || y.isNaN then nan
  else if !x.isFinite then (if !y.isFinite && x.negative != y.negative then nan else x)
  else if !y.isFinite then y
  else
    let n := x.signedNumerator * Int.ofNat y.fraction.2 + y.signedNumerator * Int.ofNat x.fraction.2
    if n == 0 then zero (x.negative && y.negative)
    else ofFraction (decide (n < 0)) n.natAbs (x.fraction.2 * y.fraction.2)

end Binary64
end SdkBlueprint.Number
