import SdkBlueprint.Number.Binary64

/-! Shortest decimals. Of all decimals that read back as a given double the one
with the fewest digits is taken, and of those the nearest to the double. -/
namespace SdkBlueprint.Number

/-- Digits `digits` with the point before them, times `10 ^ point`. -/
structure Decimal where
  digits : Nat
  count : Nat
  point : Int

structure Neighbourhood where
  low : Nat
  value : Nat
  high : Nat
  den : Nat
  closed : Bool

/-- Half-way points to the neighbours, over a denominator four times as large.
Below a power of two the lower neighbour is half as far away. -/
def Binary64.neighbourhood (x : Binary64) : Neighbourhood :=
  let (num, den) := Binary64.scaleDown 1 1 (-x.exponent)
  let m := x.mantissa
  let below := if m == twoTo 52 && 1 < x.exponentField then 1 else 2
  { low := (4 * m - below) * num
    value := 4 * m * num
    high := (4 * m + 2) * num
    den := 4 * den
    closed := m % 2 == 0 }

def Neighbourhood.holds (b : Neighbourhood) (num den : Nat) : Bool :=
  let n := num * b.den
  if b.closed then b.low * den ≤ n && n ≤ b.high * den
  else b.low * den < n && n < b.high * den

def scaleTen (num den : Nat) (e : Int) : Nat × Nat :=
  if e < 0 then (num, den * tenTo (-e).toNat) else (num * tenTo e.toNat, den)

/-- The number of digits before the point of `num / den`, which is negative or
zero for a fraction below one tenth. -/
def pointOf (num den : Nat) : Int :=
  if den ≤ num then Int.ofNat (Nat.toDigits 10 (num / den)).length
  else
    let rec down (fuel : Nat) (num : Nat) (point : Int) : Int :=
      match fuel with
      | 0 => point
      | fuel + 1 => if den ≤ num * 10 then point else down fuel (num * 10) (point - 1)
    down 400 num 0

/-- The better of the two neighbours of the value on the grid with `count`
digits, if one of them reads back. -/
def Neighbourhood.onGrid (b : Neighbourhood) (point : Int) (count : Nat) : Option Nat :=
  let (num, den) := scaleTen b.value b.den (Int.ofNat count - point)
  let below := num / den
  let reads (n : Nat) : Bool :=
    let (p, q) := scaleTen n 1 (point - Int.ofNat count)
    b.holds p q
  let rest := num % den
  let preferBelow := 2 * rest < den || (2 * rest == den && below % 2 == 0)
  match reads below, reads (below + 1) with
  | true, true => some (if preferBelow then below else below + 1)
  | true, false => some below
  | false, true => some (below + 1)
  | false, false => none

def trailingZeros (fuel n : Nat) : Nat :=
  match fuel with
  | 0 => 0
  | fuel + 1 => if n % 10 == 0 && n != 0 then trailingZeros fuel (n / 10) + 1 else 0

def shortest (x : Binary64) : Decimal :=
  let b := x.neighbourhood
  let point := pointOf b.value b.den
  let found := (List.range 17).findSome? fun k => (b.onGrid point (k + 1)).map fun d => (d, k + 1)
  let (d, count) := found.getD (b.value / b.den, 17)
  let (d, count, point) :=
    if d == tenTo count then (1, 1, point + 1) else
      let z := trailingZeros 17 d
      (d / tenTo z, count - z, point)
  { digits := d, count := count, point := point }

/-- How a decimal is written: digits with a point from `1e-4` up to `1e16`, an
exponent with a sign and two digits at least beyond that, and a fraction part
always. -/
def Decimal.write (d : Decimal) : List Char :=
  let ds := Nat.toDigits 10 d.digits
  let zeros (n : Nat) : List Char := List.replicate n '0'
  if -4 < d.point && d.point ≤ 16 then
    if d.point ≤ 0 then '0' :: '.' :: (zeros (-d.point).toNat ++ ds)
    else
      let p := d.point.toNat
      if ds.length ≤ p then ds ++ zeros (p - ds.length) ++ ['.', '0']
      else ds.take p ++ '.' :: ds.drop p
  else
    let e := d.point - 1
    let body := match ds with
      | [c] => [c]
      | c :: rest => c :: '.' :: rest
      | [] => []
    let exp := Nat.toDigits 10 e.natAbs
    body ++ 'e' :: (if e < 0 then '-' else '+') :: (zeros (2 - exp.length) ++ exp)

/-- Text of a double, with `inf` and `nan` for the values that are not finite. -/
def Binary64.chars (x : Binary64) : List Char :=
  if x.isNaN then ['n', 'a', 'n']
  else
    let body :=
      if !x.isFinite then ['i', 'n', 'f']
      else if x.isZero then ['0', '.', '0']
      else (shortest x).write
    if x.negative then '-' :: body else body

def Binary64.text (x : Binary64) : String := String.ofList x.chars

end SdkBlueprint.Number
