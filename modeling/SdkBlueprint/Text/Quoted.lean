import SdkBlueprint.Text.ControlTable
import SdkBlueprint.Text.Letters

/-! Quoted text. A text is put between single quotes, or between double ones
when it holds a single quote and no double one. The quote, the backslash and
every character without a printed form are written as escapes. -/
namespace SdkBlueprint.Text

def isPrintable (c : Char) : Bool :=
  if c.toNat < 128 then 32 ≤ c.toNat && c.toNat ≤ 126
  else !inRanges unprintableRanges c.toNat

def hexDigit (n : Nat) : Char := Nat.digitChar (n % 16)

/-- The low `width` hexadecimal digits of `n`, most significant first. -/
def hexDigits : Nat → Nat → List Char
  | 0, _ => []
  | width + 1, n => hexDigits width (n / 16) ++ [hexDigit n]

def escapeQuoted (quote c : Char) : List Char :=
  if c == quote || c == '\\' then ['\\', c]
  else if c == '\n' then ['\\', 'n']
  else if c == '\r' then ['\\', 'r']
  else if c == '\t' then ['\\', 't']
  else if isPrintable c then [c]
  else if c.toNat < 0x100 then '\\' :: 'x' :: hexDigits 2 c.toNat
  else if c.toNat < 0x10000 then '\\' :: 'u' :: hexDigits 4 c.toNat
  else '\\' :: 'U' :: hexDigits 8 c.toNat

def quoteFor (cs : List Char) : Char :=
  if cs.contains '\'' && !cs.contains '"' then '"' else '\''

def quoteChars (cs : List Char) : List Char :=
  let q := quoteFor cs
  q :: cs.flatMap (escapeQuoted q) ++ [q]

end SdkBlueprint.Text
