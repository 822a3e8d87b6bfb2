import SdkBlueprint.Document.Yaml.Cursor

/-! Bytes written in base 64. Characters that are no digits are skipped; the text
ends at its padding. -/
namespace SdkBlueprint.Document.Yaml

def base64Digit? (c : Char) : Option Nat :=
  if c.isUpper then some (c.toNat - 'A'.toNat)
  else if c.isLower then some (c.toNat - 'a'.toNat + 26)
  else if c.isDigit then some (c.toNat - '0'.toNat + 52)
  else if c == '+' then some 62
  else if c == '/' then some 63
  else none

/-- `place` counts the digits of the current group of four, `carry` is what is left
of them, and `pads` counts the padding since the last digit. -/
def base64From (place carry pads : Nat) : List Char → Scan (List UInt8)
  | [] => if place == 0 then .ok [] else malformed "incorrect padding"
  | c :: rest =>
    if c == '=' then
      if 2 ≤ place && 4 ≤ place + pads + 1 then .ok []
      else base64From place carry (if 2 ≤ place then pads + 1 else pads) rest
    else
      match base64Digit? c with
      | none => base64From place carry pads rest
      | some d =>
        if place == 0 then base64From 1 d 0 rest
        else if place == 1 then
          (base64From 2 (d % 16) 0 rest).map fun bs => UInt8.ofNat (carry * 4 + d / 16) :: bs
        else if place == 2 then
          (base64From 3 (d % 4) 0 rest).map fun bs => UInt8.ofNat (carry * 16 + d / 4) :: bs
        else (base64From 0 0 0 rest).map fun bs => UInt8.ofNat (carry * 64 + d) :: bs

def base64 (text : String) : Scan (List UInt8) :=
  if text.toList.all fun c => c.toNat < 128 then base64From 0 0 0 text.toList
  else malformed "expected base 64"

end SdkBlueprint.Document.Yaml
