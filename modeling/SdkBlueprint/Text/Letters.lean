import SdkBlueprint.Text.LetterTable

/-! Lower case for all of Unicode. Every character has a mapping of its own
except the capital sigma, which becomes a final sigma at the end of a word, and
the dotted capital I, which becomes two characters. -/
namespace SdkBlueprint.Text

def inRanges (table : List (Nat × Nat)) (n : Nat) : Bool :=
  table.any fun r => r.1 ≤ n && n ≤ r.2

def isCased (c : Char) : Bool :=
  c.isAlpha || (128 ≤ c.toNat && inRanges casedRanges c.toNat)

def isCaseIgnorable (c : Char) : Bool :=
  inRanges ignorableRanges c.toNat

def CaseRun.covers (r : CaseRun) (n : Nat) : Bool :=
  r.first ≤ n && n ≤ r.last && (n - r.first) % r.step == 0

/-- Lower-case form of one character away from its context. -/
def lowerChar (c : Char) : List Char :=
  if c.toNat < 128 then [c.toLower]
  else if c.toNat == 0x130 then ['i', Char.ofNat 0x307]
  else
    match caseRuns.find? (·.covers c.toNat) with
    | some r => [Char.ofNat (Int.ofNat c.toNat + r.offset).toNat]
    | none => [c]

/-- The first character that matters for case is a cased one. -/
def startsCased (cs : List Char) : Bool :=
  match cs.dropWhile isCaseIgnorable with
  | c :: _ => isCased c
  | [] => false

/-- `before` tells whether the last character that matters for case was cased. -/
def lowerFrom (before : Bool) : List Char → List Char
  | [] => []
  | c :: rest =>
    let head :=
      if c.toNat == 0x3A3 then
        [Char.ofNat (if before && !startsCased rest then 0x3C2 else 0x3C3)]
      else lowerChar c
    head ++ lowerFrom (if isCaseIgnorable c then before else isCased c) rest

def lowerChars (cs : List Char) : List Char := lowerFrom false cs

def lower (s : String) : String := String.ofList (lowerChars s.toList)

end SdkBlueprint.Text
