import SdkBlueprint.Document.Yaml.Timestamp

/-! Tags of nodes. A plain scalar without a tag has the one that its text looks
like. -/
namespace SdkBlueprint.Document.Yaml

inductive Tag where
  | null
  | bool
  | int
  | float
  | binary
  | timestamp
  | text
  | sequence
  | mapping
  | set
  | orderedMap
  | pairs
  | merge
  | value
  | unknown
  deriving DecidableEq

/-- The common beginning of the names of all known tags. -/
def tagHome : String := "tag:yaml.org,2002:"

def Tag.label : Tag → String
  | .null => "null"
  | .bool => "bool"
  | .int => "int"
  | .float => "float"
  | .binary => "binary"
  | .timestamp => "timestamp"
  | .text => "str"
  | .sequence => "seq"
  | .mapping => "map"
  | .set => "set"
  | .orderedMap => "omap"
  | .pairs => "pairs"
  | .merge => "merge"
  | .value => "value"
  | .unknown => "?"

def Tag.known : List Tag :=
  [.null, .bool, .int, .float, .binary, .timestamp, .text, .sequence, .mapping, .set,
   .orderedMap, .pairs, .merge, .value]

def Tag.ofName (name : String) : Tag :=
  (Tag.known.find? fun t => tagHome ++ t.label == name).getD .unknown

def trueWords : List String := ["yes", "true", "on"]

def falseWords : List String := ["no", "false", "off"]

def casings (word : String) : List String :=
  [word, String.ofList (word.toList.head?.toList.map Char.toUpper ++ word.toList.drop 1),
   String.ofList (word.toList.map Char.toUpper)]

def looksBool (s : String) : Bool := ((trueWords ++ falseWords).flatMap casings).contains s

def looksNull (s : String) : Bool := s == "" || s == "~" || (casings "null").contains s

def isDigitOrLine (c : Char) : Bool := c.isDigit || c == '_'

def isSign (c : Char) : Bool := c == '+' || c == '-'

def dropSign : List Char → List Char
  | c :: rest => if isSign c then rest else c :: rest
  | [] => []

/-- Groups of one or two digits below sixty, each after a colon, and the rest. -/
def sixtyGroups (fuel : Nat) (cs : List Char) : Nat × List Char :=
  match fuel, cs with
  | fuel + 1, ':' :: a :: b :: rest =>
    if a.isDigit && a < '6' && b.isDigit then
      let (n, rest) := sixtyGroups fuel rest
      (n + 1, rest)
    else if a.isDigit then
      let (n, rest) := sixtyGroups fuel (b :: rest)
      (n + 1, rest)
    else (0, cs)
  | _ + 1, ':' :: [a] => if a.isDigit then (1, []) else (0, cs)
  | _, _ => (0, cs)

def isHexOrLine (c : Char) : Bool := (Json.hexValue? c).isSome || c == '_'

def isOctalOrLine (c : Char) : Bool := ('0' ≤ c && c ≤ '7') || c == '_'

/-- Digits of base two, eight, ten or sixteen, or groups of base sixty. -/
def looksIntUnsigned : List Char → Bool
  | ['0'] => true
  | '0' :: 'b' :: ds => !ds.isEmpty && ds.all fun c => c == '0' || c == '1' || c == '_'
  | '0' :: 'x' :: ds => !ds.isEmpty && ds.all isHexOrLine
  | '0' :: ds => ds.all isOctalOrLine
  | c :: ds =>
    if c.isDigit then
      let (_, rest) := sixtyGroups (ds.length + 1) (ds.dropWhile isDigitOrLine)
      rest.isEmpty
    else false
  | [] => false

def looksInt (cs : List Char) : Bool := looksIntUnsigned (dropSign cs)

def looksExponent : List Char → Bool
  | [] => true
  | e :: s :: ds => (e == 'e' || e == 'E') && isSign s && !ds.isEmpty && ds.all Char.isDigit
  | _ => false

def looksInfinity (cs : List Char) : Bool :=
  [".inf", ".Inf", ".INF"].contains (String.ofList cs)

def looksNaN (cs : List Char) : Bool := [".nan", ".NaN", ".NAN"].contains (String.ofList cs)

/-- Digits with a point among or after them, perhaps in groups of base sixty. -/
def looksPointed (cs : List Char) : Bool :=
  match dropSign cs with
  | c :: ds =>
    c.isDigit &&
      (let after := ds.dropWhile isDigitOrLine
      let (groups, rest) := sixtyGroups (after.length + 1) after
      match rest with
      | '.' :: more =>
        let tail := more.dropWhile isDigitOrLine
        if groups == 0 then looksExponent tail else tail.isEmpty
      | _ => false)
  | [] => false

/-- A point before the digits; such a number has no sign. -/
def looksFraction : List Char → Bool
  | '.' :: c :: ds => c.isDigit && looksExponent (ds.dropWhile isDigitOrLine)
  | _ => false

def looksFloat (cs : List Char) : Bool :=
  looksPointed cs || looksFraction cs || looksInfinity (dropSign cs) || looksNaN cs

def looksTimestamp (cs : List Char) : Bool :=
  match timestampFields? cs with
  | some f => f.time.isSome || cs.length == 10
  | none => false

def Tag.ofPlain (s : String) : Tag :=
  let cs := s.toList
  if looksBool s then .bool
  else if looksFloat cs then .float
  else if looksInt cs then .int
  else if s == "<<" then .merge
  else if looksNull s then .null
  else if looksTimestamp cs then .timestamp
  else if s == "=" then .value
  else if ["!", "&", "*"].contains s then .unknown
  else .text

end SdkBlueprint.Document.Yaml
