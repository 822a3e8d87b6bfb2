import SdkBlueprint.Console.Picture
import SdkBlueprint.Failure

/-! Console markup: tags in brackets set the style of the text between them, and
names between colons stand for pictographs. Here only the text counts. A backslash
before a tag makes it ordinary text. -/
namespace SdkBlueprint.Console

def beginsTag (c : Char) : Bool := c.isLower || c == '#' || c == '/' || c == '@'

def untilClosed : List Char → Option (List Char × List Char)
  | [] => none
  | c :: rest =>
    if c == ']' then some ([], rest)
    else if c == '[' then none
    else (untilClosed rest).map fun r => (c :: r.1, r.2)

/-- A tag after its opening bracket, and what follows it. -/
def tag? : List Char → Option (List Char × List Char)
  | c :: rest => if beginsTag c then (untilClosed rest).map fun r => (c :: r.1, r.2) else none
  | [] => none

/-- A tag with the backslashes before it, and what follows it. -/
def slashedTag? (cs : List Char) : Option (Nat × List Char × List Char) :=
  match cs.dropWhile (· == '\\') with
  | '[' :: rest => (tag? rest).map fun r => ((cs.takeWhile (· == '\\')).length, r.1, r.2)
  | _ => none

inductive Piece where
  | plain (text : List Char)
  | tag (slashes : Nat) (content : List Char)
  deriving DecidableEq

/-- Pieces with a character before them; plain text stays in one piece. -/
def addChar (c : Char) : List Piece → List Piece
  | .plain text :: rest => .plain (c :: text) :: rest
  | pieces => .plain [c] :: pieces

/-- Every step takes at least one character. -/
def piecesFrom (fuel : Nat) (cs : List Char) : List Piece :=
  match fuel, cs with
  | 0, _ => []
  | _, [] => []
  | fuel + 1, c :: rest =>
    match slashedTag? (c :: rest) with
    | some (slashes, content, after) => .tag slashes content :: piecesFrom fuel after
    | none => addChar c (piecesFrom fuel rest)

def pieces (cs : List Char) : List Piece := piecesFrom cs.length cs

def written (content : List Char) : List Char := '[' :: content ++ [']']

def escapePiece : Piece → List Char
  | .plain text => text
  | .tag slashes content => List.replicate (2 * slashes + 1) '\\' ++ written content

/-- A single backslash at the end is doubled, since a tag may follow. -/
def escapeEnd (cs : List Char) : List Char :=
  match cs.reverse with
  | '\\' :: '\\' :: _ => cs
  | '\\' :: _ => cs ++ ['\\']
  | _ => cs

def escape (cs : List Char) : List Char := escapeEnd ((pieces cs).flatMap escapePiece)

def styleAlias (word : List Char) : List Char :=
  match word with
  | ['b'] => "bold".toList
  | ['d'] => "dim".toList
  | ['i'] => "italic".toList
  | ['u'] => "underline".toList
  | ['r'] => "reverse".toList
  | ['c'] => "conceal".toList
  | ['s'] => "strike".toList
  | ['o'] => "overline".toList
  | ['u', 'u'] => "underline2".toList
  | _ => word

def styleName (cs : List Char) : List Char :=
  let words := (Text.lowerChars (Text.trimChars cs)).splitBy fun a b =>
    !Text.isBlank a && !Text.isBlank b
  List.flatten (words.map styleAlias)

def tagName (content : List Char) : List Char := content.takeWhile (· != '=')

/-- Styles that are open after a tag, the newest first. A closing tag without a name
closes the newest one. -/
def applyTag (opened : List (List Char)) (content : List Char) : Attempt (List (List Char)) :=
  match tagName content with
  | '/' :: name =>
    let name := Text.trimChars name
    if name.isEmpty then
      match opened with
      | [] => misuse .unmatchedTag
      | _ :: rest => .ok rest
    else if opened.contains (styleName name) then .ok (opened.erase (styleName name))
    else misuse .unmatchedTag
  | name => .ok (styleName name :: opened)

/-- A backslash before a bracket is dropped. -/
def unslashed : List Char → List Char
  | '\\' :: '[' :: rest => '[' :: unslashed rest
  | c :: rest => c :: unslashed rest
  | [] => []

/-- Text of the pieces. Of several backslashes before a tag half are kept. A name of
a pictograph does not reach beyond its piece. -/
def readPieces (opened : List (List Char)) : List Piece → Attempt (List Char)
  | [] => .ok []
  | .plain text :: rest => (readPieces opened rest).map (withPictures (unslashed text) ++ ·)
  | .tag slashes content :: rest =>
    let kept := List.replicate (slashes / 2) '\\'
    if slashes % 2 == 1 then
      (readPieces opened rest).map fun more => kept ++ withPictures (written content) ++ more
    else do
      let opened ← applyTag opened content
      let more ← readPieces opened rest
      return kept ++ more

/-- Characters that move a terminal's cursor are not shown. -/
def isShown (c : Char) : Bool :=
  let n := c.toNat
  !(n == 7 || n == 8 || n == 11 || n == 12 || n == 13)

def shownText (markup : List Char) : Attempt (List Char) :=
  (readPieces [] (pieces markup)).map fun cs => cs.filter isShown

end SdkBlueprint.Console
