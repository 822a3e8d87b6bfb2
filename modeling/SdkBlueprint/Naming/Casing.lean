/-! Casing of identifiers. Pascal and camel case cut a text into pieces, at everything but ASCII
letters and digits and before every capital, and join the pieces with a capital at the front of
each. Kebab case puts hyphens between words by two rules, one after the other, and then in place of
everything else. -/
namespace SdkBlueprint.Naming

def isWordChar (c : Char) : Bool := c.isAlphanum

/-- The text begins with a character that belongs to no word. -/
def startsGap : List Char → Bool
  | [] => false
  | c :: _ => !isWordChar c

def consPiece (c : Char) : List (List Char) → List (List Char)
  | [] => [[c]]
  | piece :: more => (c :: piece) :: more

/-- The pieces of a text, empty ones included. A gap of any length cuts once, and so does the place
before a capital. -/
def pieces : List Char → List (List Char)
  | [] => [[]]
  | c :: rest =>
    if isWordChar c then
      let opened := consPiece c (pieces rest)
      if c.isUpper then [] :: opened else opened
    else if startsGap rest then pieces rest
    else [] :: pieces rest

def title : List Char → List Char
  | [] => []
  | c :: rest => c.toUpper :: rest.map Char.toLower

def uncapitalize : List Char → List Char
  | [] => []
  | c :: rest => c.toLower :: rest

def pascalChars (cs : List Char) : List Char :=
  ((pieces cs).filter fun piece => !piece.isEmpty).flatMap title

def camelChars (cs : List Char) : List Char := uncapitalize (pascalChars cs)

/-- A hyphen between two capitals where a small letter follows them. -/
def hyphenateAcronyms : List Char → List Char
  | c :: d :: e :: rest =>
    if c.isUpper && d.isUpper && e.isLower then c :: '-' :: d :: e :: hyphenateAcronyms rest
    else c :: hyphenateAcronyms (d :: e :: rest)
  | cs => cs

/-- A hyphen between a small letter or digit and a capital. -/
def hyphenateHumps : List Char → List Char
  | c :: d :: rest =>
    if (c.isLower || c.isDigit) && d.isUpper then c :: '-' :: d :: hyphenateHumps rest
    else c :: hyphenateHumps (d :: rest)
  | cs => cs

def hyphenateGaps : List Char → List Char
  | [] => []
  | c :: rest =>
    if isWordChar c then c :: hyphenateGaps rest
    else if startsGap rest then hyphenateGaps rest
    else '-' :: hyphenateGaps rest

def trimHyphens (cs : List Char) : List Char :=
  (cs.reverse.dropWhile (· == '-')).reverse.dropWhile (· == '-')

def kebabChars (cs : List Char) : List Char :=
  (trimHyphens (hyphenateGaps (hyphenateHumps (hyphenateAcronyms cs)))).map Char.toLower

def pascal (s : String) : String := String.ofList (pascalChars s.toList)

def camel (s : String) : String := String.ofList (camelChars s.toList)

def kebab (s : String) : String := String.ofList (kebabChars s.toList)

example : pascal "user_profile-HTTPError2x" = "UserProfileHTTPError2x" := by decide +kernel
example : camel "Hello-world" = "helloWorld" := by decide +kernel
example : kebab "APIUser" = "api-user" := by decide +kernel
example : kebab "getHTTPUrls" = "get-http-urls" := by decide +kernel

end SdkBlueprint.Naming
