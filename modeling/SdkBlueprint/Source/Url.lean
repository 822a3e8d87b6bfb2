import SdkBlueprint.Document.Json.Reader
import SdkBlueprint.FilePath

/-! The path in a URL. -/
namespace SdkBlueprint.Source

def isUrl (source : String) : Bool :=
  "http://".toList.isPrefixOf source.toList || "https://".toList.isPrefixOf source.toList

/-- Replaces percent escapes. Escapes beyond ASCII become the replacement character;
no known suffix has one. -/
def percentDecoded : List Char → List Char
  | [] => []
  | '%' :: a :: b :: rest =>
    match Document.Json.hexValue? a, Document.Json.hexValue? b with
    | some m, some n =>
      let code := m * 16 + n
      Char.ofNat (if code < 128 then code else 0xFFFD) :: percentDecoded rest
    | _, _ => '%' :: percentDecoded (a :: b :: rest)
  | c :: rest => c :: percentDecoded rest

/-- Two dots take the part before them away. -/
def withoutDots (parts : List String) : List String :=
  parts.foldl (fun acc p => if p == ".." then acc.dropLast else acc ++ [p]) []

def rawPath (url : String) : List Char :=
  let afterScheme := ((url.toList.dropWhile (· != '/')).drop 2)
  let bare := afterScheme.takeWhile fun c => c != '?' && c != '#'
  bare.dropWhile (· != '/')

def urlPath (url : String) : FilePath :=
  let raw := FilePath.ofText (String.ofList (rawPath url))
  let plain := "/".intercalate (withoutDots raw.parts)
  .ofText (String.ofList (percentDecoded plain.toList))

end SdkBlueprint.Source
