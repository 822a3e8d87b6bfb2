import SdkBlueprint.Environment
import SdkBlueprint.Source.Parsing
import SdkBlueprint.Source.Url
import SdkBlueprint.Source.Version
import SdkBlueprint.Text.Blank

/-! Documents from where they are: a file, the network or the input of the
program. -/
namespace SdkBlueprint.Source
open SdkBlueprint.Document

structure Found where
  text : String
  format : Option Format

def fromInput (e : Environment) : Attempt Found :=
  if Text.allBlank e.inputText then .error (.document .emptyInput)
  else .ok ⟨e.inputText, none⟩

def fromNetwork (e : Environment) (url : String) : Attempt Found :=
  match e.reply url with
  | .failed reason => .error (.document (.unreachable url reason))
  | .answer status contentType body =>
    if 200 ≤ status && status < 300 then
      .ok ⟨body, (Format.ofContentType? contentType).or (Format.ofPath? (urlPath url))⟩
    else .error (.document (.httpStatus status url))

def fromFile (e : Environment) (source : String) : Attempt Found := do
  let path := FilePath.ofText source
  match ← e.text? path with
  | none => .error (.document (.notFound source))
  | some text =>
    if Text.allBlank text then .error (.document (.emptyFile source))
    else .ok ⟨text, Format.ofPath? path⟩

inductive Origin where
  | input
  | network
  | file

/-- A dash means the input of the program. -/
def originOf (source : String) : Origin :=
  if source == "-" then .input else if isUrl source then .network else .file

def originMessage (source : String) : Origin → String
  | .input => "Reading document from stdin"
  | .network => s!"Fetching document from {source}"
  | .file => s!"Reading document from {source}"

def find (e : Environment) (source : String) : Origin → Attempt Found
  | .input => fromInput e
  | .network => fromNetwork e source
  | .file => fromFile e source

def load (e : Environment) (source : String) : Logged Value := do
  let origin := originOf source
  Logged.remark .source .debug (originMessage source origin)
  let found ← Logged.attempt (find e source origin)
  Logged.attempt (parse found.text found.format source)

end SdkBlueprint.Source
