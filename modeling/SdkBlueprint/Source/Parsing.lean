import SdkBlueprint.Document.Json.Reader
import SdkBlueprint.Document.Yaml.Content
import SdkBlueprint.Source.Format

/-! Documents from text. JSON is tried first unless the text is known to be YAML;
its errors are the more precise ones. -/
namespace SdkBlueprint.Source
open SdkBlueprint.Document

def kindLabel : Value → String
  | .scalar .null => "empty document"
  | .scalar (.bool _) => "bool"
  | .scalar (.int _) => "int"
  | .scalar (.float _) => "float"
  | .scalar (.text _) => "str"
  | .scalar (.bytes _) => "bytes"
  | .scalar (.date _) => "date"
  | .scalar (.moment _) => "datetime"
  | .list _ => "list"
  | .map _ => "dict"
  | .set _ => "set"

def objectOf (origin : String) (v : Value) : Attempt Value :=
  if v.isMap then .ok v else .error (.document (.notObject origin (kindLabel v)))

/-- Reads YAML, after JSON has failed for a reason or has not been tried. -/
def parseYaml (origin : String) (jsonReason : Option String) (text : String) : Attempt Value :=
  match Yaml.read text with
  | .ok v => objectOf origin v
  | .error (.malformed reason) => .error (.document (.unparsable origin jsonReason reason))
  | .error (.misuse cause) => .error (.misuse cause)

def parse (text : String) (format : Option Format) (origin : String) : Attempt Value :=
  match format with
  | some .yaml => parseYaml origin none text
  | _ =>
    match Json.read text with
    | .ok v => objectOf origin v
    | .error .longInteger => .error (.misuse .badValue)
    | .error (.malformed reason) =>
      if format.isSome then .error (.document (.invalidJson origin reason))
      else parseYaml origin (some reason) text

end SdkBlueprint.Source
