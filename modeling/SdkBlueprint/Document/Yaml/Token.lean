import SdkBlueprint.Document.Yaml.Cursor

/-! Tokens of a YAML text. Indentation has become tokens for the begin and the end
of block collections. -/
namespace SdkBlueprint.Document.Yaml

inductive Directive where
  | version (major : Nat)
  | handle (name target : String)
  | other
  deriving DecidableEq

/-- A tag as it is written. Without a handle the rest is the whole name. -/
structure WrittenTag where
  handle : Option String
  rest : String
  deriving DecidableEq

inductive Token where
  | directive (directive : Directive)
  | documentStart
  | documentEnd
  | blockSequenceStart
  | blockMappingStart
  | blockEnd
  | flowSequenceStart
  | flowSequenceEnd
  | flowMappingStart
  | flowMappingEnd
  | flowEntry
  | blockEntry
  | key
  | value
  | alias (name : String)
  | anchor (name : String)
  | tag (tag : WrittenTag)
  | scalar (text : String) (plain : Bool)
  deriving DecidableEq

structure Tokens where
  tokens : List Token
  refusal : Option Refusal

end SdkBlueprint.Document.Yaml
