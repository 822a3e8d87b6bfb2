import SdkBlueprint.FilePath
import SdkBlueprint.Text.Letters
import SdkBlueprint.Text.Parts

/-! Formats of documents, and the signs by which they are known. -/
namespace SdkBlueprint.Source

inductive Format where
  | json
  | yaml
  deriving DecidableEq

namespace Format

def ofSuffix? (suffix : String) : Option Format :=
  let suffix := Text.lower suffix
  if suffix == ".json" then some .json
  else if suffix == ".yaml" || suffix == ".yml" then some .yaml
  else none

def ofPath? (p : FilePath) : Option Format := ofSuffix? p.suffix

/-- A content type that speaks of JSON is JSON, whatever else it speaks of. -/
def ofContentType? (contentType : String) : Option Format :=
  let cs := Text.lowerChars contentType.toList
  if Text.mentions "json".toList cs then some .json
  else if Text.mentions "yaml".toList cs || Text.mentions "yml".toList cs then some .yaml
  else none

end Format
end SdkBlueprint.Source
