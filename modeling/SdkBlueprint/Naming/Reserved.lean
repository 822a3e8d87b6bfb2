import SdkBlueprint.Text.Letters

/-! Reserved identifiers: keywords and global type names that generated client
code cannot use for its own classes. They are compared without regard to case. -/
namespace SdkBlueprint.Naming
open SdkBlueprint.Text

def keywords : List String :=
  ["any", "as", "boolean", "break", "case", "catch", "class", "const", "constructor",
   "continue", "debugger", "declare", "default", "delete", "do", "else", "enum", "export",
   "extends", "false", "finally", "for", "from", "function", "get", "if", "implements",
   "import", "in", "instanceof", "interface", "is", "let", "module", "namespace", "new",
   "null", "number", "of", "package", "private", "protected", "public", "require", "return",
   "set", "static", "string", "super", "switch", "symbol", "this", "throw", "true", "try",
   "type", "typeof", "var", "void", "while", "with", "yield"]

def globalTypes : List String :=
  ["array", "date", "error", "map", "object", "promise", "record", "regexp"]

def isReserved (extra : List String) (name : String) : Bool :=
  let low := lower name
  keywords.contains low || globalTypes.contains low || extra.any fun w => lower w == low

/-- The name with the suffix if it is reserved. -/
def rename (suffix : String) (extra : List String) (name : String) : String :=
  if isReserved extra name then name ++ suffix else name

end SdkBlueprint.Naming
