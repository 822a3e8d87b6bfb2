import SdkBlueprint.Text.Quoted

/-! Types of a blueprint: named types and ordered unions or intersections of
types, each possibly an array or a dictionary with text keys. -/
namespace SdkBlueprint

inductive Composition where
  | union
  | intersection
  deriving DecidableEq

def Composition.label : Composition → String
  | .union => "union"
  | .intersection => "intersection"

/-- A single named type: a built-in name, the display name of a model, or a
literal value. -/
structure NamedType where
  name : String
  isArray : Bool
  isPrimitive : Bool
  isDictionary : Bool
  isLiteral : Bool
  deriving DecidableEq

inductive TypeExpr where
  | named (type : NamedType)
  | composite (members : List TypeExpr) (composition : Composition) (isArray isDictionary : Bool)

namespace TypeExpr

def primitive (name : String) : TypeExpr := .named ⟨name, false, true, false, false⟩

/-- A model, or one of the built-in types that are no primitives. -/
def reference (name : String) : TypeExpr := .named ⟨name, false, false, false, false⟩

def literal (value : String) : TypeExpr := .named ⟨value, false, true, false, true⟩

def any : TypeExpr := primitive "any"

def void : TypeExpr := primitive "void"

def isArray : TypeExpr → Bool
  | .named t => t.isArray
  | .composite _ _ isArray _ => isArray

def isDictionary : TypeExpr → Bool
  | .named t => t.isDictionary
  | .composite _ _ _ isDictionary => isDictionary

mutual

/-- A composite is primitive if it is no dictionary and all its members are. -/
def isPrimitive : TypeExpr → Bool
  | .named t => t.isPrimitive
  | .composite members _ _ isDictionary => !isDictionary && allPrimitive members

def allPrimitive : List TypeExpr → Bool
  | [] => true
  | t :: rest => isPrimitive t && allPrimitive rest

end

/-- The same type as the element of an array. -/
def asArray : TypeExpr → TypeExpr
  | .named t => .named { t with isArray := true }
  | .composite members composition _ isDictionary =>
    .composite members composition true isDictionary

/-- The same type as the value of a dictionary. -/
def asDictionary : TypeExpr → TypeExpr
  | .named t => .named { t with isDictionary := true, isPrimitive := false }
  | .composite members composition isArray _ => .composite members composition isArray true

def joiner : Composition → List Char
  | .union => [' ', '|', ' ']
  | .intersection => [' ', '&', ' ']

/-- Puts the marks of a dictionary and of an array around the text of a type. -/
def markChars (isArray isDictionary : Bool) (body : List Char) : List Char :=
  let body := if isDictionary then "dict[str, ".toList ++ body ++ [']'] else body
  if isArray then body ++ ['[', ']'] else body

mutual

def describeChars : TypeExpr → List Char
  | .named t =>
    markChars t.isArray t.isDictionary
      (if t.isLiteral then Text.quoteChars t.name.toList else t.name.toList)
  | .composite members composition isArray isDictionary =>
    let body := List.intercalate (joiner composition) (describeAll members)
    let body :=
      if 1 < members.length && (isArray || isDictionary) then '(' :: body ++ [')'] else body
    markChars isArray isDictionary body

def describeAll : List TypeExpr → List (List Char)
  | [] => []
  | t :: rest => describeChars t :: describeAll rest

end

def describe (t : TypeExpr) : String := String.ofList t.describeChars

end TypeExpr
end SdkBlueprint
