import SdkBlueprint.Document.Scalar

/-! Document values: what a parsed JSON or YAML text holds. The entries of a
mapping keep their order. -/
namespace SdkBlueprint.Document

inductive Value where
  | scalar (value : Scalar)
  | list (items : List Value)
  | map (entries : List (Scalar × Value))
  | set (members : List Scalar)

namespace Value

def null : Value := .scalar .null

def text (s : String) : Value := .scalar (.text s)

def isNull : Value → Bool
  | .scalar .null => true
  | _ => false

def isFalse : Value → Bool
  | .scalar (.bool false) => true
  | _ => false

def isMap : Value → Bool
  | .map _ => true
  | _ => false

def truthy : Value → Bool
  | .scalar s => s.truthy
  | .list items => !items.isEmpty
  | .map entries => !entries.isEmpty
  | .set members => !members.isEmpty

def textOf? : Value → Option String
  | .scalar (.text s) => some s
  | _ => none

def entry? (key : Scalar) : List (Scalar × Value) → Option Value
  | [] => none
  | (k, v) :: rest => if k.same key then some v else entry? key rest

def member? (name : String) : List (Scalar × Value) → Option Value
  | [] => none
  | (.text k, v) :: rest => if k = name then some v else member? name rest
  | _ :: rest => member? name rest

/-- The field of a mapping; other values have no fields. -/
def field? (name : String) : Value → Option Value
  | .map entries => member? name entries
  | _ => none

def hasField (v : Value) (name : String) : Bool := (v.field? name).isSome

/-- The field of a mapping, null when it is absent. -/
def field (v : Value) (name : String) : Value := (v.field? name).getD null

/-- Entry under a key, replaced in its place or added at the end. -/
def putScalar (key : Scalar) (value : Value) : List (Scalar × Value) → List (Scalar × Value)
  | [] => [(key, value)]
  | (k, v) :: rest =>
    if k.same key then (k, value) :: rest else (k, v) :: putScalar key value rest

/-- A mapping from pairs: of equal keys the first keeps its place and the last
gives the value. -/
def mapOf (pairs : List (Scalar × Value)) : List (Scalar × Value) :=
  pairs.foldl (fun es p => putScalar p.1 p.2 es) []

def addMember (s : Scalar) (members : List Scalar) : List Scalar :=
  if members.any (·.same s) then members else members ++ [s]

/-- What iterating over a value yields: the items of a list, the keys of a
mapping, the characters of a text. -/
def elements? : Value → Option (List Value)
  | .list items => some items
  | .map entries => some (entries.map fun e => .scalar e.1)
  | .set members => some (members.map .scalar)
  | .scalar (.text s) => some (s.toList.map fun c => text (String.singleton c))
  | .scalar (.bytes b) => some (b.map fun n => .scalar (.int n.toNat))
  | .scalar _ => none

theorem sizeOf_lt_of_member? {name : String} {entries : List (Scalar × Value)} {v : Value}
    (h : member? name entries = some v) : sizeOf v < sizeOf entries := by
  induction entries with
  | nil => simp [member?] at h
  | cons e rest ih =>
    obtain ⟨k, w⟩ := e
    have step (h : member? name rest = some v) : sizeOf v < sizeOf ((k, w) :: rest) := by
      have := ih h; simp; omega
    have here (h : w = v) : sizeOf v < sizeOf ((k, w) :: rest) := by subst h; simp; omega
    cases k with
    | text s =>
      by_cases hs : s = name
      · simp [member?, hs] at h; exact here h
      · simp [member?, hs] at h; exact step h
    | _ => simp [member?] at h; exact step h

theorem sizeOf_lt_of_field? {name : String} {node v : Value} (h : node.field? name = some v) :
    sizeOf v < sizeOf node := by
  cases node with
  | map entries => have := sizeOf_lt_of_member? h; simp; omega
  | _ => simp [field?] at h

end Value
end SdkBlueprint.Document
