import SdkBlueprint.Document.Display
import SdkBlueprint.Failure

/-! Validation facts of a property. -/
namespace SdkBlueprint
open SdkBlueprint.Document SdkBlueprint.Number

inductive ValidatorKind where
  | email
  | uuid
  | date
  | url
  | min
  | max
  | minLength
  | maxLength
  | pattern
  | notEmpty
  deriving DecidableEq

def ValidatorKind.all : List ValidatorKind :=
  [.email, .uuid, .date, .url, .min, .max, .minLength, .maxLength, .pattern, .notEmpty]

def ValidatorKind.label : ValidatorKind → String
  | .email => "email"
  | .uuid => "uuid"
  | .date => "date"
  | .url => "url"
  | .min => "min"
  | .max => "max"
  | .minLength => "minLength"
  | .maxLength => "maxLength"
  | .pattern => "pattern"
  | .notEmpty => "notEmpty"

def ValidatorKind.ofLabel? (label : String) : Option ValidatorKind :=
  ValidatorKind.all.find? fun k => k.label == label

inductive Param where
  | int (value : Int)
  | float (value : Binary64)
  | text (value : String)
  deriving DecidableEq

/-- A parameter is a number or a text; a truth value counts as one or zero. -/
def Param.ofValue? : Value → Option Param
  | .scalar (.bool b) => some (.int (if b then 1 else 0))
  | .scalar (.int n) => some (.int n)
  | .scalar (.float x) => some (.float x)
  | .scalar (.text s) => some (.text s)
  | _ => none

def Param.faults : List FieldFault :=
  [⟨"param.int", .notInteger⟩, ⟨"param.float", .notFloat⟩, ⟨"param.str", .notText⟩]

def Param.scalar : Param → Scalar
  | .int n => .int n
  | .float x => .float x
  | .text s => .text s

structure Validator where
  kind : ValidatorKind
  param : Option Param
  deriving DecidableEq

namespace Validator

/-- What two validators must share to count as repeats of each other. -/
def signature (v : Validator) : String × String :=
  (v.kind.label, match v.param with
    | some p => String.ofList p.scalar.quotedChars
    | none => "")

def isLong (v : Validator) : Bool := v.param.any fun p => p.scalar.isLong

def signature? (v : Validator) : Attempt (String × String) :=
  if v.isLong then misuse .badValue else .ok v.signature

def ofParam (kind : ValidatorKind) (param : Value) : Attempt Validator :=
  match Param.ofValue? param with
  | some p => .ok ⟨kind, some p⟩
  | none => .error (.invalid .validator Param.faults)

/-- A validator from a mapping with a kind and perhaps a parameter. -/
def ofValue (v : Value) : Attempt Validator :=
  let kind := (v.field "kind").textOf?.bind ValidatorKind.ofLabel?
  let kindFaults : List FieldFault :=
    if !v.hasField "kind" then [⟨"kind", .missing⟩]
    else if kind.isNone then [⟨"kind", .unknownName⟩]
    else []
  let given := v.field "param"
  let param := Param.ofValue? given
  let paramFaults := if given.isNull || param.isSome then [] else Param.faults
  match kind, kindFaults ++ paramFaults with
  | some k, [] => .ok ⟨k, param⟩
  | _, faults => .error (.invalid .validator faults)

def addNew (seen : List Validator) : List Validator → List Validator
  | [] => seen
  | v :: rest =>
    if seen.any fun w => w.signature == v.signature then addNew seen rest
    else addNew (seen ++ [v]) rest

def merge (groups : List (List Validator)) : List Validator := addNew [] groups.flatten

/-- Joins groups of validators whose signatures can all be taken. -/
def merge? (groups : List (List Validator)) : Attempt (List Validator) := do
  let _ ← groups.flatten.mapM signature?
  return merge groups

end Validator
end SdkBlueprint
