import SdkBlueprint.Document.Value
import SdkBlueprint.Failure

/-! Settings of a conversion. -/
namespace SdkBlueprint
open SdkBlueprint.Document

structure Settings where
  reservedSuffix : String
  extraReservedWords : List String
  defaultTag : String
  serviceSuffix : String
  deriving DecidableEq

namespace Settings

def defaults : Settings := ⟨"_", [], "Default", "Service"⟩

def textFaults (field : String) : Option Value → List FieldFault
  | none => []
  | some (.scalar (.text _)) => []
  | some _ => [⟨field, .notText⟩]

def suffixFaults : Option Value → List FieldFault
  | some (.scalar (.text "")) => [⟨"reserved_suffix", .tooShort⟩]
  | given => textFaults "reserved_suffix" given

def wordFaults (position : Nat) : List Value → List FieldFault
  | [] => []
  | w :: rest =>
    (if w.textOf?.isSome then []
      else [⟨"extra_reserved_words." ++ toString position, .notText⟩]) ++
    wordFaults (position + 1) rest

def wordListFaults : Option Value → List FieldFault
  | none => []
  | some (.list words) => wordFaults 0 words
  | some _ => [⟨"extra_reserved_words", .notList⟩]

/-- Faults of the given fields, in the order of the fields. -/
def faults (given : Value) : List FieldFault :=
  suffixFaults (given.field? "reserved_suffix") ++
  wordListFaults (given.field? "extra_reserved_words") ++
  textFaults "default_tag" (given.field? "default_tag") ++
  textFaults "service_suffix" (given.field? "service_suffix")

def textField (given : Value) (field default : String) : String :=
  ((given.field? field).bind Value.textOf?).getD default

def wordField (given : Value) : List String :=
  match given.field? "extra_reserved_words" with
  | some (.list words) => words.filterMap Value.textOf?
  | _ => defaults.extraReservedWords

/-- Settings from a mapping; fields that are not given have their defaults, and
fields that do not exist are ignored. -/
def check (given : Value) : Except (List FieldFault) Settings :=
  match faults given with
  | [] =>
    .ok
      { reservedSuffix := textField given "reserved_suffix" defaults.reservedSuffix
        extraReservedWords := wordField given
        defaultTag := textField given "default_tag" defaults.defaultTag
        serviceSuffix := textField given "service_suffix" defaults.serviceSuffix }
  | fs => .error fs

def ofValue (given : Value) : Attempt Settings :=
  match check given with
  | .ok s => .ok s
  | .error fs => .error (.invalid .settings fs)

end Settings
end SdkBlueprint
