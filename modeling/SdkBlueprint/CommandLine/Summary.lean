import SdkBlueprint.Blueprint.Basic
import SdkBlueprint.Console.Printer

/-! The summary of a blueprint: its models and operations as tables, and the
findings counted by code. -/
namespace SdkBlueprint.CommandLine
open SdkBlueprint.Console

def modelHeader : List String := ["Model", "Key", "Shape", "Extends", "Members"]

/-- Values of an enum, variants of a union, or properties. -/
def memberText (m : Model) : String :=
  if m.isEnum then ", ".intercalate (m.enumValues.getD [])
  else if m.subTypes.isEmpty then ", ".intercalate (m.properties.map Property.name)
  else " | ".intercalate (m.subTypes.map SubType.name)

def modelRow (m : Model) : List String :=
  [m.name, m.key, m.shape.label, m.parent.getD "", memberText m]

def operationHeader : List String := ["Service", "Method", "HTTP", "Path", "Returns"]

def operationRow (service : String) (o : Operation) : List String :=
  [service, o.methodName, o.method.label, o.path, o.returnType.describe]

def operationRows (b : Blueprint) : List (List String) :=
  b.services.flatMap fun s => s.operations.entries.map fun e => operationRow s.name e.2

def apiTitle (b : Blueprint) : String :=
  match b.info.title with
  | some title => if title == "" then "API" else title
  | none => "API"

def tableTitle (b : Blueprint) (noun : String) (count : Nat) : String :=
  let title := apiTitle b
  s!"{title} -- {noun} ({count})"

def countText (code : FindingCode) (count : Nat) : String :=
  let label := code.label
  s!"{label}: {count}"

def countTexts (j : Journal) : List String :=
  match j.counts with
  | [] => ["No diagnostics."]
  | counts => counts.map fun c => countText c.1 c.2

def showSummary (p : Printer) (b : Blueprint) (j : Journal) : Printing Unit := do
  let models := b.models.map modelRow
  p.table modelHeader models (some (tableTitle b "Models" models.length))
  let operations := operationRows b
  p.table operationHeader operations (some (tableTitle b "Operations" operations.length))
  (countTexts j).forM p.info

end SdkBlueprint.CommandLine
