import SdkBlueprint.Journal
import SdkBlueprint.Naming.Reserved
import SdkBlueprint.Registry.Basic
import SdkBlueprint.Settings

/-! Renaming of models whose display name is reserved. Only the display name
changes, so that references still find their targets. -/
namespace SdkBlueprint

structure Renaming where
  key : String
  oldName : String
  newName : String
  deriving DecidableEq

def Renaming.message (r : Renaming) : String :=
  let old := r.oldName
  let new := r.newName
  let key := r.key
  s!"Model name '{old}' is a reserved word. Renaming to '{new}' (schema key: {key})."

def Renaming.entry (r : Renaming) : Entry :=
  .finding .sanitizing ⟨.reservedName, .warning, r.message, some r.key⟩

namespace Settings

def sanitized (s : Settings) (name : String) : String :=
  Naming.rename s.reservedSuffix s.extraReservedWords name

end Settings

namespace Registry

/-- The renamings that the settings ask for, in registry order. -/
def renamings (settings : Settings) (reg : Registry) : List Renaming :=
  reg.records.entries.filterMap fun e =>
    let new := settings.sanitized e.2.name
    if new = e.2.name then none else some ⟨e.1, e.2.name, new⟩

def sanitize (settings : Settings) (reg : Registry) : Registry :=
  { reg with records := reg.records.map fun _ m => m.withName (settings.sanitized m.name) }

/-- Sanitizes and records every renaming; yields the keys of the renamed models. -/
def sanitizeLogged (settings : Settings) (reg : Registry) : Logged (Registry × List String) := do
  let rs := reg.renamings settings
  modify fun j => j ++ rs.map Renaming.entry
  return (reg.sanitize settings, rs.map Renaming.key)

end Registry
end SdkBlueprint
