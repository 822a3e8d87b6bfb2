import SdkBlueprint.Blueprint.Model
import SdkBlueprint.Journal

/-! The state in which models are populated: the records built so far, the keys
of the finished ones and the journal. -/
namespace SdkBlueprint.Population

structure Workshop where
  records : Table Model
  finished : List String
  journal : Journal

/-- A step of population. What it has done stays when it fails. -/
abbrev Build (α : Type) := ExceptT Failure (StateM Workshop) α

namespace Build

def attempt {α : Type} : Attempt α → Build α
  | .ok v => pure v
  | .error f => throw f

def logged {α : Type} (step : Logged α) : Build α :=
  ExceptT.mk fun w =>
    let (result, journal) := step.run w.journal
    (result, { w with journal := journal })

def record? (key : String) : Build (Option Model) := do
  return (← get).records.get? key

def isFinished (key : String) : Build Bool := do
  return (← get).finished.contains key

def finish (key : String) (model : Model) : Build Unit :=
  modify fun w =>
    { w with records := w.records.put key model, finished := w.finished ++ [key] }

end Build
end SdkBlueprint.Population
