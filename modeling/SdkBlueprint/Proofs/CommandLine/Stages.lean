import SdkBlueprint.CommandLine.Program
import SdkBlueprint.Proofs.Loading
import SdkBlueprint.Proofs.Population.Failures
import SdkBlueprint.Proofs.Services.Failures

/-! The stages of a conversion and what each may fail with. Every stage has a failure of its own,
and with it an exit code; the rest is what no check expects. -/
namespace SdkBlueprint
open SdkBlueprint.Document SdkBlueprint.Schema

/-- What the choice of settings may fail with. -/
def Failure.IsOfSettings (f : Failure) : Prop := f.IsUnexpected ∨ ∃ cause, f = .settings cause

/-- What a document may fail with until its version is known. -/
def Failure.IsOfDocument (f : Failure) : Prop := f.IsUnexpected ∨ ∃ cause, f = .document cause

namespace Settings

theorem parseProject_fails (label text : String) :
    FailsAs Failure.IsOfSettings (parseProject label text) := by
  unfold parseProject
  split
  · exact .ok _
  · exact .error (.inr ⟨_, rfl⟩)
  · exact .error (.inr ⟨_, rfl⟩)
  · exact .error (.inl rfl)

theorem resolve_fails (e : Environment) (flags : Flags) (folder : Option String) :
    FailsAs Failure.IsOfSettings (resolve e flags folder) := by
  have text : FailsAs Failure.IsOfSettings (e.text? (projectFile folder)) := by
    unfold Environment.text?
    split
    · split
      · exact .ok _
      · exact .error (.inl rfl)
    · exact .ok _
  have project : FailsAs Failure.IsOfSettings (projectLayer? e folder) := by
    refine text.bind fun found _ => ?_
    cases found with
    | none => exact .ok _
    | some text => exact (parseProject_fails _ _).bind fun _ _ => .ok _
  refine project.bind fun layer _ => ?_
  unfold ofLayers
  split
  · exact .ok _
  · exact .error (.inr ⟨_, rfl⟩)

end Settings

theorem display?_fails (v : Value) : FailsAs Failure.IsUnexpected v.display? := by
  unfold Value.display?
  split
  · exact .ok _
  · exact misuse_fails _

namespace Source

theorem checkVersion_fails (document : Value) :
    StepFails Failure.IsOfDocument (checkVersion document) := by
  have shows (v : Value) : StepFails Failure.IsOfDocument (Logged.attempt v.display?) :=
    (StepFails.attempt (display?_fails v)).mono fun _ => .inl
  unfold checkVersion
  split
  · exact (shows _).bind fun _ => .throw (.inr ⟨_, rfl⟩)
  · refine .given (.throw (.inr ⟨_, rfl⟩)) fun _ => (shows _).bind fun version => ?_
    refine .given (.throw (.inr ⟨_, rfl⟩)) fun _ => ?_
    exact .given (.note _) fun _ => .pure _

theorem load_fails (e : Environment) (source : String) :
    FailsAs Failure.IsOfDocument (load e source).result := by
  intro f failed
  have outcome := load_loads e source
  rw [failed] at outcome
  cases outcome with
  | document cause => exact .inr ⟨cause, rfl⟩
  | encoding => exact .inl rfl
  | slip => exact .inl rfl

end Source

theorem discovered_fails (document : Value) :
    FailsAs Failure.IsUnexpected (discovered document) := by
  refine (Services.componentsOf_fails _).bind fun components _ => ?_
  exact (fieldsOf_fails _).bind fun _ _ => Registry.discover_fails _

theorem infoOf_fails (document : Value) : FailsAs Failure.IsUnexpected (infoOf document) := by
  refine (fieldsOf_fails _).bind fun _ _ => ?_
  refine FailsAs.bind ?_ fun version _ => ?_
  · unfold versionText
    split
    · exact .ok _
    · exact (display?_fails _).map some
  exact (optionalText_fails _ _ _).bind fun title _ => .ok _

theorem models_fails (settings : Settings) (document : Value) :
    StepFails Failure.IsOfConversion (models settings document) := by
  refine ((StepFails.attempt (discovered_fails _)).mono fun _ => .inl).bind fun reg => ?_
  refine (StepFails.note _).bind fun _ => ?_
  refine StepFails.bind ?_ fun renamed => Population.populated_fails _
  exact (StepFails.modify _).bind fun _ => .pure _

theorem convert_fails (settings : Settings) (document : Value) :
    StepFails Failure.IsOfConversion (convert settings document) := by
  refine (models_fails _ _).bind fun reg => ?_
  refine ((Services.services_fails _ _).mono fun _ => .inl).bind fun services => ?_
  refine (StepFails.note _).bind fun _ => ?_
  exact ((StepFails.attempt (infoOf_fails _)).mono fun _ => .inl).bind fun info => .pure _

end SdkBlueprint
