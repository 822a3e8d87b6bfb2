import SdkBlueprint.Proofs.Population.Flattening
import SdkBlueprint.Proofs.Schema.Failures

/-! Failures of population. Apart from what no check expects there is one: a composition that leads
back to where it came from. -/
namespace SdkBlueprint
open SdkBlueprint.Document SdkBlueprint.Schema

/-- What a conversion may fail with. -/
def Failure.IsOfConversion (f : Failure) : Prop :=
  f.IsUnexpected ∨ ∃ schema reference, f = .circular schema reference

namespace Population

variable {nameOf : String → String} {schemas : Table Value} {α : Type}

theorem build_attempt {P : Failure → Prop} {x : Attempt α} (h : FailsAs P x) :
    StepFails P (Build.attempt x) := by
  cases x with
  | error e => exact .throw (h e rfl)
  | ok a => exact .pure a

theorem build_logged {P : Failure → Prop} {step : Logged α} (h : StepFails P step) :
    StepFails P (Build.logged step) := fun w => h w.journal

theorem record?_fails {P : Failure → Prop} (key : String) : StepFails P (Build.record? key) :=
  fun _ => .ok _

theorem isFinished_fails {P : Failure → Prop} (key : String) :
    StepFails P (Build.isFinished key) := fun _ => .ok _

theorem finish_fails {P : Failure → Prop} (key : String) (model : Model) :
    StepFails P (Build.finish key model) := .modify _

theorem warn_fails {P : Failure → Prop} (stage : Stage) (code : FindingCode)
    (message subject : String) : StepFails P (Logged.warn stage code message subject) := .note _

theorem noteImplicit_fails (schema subject : Value) :
    StepFails Failure.IsUnexpected (noteImplicit schema subject) := by
  unfold noteImplicit
  split
  · exact (StepFails.attempt (optionalText_fails _ _ _)).bind fun about => .note _
  · exact .pure ()

theorem discriminatorFacet_fails (name schema : Value) (owner : String) :
    StepFails Failure.IsUnexpected (discriminatorFacet nameOf name schema owner) := by
  unfold discriminatorFacet
  split
  · refine (StepFails.attempt (discriminator_fails schema)).bind fun found => ?_
    split
    · exact .pure none
    · exact (noteImplicit_fails _ _).bind fun _ => .pure _
  · exact .pure none

theorem property_fails (name schema : Value) (required : Bool) (owner : String) :
    StepFails Failure.IsUnexpected (property nameOf name schema required owner) := by
  refine (discriminatorFacet_fails _ _ _).bind fun disc => ?_
  refine (StepFails.attempt (resolve_fails _)).bind fun type => ?_
  refine (StepFails.attempt (validators_fails _)).bind fun facts => ?_
  simp only []
  split
  · exact .pure _
  · exact .throw rfl

theorem ownProperties_fails (schema : Value) (owner : String) :
    StepFails Failure.IsUnexpected (ownProperties nameOf schema owner) := by
  refine (StepFails.attempt (fieldsOf_fails _)).bind fun declared => ?_
  exact .mapM fun e _ => property_fails _ _ _ _

theorem subTypes_fails (oneOf : Value) (disc : Option Discriminator) :
    FailsAs Failure.IsUnexpected (subTypes nameOf oneOf disc) := by
  cases disc with
  | none => exact FailsAs.map _ (refNames_fails _)
  | some d => exact .ok _

theorem finishedUnion_fails (model : Model) (schema : Value) :
    StepFails Failure.IsUnexpected (finishedUnion nameOf model schema) := by
  refine (StepFails.attempt (iterate_fails _)).bind fun members => ?_
  refine .given (warn_fails _ _ _ _) fun _ => ?_
  refine (StepFails.attempt (discriminator_fails schema)).bind fun disc => ?_
  refine .given (noteImplicit_fails _ _) fun _ => ?_
  exact (StepFails.attempt (subTypes_fails _ disc)).bind fun subs => .pure _

theorem overlay?_fails (t : Table Property) (p : Property) :
    FailsAs Failure.IsUnexpected (overlay? t p) := by
  rw [overlay?_eq, Validator.merge?_eq]
  refine FailsAs.map _ ?_
  split
  · exact misuse_fails _
  · exact .ok _

theorem addProperties_fails (current source : String) (f : Flattening) (ps : List Property) :
    StepFails Failure.IsUnexpected (f.addProperties current source ps) := by
  refine (StepFails.foldlM (fun acc p => ?_) _ ps).bind fun properties => .pure _
  split
  · exact (warn_fails _ _ _ _).bind fun _ => .attempt (overlay?_fails _ _)
  · exact .attempt (overlay?_fails _ _)

theorem addInline_fails (current : String) (f : Flattening) (member : Value) :
    StepFails Failure.IsUnexpected (f.addInline nameOf current member) := by
  refine (ownProperties_fails _ _).bind fun ps => (addProperties_fails _ _ _ _).bind fun f => ?_
  refine .attempt ((FailsAs.mapM fun v _ => ?_).bind fun scalars _ => .ok _)
  split
  · exact .ok _
  · exact misuse_fails _

/-- Population of the targets of a chain fails only as conversions do. -/
def EnsureFails {chain : List String} (ensure : Ensure schemas chain) : Prop :=
  ∀ target registered outside, StepFails Failure.IsOfConversion (ensure target registered outside)

theorem unexpected_attempt {x : Attempt α} (h : FailsAs Failure.IsUnexpected x) :
    StepFails Failure.IsOfConversion (Build.attempt x) := build_attempt (h.mono fun _ => .inl)

theorem unexpected_logged {step : Logged α} (h : StepFails Failure.IsUnexpected step) :
    StepFails Failure.IsOfConversion (Build.logged step) := build_logged (h.mono fun _ => .inl)

section

variable {chain : List String} {ensure : Ensure schemas chain} (ensured : EnsureFails ensure)

include ensured

theorem addReference_fails (current : String) (isFirst : Bool) (f : Flattening) (ref : Value) :
    StepFails Failure.IsOfConversion
      (addReference schemas current chain ensure isFirst f ref) := by
  refine (unexpected_attempt (targetKey_fails ref)).bind fun target => ?_
  split
  · exact .throw (.inr ⟨_, _, rfl⟩)
  · split
    · refine (ensured _ _ _).bind fun _ => (record?_fails _).bind fun found => ?_
      split
      · exact .pure f
      · split
        · exact .pure _
        · exact unexpected_logged (addProperties_fails _ _ _ _)
    · exact (unexpected_logged (warn_fails _ _ _ _)).bind fun _ => .pure f

theorem addMember_fails (current : String) (isFirst : Bool) (f : Flattening) (member : Value) :
    StepFails Failure.IsOfConversion
      (addMember schemas nameOf current chain ensure isFirst f member) := by
  unfold addMember
  split
  · exact addReference_fails ensured _ _ _ _
  · split
    · exact unexpected_logged (addInline_fails _ _ _)
    · exact .pure f

theorem addMembers_fails (current : String) (isFirst : Bool) (f : Flattening)
    (members : List Value) : StepFails Failure.IsOfConversion
      (addMembers schemas nameOf current chain ensure isFirst f members) := by
  induction members generalizing isFirst f with
  | nil => exact .pure f
  | cons member rest ih => exact (addMember_fails ensured _ _ _ _).bind fun f => ih false f

theorem flatten_fails (current : String) (allOf : Value) :
    StepFails Failure.IsOfConversion (flatten schemas nameOf current chain ensure allOf) := by
  refine (unexpected_attempt (iterate_fails allOf)).bind fun members => ?_
  exact (addMembers_fails ensured _ _ _ _).bind fun f => .pure _

theorem finishedClass_fails (model : Model) (schema : Value) (shape : Shape) :
    StepFails Failure.IsOfConversion
      (finishedClass schemas nameOf model schema shape chain ensure) := by
  have own : ∀ f : Flattening, StepFails Failure.IsOfConversion (do
      let own ← Build.logged (ownProperties nameOf schema model.key)
      Pure.pure { model with
        shape := shape
        isEnum := false
        properties := (override f.properties own).values
        parent := f.parent }) :=
    fun f => (unexpected_logged (ownProperties_fails _ _)).bind fun own => .pure _
  unfold finishedClass
  split
  · exact (flatten_fails ensured _ _).bind own
  · exact own _

theorem finishedModel_fails (model : Model) (schema : Value) :
    StepFails Failure.IsOfConversion
      (finishedModel schemas nameOf model schema chain ensure) := by
  unfold finishedModel
  split
  · refine unexpected_attempt (FailsAs.bind (iterate_fails _) fun items _ => ?_)
    exact (FailsAs.mapM fun v _ => literalText_fails v).bind fun _ _ => .ok _
  · exact unexpected_logged (finishedUnion_fails _ _)
  · exact finishedClass_fails ensured _ _ _

end

theorem populate_fails (key : String) (visited : List String) :
    StepFails Failure.IsOfConversion (populate schemas nameOf key visited) := by
  rw [populate]
  refine (isFinished_fails key).bind fun finished => ?_
  split
  · exact .pure ()
  · refine (record?_fails key).bind fun found => ?_
    cases found with
    | none => exact .pure ()
    | some model =>
        -- Parts are populated with the key among those visited, which leaves fewer to visit.
        refine (finishedModel_fails (fun t ht hc => populate_fails t (key :: visited))
          model _).bind fun built => ?_
        exact (finish_fails key built).bind fun _ => build_logged (.note _)
termination_by (schemas.names.filter fun k => k ∉ key :: visited).length
decreasing_by exact outside_lt ht hc

theorem populated_fails (reg : Registry) :
    StepFails Failure.IsOfConversion (populated reg) := by
  intro journal
  refine FailsAs.map _ ?_
  exact StepFails.forM (fun key => populate_fails key []) reg.keys ⟨reg.records, [], journal⟩

end Population
end SdkBlueprint
