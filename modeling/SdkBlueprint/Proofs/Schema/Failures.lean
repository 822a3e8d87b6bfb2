import SdkBlueprint.Proofs.Failures
import SdkBlueprint.Registry.Basic
import SdkBlueprint.Schema.Facets
import SdkBlueprint.Schema.Resolution

/-! Failures of reading schemas. A schema is read without any check of its own, so that whatever
goes wrong with it is unexpected. -/
namespace SdkBlueprint
open SdkBlueprint.Document

variable {nameOf : String → String}

namespace Schema

theorem iterate_fails (v : Value) : FailsAs Failure.IsUnexpected (iterate v) := by
  unfold iterate
  split
  · exact .ok _
  · exact misuse_fails _

theorem fieldsOf_fails (v : Value) : FailsAs Failure.IsUnexpected (fieldsOf v) := by
  unfold fieldsOf
  split
  · exact .ok _
  · exact misuse_fails _

theorem optionalText_fails (record : RecordKind) (field : String) (v : Value) :
    FailsAs Failure.IsUnexpected (optionalText record field v) := by
  unfold optionalText
  split
  · exact .ok _
  · exact .ok _
  · exact invalidField_fails _ _

theorem targetKey_fails (ref : Value) : FailsAs Failure.IsUnexpected (targetKey ref) := by
  unfold targetKey
  split
  · exact .ok _
  · exact misuse_fails _
  · exact misuse_fails _

theorem written_fails (layout : Json.Layout) (v : Value) :
    FailsAs Failure.IsUnexpected (Json.written layout v) := by
  unfold Json.written
  split
  · exact .ok _
  · exact misuse_fails _

theorem literalText_fails (v : Value) : FailsAs Failure.IsUnexpected (literalText v) := by
  unfold literalText
  split
  · exact .ok _
  · exact written_fails _ v

theorem allOfForm_fails (allOf : Value) : FailsAs Failure.IsUnexpected (allOfForm allOf) := by
  unfold allOfForm
  split
  · exact .ok _
  · split
    · split <;> exact .ok _
    · exact .ok _
  · split
    · exact .ok _
    · exact misuse_fails _
  · exact .ok _
  · exact misuse_fails _
  · exact .ok _
  · exact .ok _
  · exact .ok _
  · exact misuse_fails _

theorem oneOfForm_fails (oneOf : Value) : FailsAs Failure.IsUnexpected (oneOfForm oneOf) := by
  unfold oneOfForm
  split
  · exact .ok _
  · exact (iterate_fails _).map _

theorem declaredForm_fails (node : Value) : FailsAs Failure.IsUnexpected (declaredForm node) := by
  unfold declaredForm
  split
  case h_9 => exact misuse_fails _
  all_goals exact .ok _

theorem formOf_fails (node : Value) : FailsAs Failure.IsUnexpected (formOf node) := by
  unfold formOf
  split
  · exact .ok _
  · exact allOfForm_fails _
  · exact oneOfForm_fails _
  · exact declaredForm_fails _

theorem referenceType_fails (ref : Value) :
    FailsAs Failure.IsUnexpected (referenceType nameOf ref) := (targetKey_fails ref).map _

theorem titledType_fails (title : Value) :
    FailsAs Failure.IsUnexpected (titledType nameOf title) := by
  unfold titledType
  split
  · exact .ok _
  · exact invalidField_fails _ _
  · exact misuse_fails _

theorem literalTypes_fails (values : List Value) :
    FailsAs Failure.IsUnexpected (literalTypes values) :=
  .mapM fun v _ => (literalText_fails v).map _

theorem stringType_fails (node : Value) :
    FailsAs Failure.IsUnexpected (stringType nameOf node) := by
  unfold stringType
  split
  · exact .ok _
  · simp only []
    split
    · exact titledType_fails _
    · refine (iterate_fails _).bind fun values _ => ?_
      exact (literalTypes_fails _).bind fun types _ => .ok _

theorem resolve_fails (node : Value) : FailsAs Failure.IsUnexpected (resolve nameOf node) := by
  fun_induction resolve nameOf node with
  | case1 node failure form => exact .error (formOf_fails node _ form)
  | case3 node ref form => exact referenceType_fails ref
  | case4 node child form ih => exact ih
  | case5 node refs form => exact (FailsAs.mapM fun ref _ => referenceType_fails ref).map _
  | case6 node members form ih => exact (FailsAs.mapM fun m _ => ih m).map _
  | case8 node items form ih => exact ih.map _
  | case10 node values form ih => exact ih.map _
  | case11 node form => exact stringType_fails node
  | _ => exact .ok _

theorem ofParam_fails (kind : ValidatorKind) (param : Value) :
    FailsAs Failure.IsUnexpected (Validator.ofParam kind param) := by
  unfold Validator.ofParam
  split
  · exact .ok _
  · exact .error rfl

theorem bound_fails (schema : Value) (name : String) (kind : ValidatorKind) :
    FailsAs Failure.IsUnexpected (bound schema name kind) := by
  unfold bound
  simp only []
  split
  · exact .ok _
  · exact (ofParam_fails _ _).map _

theorem patternFacet_fails (schema : Value) :
    FailsAs Failure.IsUnexpected (patternFacet schema) := by
  unfold patternFacet
  simp only []
  split
  · exact (ofParam_fails _ _).map _
  · exact .ok _

theorem formatFacet_fails (schema : Value) : FailsAs Failure.IsUnexpected (formatFacet schema) := by
  unfold formatFacet
  split
  · exact .ok _
  · exact .ok _
  · exact misuse_fails _

theorem validators_fails (schema : Value) : FailsAs Failure.IsUnexpected (validators schema) := by
  unfold validators
  split
  · exact .ok _
  · refine (bound_fails _ _ _).bind fun _ _ => (bound_fails _ _ _).bind fun _ _ => ?_
    refine (patternFacet_fails _).bind fun _ _ => (bound_fails _ _ _).bind fun _ _ => ?_
    exact (bound_fails _ _ _).bind fun _ _ => (formatFacet_fails _).bind fun _ _ => .ok _

theorem refNames_fails (members : Value) :
    FailsAs Failure.IsUnexpected (refNames nameOf members) := by
  refine (iterate_fails _).bind fun items _ => ?_
  exact .mapM fun ref _ => (targetKey_fails ref).map _

theorem discriminator_fails (schema : Value) :
    FailsAs Failure.IsUnexpected (discriminator nameOf schema) := by
  unfold discriminator
  simp only []
  split
  · exact .ok _
  · split
    · refine FailsAs.bind ((fieldsOf_fails _).bind fun _ _ => .ok _) fun mapping _ => ?_
      split
      · exact .ok _
      · exact invalidField_fails _ _
    · refine FailsAs.bind ((refNames_fails _).bind fun _ _ => .ok _) fun mapping _ => ?_
      split
      · exact .ok _
      · exact invalidField_fails _ _

end Schema

namespace Registry
open Schema

theorem pairOf_fails (v : Value) : FailsAs Failure.IsUnexpected (pairOf v) := by
  unfold pairOf
  split
  · exact misuse_fails _
  · exact .ok _
  · exact misuse_fails _
  · exact misuse_fails _

theorem schemaPairs_fails (schemas : Value) :
    FailsAs Failure.IsUnexpected (schemaPairs schemas) := by
  unfold schemaPairs
  split
  · exact .ok _
  · refine (iterate_fails _).bind fun items _ => ?_
    exact (FailsAs.mapM fun item _ => pairOf_fails item).bind fun _ _ => .ok _

theorem add_fails (reg : Registry) (pair : Scalar × Value) :
    FailsAs Failure.IsUnexpected (reg.add pair) := by
  unfold add skeleton
  split
  · exact ((optionalText_fails _ _ _).bind fun _ _ => .ok _).bind fun _ _ => .ok _
  · exact misuse_fails _

theorem discover_fails (schemas : Value) : FailsAs Failure.IsUnexpected (discover schemas) := by
  refine (schemaPairs_fails schemas).bind fun pairs _ => ?_
  exact .foldlM (fun reg pair _ => add_fails reg pair) _

end Registry
end SdkBlueprint
