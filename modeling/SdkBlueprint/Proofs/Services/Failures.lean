import SdkBlueprint.Proofs.Schema.Failures
import SdkBlueprint.Services.Basic

/-! Failures of services. What no check expects is all that reading them can end in: where an
operation lacks a part it is left out with a warning. -/
namespace SdkBlueprint.Services
open SdkBlueprint.Document SdkBlueprint.Schema

variable {nameOf : String → String} {P : Failure → Prop}

theorem componentsOf_fails (document : Value) :
    FailsAs Failure.IsUnexpected (componentsOf document) :=
  (fieldsOf_fails _).bind fun _ _ => .ok _

theorem Components.ofDocument_fails (document : Value) :
    FailsAs Failure.IsUnexpected (Components.ofDocument document) := by
  refine (componentsOf_fails _).bind fun components _ => ?_
  exact (fieldsOf_fails _).bind fun _ _ => .ok _

theorem target_fails (table node : Value) : FailsAs Failure.IsUnexpected (target table node) := by
  unfold target
  split
  · exact FailsAs.map _ (fieldsOf_fails _)
  · exact .ok _

theorem warnOperation_fails (code : FindingCode) (message : String) (operation : Value) :
    StepFails Failure.IsUnexpected (warnOperation code message operation) :=
  (StepFails.attempt (optionalText_fails _ _ _)).bind fun _ => .note _

section Parameters

theorem knownParameters_fails (table operation params : Value) :
    StepFails Failure.IsUnexpected (knownParameters table operation params) := by
  refine (StepFails.attempt (iterate_fails _)).bind fun items => ?_
  refine (StepFails.mapM fun item _ => ?_).bind fun targets => .pure _
  refine (StepFails.attempt (target_fails _ _)).bind fun found => ?_
  cases found with
  | some param => exact .pure _
  | none => exact (StepFails.note _).bind fun _ => .pure _

theorem identityPart_fails (param : Value) (field : String) :
    FailsAs Failure.IsUnexpected (identityPart param field) := by
  unfold identityPart
  split
  · exact .ok _
  · exact misuse_fails _

theorem identity_fails (param : Value) : FailsAs Failure.IsUnexpected (identity param) := by
  refine (fieldsOf_fails _).bind fun _ _ => ?_
  refine (identityPart_fails _ _).bind fun name _ => ?_
  exact (identityPart_fails _ _).bind fun place _ => .ok _

theorem combinedParameters_fails (ofPath ofOperation : List Value) :
    FailsAs Failure.IsUnexpected (combinedParameters ofPath ofOperation) := by
  refine (FailsAs.mapM fun param _ => identity_fails param).bind fun replaced _ => ?_
  refine (FailsAs.mapM fun param _ => ?_).bind fun own _ => .ok _
  exact (identity_fails param).bind fun pair _ => .ok _

theorem describedParameter_fails (name : String) (type : TypeExpr) (place : ParameterPlace)
    (required : Bool) (description : Value) :
    FailsAs Failure.IsUnexpected (describedParameter name type place required description) :=
  (optionalText_fails _ _ _).bind fun _ _ => .ok _

theorem parameter_fails (param : Value) (place : ParameterPlace) :
    FailsAs Failure.IsUnexpected (parameter nameOf param place) :=
  (resolve_fails _).bind fun _ _ => describedParameter_fails _ _ _ _ _

theorem placedParameters_fails (operation : Value) (params : List Value) :
    StepFails Failure.IsUnexpected (placedParameters nameOf operation params) := by
  refine (StepFails.mapM fun param _ => ?_).bind fun placed => .pure _
  split
  · exact (StepFails.attempt (parameter_fails _ _)).bind fun _ => .pure _
  · exact (warnOperation_fails _ _ _).bind fun _ => .pure _

theorem itemAt_fails (items : List Value) (position : Int) :
    FailsAs Failure.IsUnexpected (itemAt items position) := by
  unfold itemAt
  generalize (if position < 0 then position + items.length else position) = index
  simp only []
  split
  · exact misuse_fails _
  · split
    · exact .ok _
    · exact misuse_fails _

theorem firstContent_fails (content : Value) :
    FailsAs Failure.IsUnexpected (firstContent content) := by
  unfold firstContent
  split
  · exact .ok _
  · split
    · exact FailsAs.map _ (itemAt_fails _ _)
    · exact FailsAs.map _ (itemAt_fails _ _)
    · exact misuse_fails _
  · simp only []
    split
    · exact FailsAs.map _ (itemAt_fails _ _)
    · exact misuse_fails _
  · exact misuse_fails _

theorem bodyParameters_fails (body : Value) :
    FailsAs Failure.IsUnexpected (bodyParameters nameOf body) := by
  unfold bodyParameters
  simp only []
  split
  · exact .ok _
  · refine (firstContent_fails _).bind fun found _ => ?_
    split
    · exact .ok _
    · refine (resolve_fails _).bind fun type _ => ?_
      exact (describedParameter_fails _ _ _ _ _).bind fun param _ => .ok _

theorem requestBody_fails (table operation declared : Value) :
    StepFails Failure.IsUnexpected (requestBody nameOf table operation declared) := by
  unfold requestBody
  split
  · exact .pure _
  · refine (StepFails.attempt (target_fails _ _)).bind fun found => ?_
    cases found with
    | some body => exact .attempt (bodyParameters_fails _)
    | none => exact (StepFails.note _).bind fun _ => .pure _

theorem operationParameters_fails (components : Components) (item operation id : Value) :
    StepFails Failure.IsUnexpected
      (operationParameters nameOf components item operation id) := by
  refine (knownParameters_fails _ _ _).bind fun ofPath => ?_
  refine (knownParameters_fails _ _ _).bind fun ofOperation => ?_
  refine (StepFails.attempt (combinedParameters_fails _ _)).bind fun merged => ?_
  refine (placedParameters_fails _ _).bind fun params => ?_
  exact (requestBody_fails _ _ _).bind fun body => .pure _

end Parameters

section Variants

theorem variant_fails (s : Shared) (label : String) (returnType : TypeExpr)
    (accept : Option String) (kind : Option ResponseKind) :
    FailsAs Failure.IsUnexpected (variant s label returnType accept kind) := by
  unfold variant
  split
  · exact .ok _
  · exact .error rfl

theorem contentTypeOf_fails (contentType : Scalar) :
    FailsAs Failure.IsUnexpected (contentTypeOf contentType) := by
  unfold contentTypeOf
  split
  · exact .ok _
  · exact misuse_fails _
  · exact misuse_fails _

theorem contentVariant_fails (s : Shared) (contentType : Scalar) (schema : Value) :
    FailsAs Failure.IsUnexpected (contentVariant nameOf s contentType schema) := by
  refine (contentTypeOf_fails _).bind fun type _ => ?_
  exact (resolve_fails _).bind fun returnType _ => variant_fails _ _ _ _ _

theorem contentVariants_fails (s : Shared) (status : String) (content : List (Scalar × Value)) :
    StepFails Failure.IsUnexpected (contentVariants nameOf s status content) := by
  refine (StepFails.mapM fun entry _ => ?_).bind fun made => .pure _
  simp only []
  split
  · exact (warnOperation_fails _ _ _).bind fun _ => .pure _
  · exact (StepFails.attempt (contentVariant_fails _ _ _)).bind fun _ => .pure _

theorem responseVariants_fails (s : Shared) (status : String) (response : Value) :
    StepFails Failure.IsUnexpected (responseVariants nameOf s status response) := by
  unfold responseVariants
  simp only []
  split
  · exact (StepFails.attempt (variant_fails _ _ _ _ _)).bind fun _ => .pure _
  · exact (StepFails.attempt (fieldsOf_fails _)).bind fun _ => contentVariants_fails _ _ _

theorem operationIdText_fails (id : Value) :
    FailsAs Failure.IsUnexpected (operationIdText id) := by
  unfold operationIdText
  split
  · exact .ok _
  · exact misuse_fails _

theorem variants_fails (components : Components) (e : Endpoint) :
    StepFails Failure.IsUnexpected (variants nameOf components e) := by
  refine (StepFails.attempt (fieldsOf_fails _)).bind fun responses => ?_
  split
  · exact (warnOperation_fails _ _ _).bind fun _ => .pure _
  · refine (StepFails.attempt (target_fails _ _)).bind fun found => ?_
    cases found with
    | none => exact (warnOperation_fails _ _ _).bind fun _ => .pure _
    | some response =>
        refine (operationParameters_fails _ _ _ _).bind fun body => ?_
        refine (StepFails.attempt (operationIdText_fails _)).bind fun text => ?_
        exact responseVariants_fails _ _ _

end Variants

theorem Endpoint.ofDocument_fails (document : Value) :
    FailsAs Failure.IsUnexpected (Endpoint.ofDocument document) := by
  refine (fieldsOf_fails _).bind fun _ _ => ?_
  exact (fieldsOf_fails _).bind fun _ _ => .ok _

theorem serviceNames_fails (settings : Settings) (operation : Value) :
    FailsAs Failure.IsUnexpected (serviceNames settings operation) :=
  (iterate_fails _).bind fun _ _ => .ok _

theorem Catalog.register_fails (service : String) (c : Catalog) (o : Operation) :
    StepFails P (Catalog.register service c o) := (StepFails.modify _).bind fun _ => .pure _

theorem registerAll_fails (names : List String) (vs : List Operation) (c : Catalog) :
    StepFails P (registerAll names vs c) :=
  .foldlM (fun c name => .foldlM (Catalog.register_fails name) c vs) c names

theorem addEndpoint_fails (settings : Settings) (components : Components) (c : Catalog)
    (e : Endpoint) :
    StepFails Failure.IsUnexpected (addEndpoint settings nameOf components c e) := by
  refine (StepFails.attempt (serviceNames_fails _ _)).bind fun names => ?_
  exact (variants_fails _ _).bind fun made => registerAll_fails _ _ _

theorem services_fails (settings : Settings) (document : Value) :
    StepFails Failure.IsUnexpected (services settings nameOf document) := by
  have read : StepFails Failure.IsUnexpected (catalog settings nameOf document) := by
    refine (StepFails.attempt (Components.ofDocument_fails _)).bind fun components => ?_
    refine (StepFails.attempt (Endpoint.ofDocument_fails _)).bind fun endpoints => ?_
    exact .foldlM (addEndpoint_fails settings components) _ _
  exact read.bind fun c => .pure _

end SdkBlueprint.Services
