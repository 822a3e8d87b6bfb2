import SdkBlueprint.Proofs.Schema.Renaming
import SdkBlueprint.Proofs.Services.Isolation
import SdkBlueprint.Proofs.Services.References

/-! Services under two namings of the keys. The document is read in the same steps, so that
operations differ in the types of their parameters and results alone. -/
namespace SdkBlueprint.Services
open SdkBlueprint.Document SdkBlueprint.Schema

section Parameters

/-- The parameters have the type of one node and differ in the names of keys alone. -/
structure SameParameter (n n' : String → String) (node : Value) (p p' : Parameter) : Prop where
  name : p'.name = p.name
  place : p'.place = p.place
  isRequired : p'.isRequired = p.isRequired
  description : p'.description = p.description
  type : TypeExpr.Corresponds (Mentions node) n n' p.type p'.type

/-- The parameters are one parameter of the endpoint under two namings. -/
def ParametersCorrespond (components : Components) (e : Endpoint) (n n' : String → String)
    (p p' : Parameter) : Prop :=
  ∃ node, ParameterSchema components e p node ∧ SameParameter n n' node p p'

structure BodiesCorrespond (components : Components) (e : Endpoint) (n n' : String → String)
    (body body' : RequestBody) : Prop where
  parameters : List.Forall₂ (ParametersCorrespond components e n n') body.parameters
    body'.parameters
  contentType : body'.contentType = body.contentType

variable {n n' : String → String}

theorem describedParameter_agree (name : String) (place : ParameterPlace) (required : Bool)
    (description : Value) {node : Value} {t t' : TypeExpr}
    (type : TypeExpr.Corresponds (Mentions node) n n' t t') :
    Agree (fun p p' => p.place = place ∧ SameParameter n n' node p p')
      (describedParameter name t place required description)
      (describedParameter name t' place required description) := by
  refine (Agree.same _).bind ?_
  rintro _ text ⟨rfl, _⟩
  exact .ok ⟨rfl, rfl, rfl, rfl, rfl, type⟩

theorem parameter_agree (param : Value) (place : ParameterPlace) :
    Agree (fun p p' => p.place = place ∧ SameParameter n n' (param.field "schema") p p')
      (parameter n param place) (parameter n' param place) :=
  (resolve_agree _ fun _ h => h).bind fun _ _ type => describedParameter_agree _ _ _ _ type

theorem placedParameters_agree (operation : Value) (params : List Value) :
    Logged.Agree (List.Forall₂ fun p p' => ∃ param ∈ params,
        declaredPlace? (param.field "in") = some p.place ∧
        SameParameter n n' (param.field "schema") p p')
      (placedParameters n operation params) (placedParameters n' operation params) := by
  unfold placedParameters
  refine Logged.Agree.bind (.mapM (R := Option.Rel _) fun param member => ?_)
    fun placed placed' each => .pure (List.rel_filterMap (fun _ _ h => h) each)
  split
  · next place declared =>
    refine (Logged.Agree.attempt (parameter_agree param place)).bind fun p p' same => .pure ?_
    exact .some ⟨param, member, same.1 ▸ declared, same.2⟩
  · exact .next fun _ _ => .pure .none

variable {components : Components} {e : Endpoint}

theorem bodyParameters_agree {body : Value}
    (leads : Leads components.requestBodies (e.operation.field "requestBody") body) :
    Agree (BodiesCorrespond components e n n') (bodyParameters n body)
      (bodyParameters n' body) := by
  unfold bodyParameters
  simp only []
  split
  · exact .ok ⟨.nil, rfl⟩
  · refine (Agree.same _).bind ?_
    rintro _ ⟨contentType, media⟩ ⟨rfl, first⟩
    simp only []
    split
    · exact .ok ⟨.nil, rfl⟩
    · refine (resolve_agree _ fun _ h => h).bind fun t t' type => ?_
      refine (describedParameter_agree _ _ _ _ type).bind fun p p' same => ?_
      exact .ok ⟨.cons ⟨_, .body same.1 leads first, same.2⟩ .nil, rfl⟩

theorem requestBody_agree (operation : Value) :
    Logged.Agree (BodiesCorrespond components e n n')
      (requestBody n components.requestBodies operation (e.operation.field "requestBody"))
      (requestBody n' components.requestBodies operation (e.operation.field "requestBody")) := by
  unfold requestBody
  split
  · exact .pure ⟨.nil, rfl⟩
  · refine (Logged.Agree.attempt (.same _)).bind ?_
    rintro _ found ⟨rfl, reached⟩
    cases found with
    | none => exact .next fun _ _ => .pure ⟨.nil, rfl⟩
    | some body =>
        exact .attempt (bodyParameters_agree ((target_eq_some_iff reached body).mp rfl))

/-- The parameters of an endpoint are found in the same places under both namings. -/
theorem operationParameters_agree (id : Value) :
    Logged.Agree (BodiesCorrespond components e n n')
      (operationParameters n components e.item e.operation id)
      (operationParameters n' components e.item e.operation id) := by
  unfold operationParameters
  refine (Logged.Agree.same (knownParameters_adds _ _ _) (knownParameters_yields _ _ _)).bind ?_
  rintro _ ofPath ⟨rfl, pathItems, allOfPath, fromPath⟩
  refine (Logged.Agree.same (knownParameters_adds _ _ _) (knownParameters_yields _ _ _)).bind ?_
  rintro _ ofOperation ⟨rfl, items, all, fromOperation⟩
  refine (Logged.Agree.attempt (.same _)).bind ?_
  rintro _ merged ⟨rfl, combined⟩
  refine (placedParameters_agree id merged).bind fun ps ps' placed => ?_
  refine (requestBody_agree id).bind fun body body' same => .pure ?_
  refine ⟨List.rel_append (placed.imp ?_) same.parameters, same.contentType⟩
  rintro p p' ⟨param, member, place, same⟩
  refine ⟨_, ?_, same⟩
  rcases combinedParameters_mem combined param member with member | member
  · obtain ⟨item, listed, leads⟩ := fromPath param member
    exact .declared (.inl rfl) allOfPath listed leads place
  · obtain ⟨item, listed, leads⟩ := fromOperation param member
    exact .declared (.inr rfl) all listed leads place

end Parameters

section Variants

/-- The types are what the endpoint returns under two namings. -/
inductive ReturnsCorrespond (components : Components) (e : Endpoint) (n n' : String → String) :
    TypeExpr → TypeExpr → Prop
  | void : ReturnsCorrespond components e n n' .void .void
  | content {node t t'} (declared : ReturnSchema components e node)
      (type : TypeExpr.Corresponds (Mentions node) n n' t t') :
      ReturnsCorrespond components e n n' t t'

/-- The operations are one operation of the endpoint, and only the names in types differ. -/
structure OperationsCorrespond (components : Components) (e : Endpoint) (n n' : String → String)
    (o o' : Operation) : Prop where
  operationId : o'.operationId = o.operationId
  methodName : o'.methodName = o.methodName
  path : o'.path = o.path
  method : o'.method = o.method
  parameters : List.Forall₂ (ParametersCorrespond components e n n') o.parameters o'.parameters
  returnType : ReturnsCorrespond components e n n' o.returnType o'.returnType
  summary : o'.summary = o.summary
  description : o'.description = o.description
  deprecated : o'.deprecated = o.deprecated
  requestContentType : o'.requestContentType = o.requestContentType
  acceptHeader : o'.acceptHeader = o.acceptHeader
  responseKind : o'.responseKind = o.responseKind

variable {components : Components} {n n' : String → String}

theorem variant_agree (s : Shared) {ps : List Parameter}
    (each : List.Forall₂ (ParametersCorrespond components s.endpoint n n') s.parameters ps)
    (label : String) {t t' : TypeExpr}
    (returns : ReturnsCorrespond components s.endpoint n n' t t') (accept : Option String)
    (kind : Option ResponseKind) :
    Agree (OperationsCorrespond components s.endpoint n n') (variant s label t accept kind)
      (variant { s with parameters := ps } label t' accept kind) := by
  have faults : operationFaults { s with parameters := ps } = operationFaults s := rfl
  unfold variant
  rw [faults]
  split
  · exact .ok ⟨rfl, rfl, rfl, rfl, each, returns, rfl, rfl, rfl, rfl, rfl, rfl⟩
  · exact fun _ _ h => by cases h

theorem contentVariants_agree (s : Shared) {ps : List Parameter}
    (each : List.Forall₂ (ParametersCorrespond components s.endpoint n n') s.parameters ps)
    (status : String) {content : List (Scalar × Value)}
    (declared : ∀ c ∈ content, ReturnSchema components s.endpoint (mediaSchema c.2)) :
    Logged.Agree (List.Forall₂ (OperationsCorrespond components s.endpoint n n'))
      (contentVariants n s status content)
      (contentVariants n' { s with parameters := ps } status content) := by
  unfold contentVariants
  refine Logged.Agree.bind (.mapM (R := Option.Rel _) fun c member => ?_)
    fun made made' all => .pure (List.rel_filterMap (fun _ _ h => h) all)
  simp only []
  split
  · exact .next fun _ _ => .pure .none
  · refine Logged.Agree.bind (.attempt ?_) fun o o' same => .pure (.some same)
    refine (Agree.same _).bind ?_
    rintro _ type ⟨rfl, _⟩
    refine (resolve_agree _ fun _ h => h).bind fun t t' returns => ?_
    exact variant_agree s each _ (.content (declared c member) returns) _ _

theorem content_of_fieldsOf {v : Value} {entries : List (Scalar × Value)}
    (filled : (orEmptyMap v).truthy = true) (h : fieldsOf (orEmptyMap v) = .ok entries) :
    v = .map entries := by
  have same : orEmptyMap v = v := by
    unfold orEmptyMap at filled ⊢
    split at filled
    · next set => rw [if_pos set]
    · cases filled
  rw [same] at h
  cases v with
  | map found => exact congrArg Value.map (Except.ok.inj h)
  | _ => cases h

theorem responseVariants_agree (s : Shared) {ps : List Parameter}
    (each : List.Forall₂ (ParametersCorrespond components s.endpoint n n') s.parameters ps)
    {status : String} {declared response : Value} (first : Declares s.endpoint status declared)
    (leads : Leads components.responses declared response) :
    Logged.Agree (List.Forall₂ (OperationsCorrespond components s.endpoint n n'))
      (responseVariants n s status response)
      (responseVariants n' { s with parameters := ps } status response) := by
  unfold responseVariants
  simp only []
  split
  · exact (Logged.Agree.attempt (variant_agree s each "" .void none none)).bind
      fun o o' same => .pure (.cons same .nil)
  · next filled =>
    refine (Logged.Agree.attempt (.same _)).bind ?_
    rintro _ content ⟨rfl, fields⟩
    have entries := content_of_fieldsOf (by simpa using filled) fields
    refine contentVariants_agree s each status fun c member => ?_
    exact ⟨status, declared, response, content, c, first, leads, entries, member, rfl⟩

/-- An endpoint has the same variants under both namings. -/
theorem variants_agree (e : Endpoint) :
    Logged.Agree (List.Forall₂ (OperationsCorrespond components e n n')) (variants n components e)
      (variants n' components e) := by
  unfold variants
  refine (Logged.Agree.attempt (.same _)).bind ?_
  rintro _ responses ⟨rfl, all⟩
  cases chosen : successResponse responses with
  | none => exact .next fun _ _ => .pure .nil
  | some success =>
      obtain ⟨status, declared⟩ := success
      refine (Logged.Agree.attempt (.same _)).bind ?_
      rintro _ found ⟨rfl, reached⟩
      cases found with
      | none => exact .next fun _ _ => .pure .nil
      | some response =>
          refine (operationParameters_agree _).bind fun body body' same => ?_
          refine (Logged.Agree.attempt (.same _)).bind ?_
          rintro _ text ⟨rfl, _⟩
          rw [same.contentType]
          exact responseVariants_agree ⟨text, _, e, body.parameters, body.contentType⟩
            same.parameters ⟨responses, all, successResponse_eq_some_iff.mp chosen⟩
            ((target_eq_some_iff reached response).mp rfl)

end Variants

section Catalog

/-- A relation that does not look at the names of methods, except that they are equal. -/
structure Namewise (R : Operation → Operation → Prop) : Prop where
  operationId : ∀ {o o'}, R o o' → o'.operationId = o.operationId
  methodName : ∀ {o o'}, R o o' → o'.methodName = o.methodName
  named : ∀ {o o'} name, R o o' → R { o with methodName := name } { o' with methodName := name }

/-- The catalogs have the same services with related operations. -/
abbrev CatalogsCorrespond (R : Operation → Operation → Prop) (c c' : Catalog) : Prop :=
  Table.Pairs (Table.Pairs R) c c'

variable {R : Operation → Operation → Prop} (namewise : Namewise R)

include namewise

theorem entered_pairs {t t' : Table Operation} (h : Table.Pairs R t t') {o o' : Operation}
    (same : R o o') : Table.Pairs R (entered t o) (entered t' o') := by
  have taken : methodNames t' = methodNames t := by
    have equal : List.Forall₂ Eq (methodNames t') (methodNames t) :=
      List.rel_map (fun _ _ same => namewise.methodName same) h.values.flip
    exact List.forall₂_eq_eq_eq ▸ equal
  have related : R (settled t o) (settled t' o') := by
    unfold settled
    rw [taken, namewise.methodName same]
    exact namewise.named _ same
  refine h.put ?_ related
  rw [Operation.key, Operation.key, namewise.operationId related, namewise.methodName related]

omit namewise in
theorem operations_pairs {c c' : Catalog} (h : CatalogsCorrespond R c c') (service : String) :
    Table.Pairs R (c.operations service) (c'.operations service) := by
  have held := h.get? service
  unfold Catalog.operations
  generalize c.get? service = found at held
  generalize c'.get? service = found' at held
  cases held with
  | none => exact .empty
  | some same => exact same

omit namewise in
theorem ensure_pairs {c c' : Catalog} (h : CatalogsCorrespond R c c') (service : String) :
    CatalogsCorrespond R (c.ensure service) (c'.ensure service) := by
  have known : c'.contains service = c.contains service := by
    rw [Bool.eq_iff_iff, Table.contains_iff, Table.contains_iff, h.names]
  unfold Catalog.ensure
  rw [known]
  split
  · exact h
  · exact h.put rfl .empty

theorem register_agree (service : String) {c c' : Catalog} (h : CatalogsCorrespond R c c')
    {o o' : Operation} (same : R o o') :
    Logged.Agree (CatalogsCorrespond R) (Catalog.register service c o)
      (Catalog.register service c' o') :=
  .next fun _ _ => .pure (h.put rfl (entered_pairs namewise (operations_pairs h service) same))

theorem registerAll_agree (names : List String) {vs vs' : List Operation}
    (each : List.Forall₂ R vs vs') {c c' : Catalog} (h : CatalogsCorrespond R c c') :
    Logged.Agree (CatalogsCorrespond R) (registerAll names vs c) (registerAll names vs' c') := by
  unfold registerAll
  refine Logged.Agree.foldlM_same (R := CatalogsCorrespond R) (fun c c' name _ h => ?_) h
  refine Logged.Agree.foldlM (R := CatalogsCorrespond R) (S := R) (fun _ _ _ _ h same => ?_) each h
  exact register_agree namewise name h same

end Catalog

section Services

variable {settings settings' : Settings} {n n' : String → String} {document : Value}

/-- The operations are one operation of some endpoint under two namings. -/
def Operates (components : Components) (endpoints : List Endpoint) (n n' : String → String)
    (o o' : Operation) : Prop :=
  ∃ e ∈ endpoints, OperationsCorrespond components e n n' o o'

/-- The services have the same operations under the same keys. -/
structure ServicesCorrespond (components : Components) (endpoints : List Endpoint)
    (n n' : String → String) (s s' : Service) : Prop where
  name : s'.name = s.name
  operations : Table.Pairs (Operates components endpoints n n') s.operations s'.operations

theorem operates_namewise (components : Components) (endpoints : List Endpoint) :
    Namewise (Operates components endpoints n n') := by
  constructor
  · rintro o o' ⟨e, member, same⟩
    exact same.operationId
  · rintro o o' ⟨e, member, same⟩
    exact same.methodName
  · rintro o o' name ⟨e, member, same⟩
    exact ⟨e, member, { same with methodName := rfl }⟩

/-- An endpoint is added alike, if it belongs to the same services. -/
theorem addEndpoint_agree {components : Components} {endpoints : List Endpoint} {e : Endpoint}
    (member : e ∈ endpoints)
    (names : serviceNames settings' e.operation = serviceNames settings e.operation)
    {c c' : Catalog} (h : CatalogsCorrespond (Operates components endpoints n n') c c') :
    Logged.Agree (CatalogsCorrespond (Operates components endpoints n n'))
      (addEndpoint settings n components c e) (addEndpoint settings' n' components c' e) := by
  unfold addEndpoint
  rw [names]
  refine (Logged.Agree.attempt (.same _)).bind ?_
  rintro _ services ⟨rfl, _⟩
  refine (variants_agree e).bind fun vs vs' each => ?_
  refine registerAll_agree (operates_namewise components endpoints) services
    (each.imp fun o o' same => ⟨e, member, same⟩) ?_
  refine Table.Pairs.foldl (S := Eq) ?_ (List.forall₂_same.mpr fun _ _ => rfl) h
  rintro c c' service _ h rfl
  exact ensure_pairs h service

/-- Under two namings, and settings that name services alike, a document has like services. -/
theorem services_correspond
    (names : ∀ operation, serviceNames settings' operation = serviceNames settings operation)
    {ss ss' : List Service} {i j k l : Journal}
    (run : (services settings n document).run i = (.ok ss, j))
    (run' : (services settings' n' document).run k = (.ok ss', l)) :
    ∃ components endpoints, Components.ofDocument document = .ok components ∧
      Endpoint.ofDocument document = .ok endpoints ∧
      List.Forall₂ (ServicesCorrespond components endpoints n n') ss ss' := by
  obtain ⟨components, endpoints, c, hcomponents, hendpoints, made, rfl⟩ := services_ok run
  obtain ⟨_, _, c', hcomponents', hendpoints', made', rfl⟩ := services_ok run'
  cases hcomponents.symm.trans hcomponents'
  cases hendpoints.symm.trans hendpoints'
  refine ⟨components, endpoints, hcomponents, hendpoints, ?_⟩
  have catalogs : CatalogsCorrespond (Operates components endpoints n n') c c' := by
    refine Logged.Agree.foldlM_same (R := CatalogsCorrespond (Operates components endpoints n n'))
      (fun c c' e member h => ?_) .empty _ _ _ _ _ _ made made'
    exact addEndpoint_agree member (names _) h
  exact List.rel_map (fun _ _ same => ⟨same.1, same.2⟩) catalogs

end Services
end SdkBlueprint.Services
