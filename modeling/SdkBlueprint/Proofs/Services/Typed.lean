import SdkBlueprint.Proofs.Schema.Resolution
import SdkBlueprint.Proofs.Services.References

/-! Well-typed operations. Where every field that is read has its type, an operation comes to
its variants, wherever its references lead. -/
namespace SdkBlueprint.Services
open SdkBlueprint.Document SdkBlueprint.Schema

structure TypedParameter (v : Value) : Prop where
  name : isTextOrNull (v.field "name")
  place : isTextOrNull (v.field "in")
  schema : TypedNode (v.field "schema")
  description : isTextOrNull (v.field "description")

/-- The parameters that a path or an operation lists. Of those that are references, only what
they lead to is read. -/
structure TypedParameters (table holder : Value) : Prop where
  list : isListOrNull (holder.field "parameters")
  each : ∀ item ∈ itemsOf (holder.field "parameters"), ∀ param, Leads table item param →
    TypedParameter param

/-- A media type under its content type. -/
structure TypedMedia (e : Scalar × Value) : Prop where
  contentType : ∃ name, e.1 = .text name
  schema : TypedNode (mediaSchema e.2)

/-- The fields of a request body, of whose media types only the first is read. -/
structure TypedBody (v : Value) : Prop where
  content : isMapOrNull (v.field "content")
  media : ∀ e ∈ (entriesOf (v.field "content")).head?, TypedMedia e
  description : isTextOrNull (v.field "description")

structure TypedResponse (v : Value) : Prop where
  content : isMapOrNull (v.field "content")
  media : ∀ e ∈ entriesOf (v.field "content"), TypedMedia e

/-- The fields of an operation and those of the objects that it leads to. -/
structure TypedEndpoint (components : Components) (e : Endpoint) : Prop where
  operationId : isTextOrNull (e.operation.field "operationId")
  summary : isTextOrNull (e.operation.field "summary")
  description : isTextOrNull (e.operation.field "description")
  tags : isListOrNull (e.operation.field "tags")
  shared : TypedParameters components.parameters e.item
  own : TypedParameters components.parameters e.operation
  body : ∀ object, Leads components.requestBodies (e.operation.field "requestBody") object →
    TypedBody object
  responses : isMapOrNull (e.operation.field "responses")
  response : ∀ status declared object, Declares e status declared →
    Leads components.responses declared object → TypedResponse object

/-- The tables in which references are looked up are mappings. -/
structure TypedTables (components : Components) : Prop where
  parameters : components.parameters.isMap
  requestBodies : components.requestBodies.isMap
  responses : components.responses.isMap

theorem Leads.isMap {table node target : Value} (h : Leads table node target) :
    target.isMap = true := by
  obtain ⟨keys, leads⟩ := h
  induction leads with
  | here object => exact object
  | there _ _ _ ih => exact ih

/-- In a mapping every chain of references can be followed. -/
theorem target_ok {table : Value} (h : table.isMap) (node : Value) : ∃ found,
    target table node = .ok found ∧ ∀ object, found = some object ↔ Leads table node object := by
  have reached : ∃ found, target table node = .ok found := by
    unfold target
    split
    · exact map_ok _ (fieldsOf_isMap h)
    · exact ⟨_, rfl⟩
  obtain ⟨found, hfound⟩ := reached
  exact ⟨found, hfound, fun object => target_eq_some_iff hfound object⟩

theorem warnOperation_succeeds (code : FindingCode) (message id : String) :
    Logged.Succeeds (fun _ => True) (warnOperation code message (.text id)) :=
  (Logged.Succeeds.attempt (a := some id) rfl).bind fun _ _ => .note _

section Parameters

theorem knownParameters_succeeds {table holder : Value} (h : table.isMap)
    (typed : TypedParameters table holder) (operation : Value) :
    Logged.Succeeds (fun found => ∀ param ∈ found, param.isMap ∧ TypedParameter param)
      (knownParameters table operation (orEmptyList (holder.field "parameters"))) := by
  have listed := iterate_orEmptyList typed.list
  have total : Logged.Succeeds (fun _ => True)
      (knownParameters table operation (orEmptyList (holder.field "parameters"))) := by
    unfold knownParameters
    refine (Logged.Succeeds.attempt listed).bind fun items _ => ?_
    refine (Logged.Succeeds.mapM_total fun item _ => ?_).bind fun _ _ => .pure trivial
    obtain ⟨found, reached, _⟩ := target_ok h item
    refine (Logged.Succeeds.attempt reached).bind fun found _ => ?_
    cases found with
    | some param => exact .pure trivial
    | none => exact (Logged.Succeeds.note _).bind fun _ _ => .pure trivial
  refine ((knownParameters_yields _ _ _).of_succeeds total).mono fun found known => ?_
  obtain ⟨items, all, leads⟩ := known
  cases listed.symm.trans all
  intro param hparam
  obtain ⟨item, hitem, chain⟩ := leads param hparam
  exact ⟨chain.isMap, typed.each item hitem param chain⟩

theorem identityPart_ok {param : Value} {field : String} (h : isTextOrNull (param.field field)) :
    ∃ s, identityPart param field = .ok s := by
  unfold identityPart
  cases hf : param.field? field with
  | none => exact ⟨_, rfl⟩
  | some v =>
      rw [field?_eq_some hf] at h
      rcases textOrNull_cases h with rfl | ⟨s, rfl⟩
      · exact ⟨_, rfl⟩
      · exact ⟨_, rfl⟩

theorem identity_ok {param : Value} (object : param.isMap) (h : TypedParameter param) :
    ∃ key, identity param = .ok key := by
  obtain ⟨fields, hfields⟩ := fieldsOf_isMap object
  obtain ⟨name, hname⟩ := identityPart_ok h.name
  obtain ⟨place, hplace⟩ := identityPart_ok h.place
  exact ⟨(name, place), by rw [identity, hfields, hname, hplace]; rfl⟩

theorem combinedParameters_ok {ofPath ofOperation : List Value}
    (fromPath : ∀ param ∈ ofPath, ∃ key, identity param = .ok key)
    (fromOperation : ∀ param ∈ ofOperation, ∃ key, identity param = .ok key) :
    ∃ merged, combinedParameters ofPath ofOperation = .ok merged := by
  obtain ⟨replaced, hreplaced⟩ := mapM_ok fromOperation
  obtain ⟨own, hown⟩ := mapM_ok (f := fun param => do return (param, ← identity param))
    fun param hparam => map_ok (Prod.mk param) (fromPath param hparam)
  exact ⟨_, by rw [combinedParameters, hreplaced, hown]; rfl⟩

variable (nameOf : String → String)

theorem describedParameter_typed (name : String) (type : TypeExpr) (place : ParameterPlace)
    (required : Bool) {description : Value} (h : isTextOrNull description) :
    ∃ p, describedParameter name type place required description = .ok p := by
  obtain ⟨text, htext⟩ := optionalText_ok .parameter "description" h
  exact ⟨_, by rw [describedParameter, htext]; rfl⟩

theorem parameter_typed {param : Value} (h : TypedParameter param) (place : ParameterPlace) :
    ∃ p, parameter nameOf param place = .ok p := by
  obtain ⟨type, htype⟩ := resolve_ok nameOf h.schema
  obtain ⟨p, hp⟩ := describedParameter_typed
    ((param.field? "name").getD (.text "")).display type place
    (isSet param "required" || place == .path) h.description
  exact ⟨p, by rw [parameter, htype]; exact hp⟩

theorem placedParameters_succeeds (id : String) {params : List Value}
    (typed : ∀ param ∈ params, TypedParameter param) :
    Logged.Succeeds (fun _ => True) (placedParameters nameOf (.text id) params) := by
  unfold placedParameters
  refine (Logged.Succeeds.mapM_total fun param hparam => ?_).bind fun _ _ => .pure trivial
  split
  · next place _ =>
    obtain ⟨p, hp⟩ := parameter_typed nameOf (typed param hparam) place
    exact (Logged.Succeeds.attempt hp).bind fun _ _ => .pure trivial
  · exact (warnOperation_succeeds _ _ id).bind fun _ _ => .pure trivial

theorem bodyParameters_typed {body : Value} (h : TypedBody body) :
    ∃ made, bodyParameters nameOf body = .ok made ∧ isTextOrNull made.contentType := by
  unfold bodyParameters
  simp only []
  split
  · exact ⟨_, rfl, rfl⟩
  · next filled =>
    obtain ⟨contentType, media, rest, hcontent⟩ : ∃ contentType media rest,
        body.field "content" = .map ((contentType, media) :: rest) := by
      rcases mapOrNull_cases h.content with hv | ⟨entries, hv⟩ <;> rw [hv] at filled
      · exact absurd rfl filled
      · cases entries with
        | nil => exact absurd rfl filled
        | cons e rest => exact ⟨e.1, e.2, rest, hv⟩
    have first : TypedMedia (contentType, media) := h.media _ (by rw [hcontent]; rfl)
    obtain ⟨name, hname⟩ := first.contentType
    obtain ⟨type, htype⟩ := resolve_ok nameOf first.schema
    obtain ⟨p, hp⟩ := describedParameter_typed "body" type .body (isSet body "required")
      h.description
    simp only [] at hname htype
    rw [hcontent, hname]
    simp only [firstContent, bind, Except.bind]
    split
    · exact ⟨_, rfl, rfl⟩
    · rw [htype]
      simp only [hp]
      exact ⟨_, rfl, rfl⟩

theorem requestBody_succeeds {table declared : Value} (h : table.isMap) (operation : Value)
    (typed : ∀ object, Leads table declared object → TypedBody object) :
    Logged.Succeeds (fun made => isTextOrNull made.contentType)
      (requestBody nameOf table operation declared) := by
  unfold requestBody
  split
  · exact .pure rfl
  · obtain ⟨found, reached, leads⟩ := target_ok h declared
    refine (Logged.Succeeds.attempt reached).bind fun same hsame => ?_
    subst hsame
    cases same with
    | none => exact (Logged.Succeeds.note _).bind fun _ _ => .pure rfl
    | some body =>
        obtain ⟨made, hmade, text⟩ := bodyParameters_typed nameOf (typed body ((leads body).mp rfl))
        exact (Logged.Succeeds.attempt hmade).mono fun _ same => same ▸ text

variable {components : Components} {e : Endpoint}

theorem operationParameters_succeeds (tables : TypedTables components)
    (typed : TypedEndpoint components e) (id : String) :
    Logged.Succeeds (fun body => isTextOrNull body.contentType)
      (operationParameters nameOf components e.item e.operation (.text id)) := by
  unfold operationParameters
  refine (knownParameters_succeeds tables.parameters typed.shared _).bind fun ofPath path => ?_
  refine (knownParameters_succeeds tables.parameters typed.own _).bind fun ofOperation own => ?_
  obtain ⟨merged, hmerged⟩ := combinedParameters_ok
    (fun param hparam => identity_ok (path param hparam).1 (path param hparam).2)
    (fun param hparam => identity_ok (own param hparam).1 (own param hparam).2)
  have each : ∀ param ∈ merged, TypedParameter param := by
    intro param hparam
    rcases combinedParameters_mem hmerged param hparam with known | known
    · exact (path param known).2
    · exact (own param known).2
  refine (Logged.Succeeds.attempt hmerged).bind fun params same => ?_
  subst same
  refine (placedParameters_succeeds nameOf id each).bind fun _ _ => ?_
  refine (requestBody_succeeds nameOf tables.requestBodies _ typed.body).bind fun body text => ?_
  exact .pure text

end Parameters

section Variants

variable (nameOf : String → String) {components : Components} {e : Endpoint}

/-- What variants share has its types. -/
structure TypedShared (s : Shared) : Prop where
  summary : isTextOrNull (s.endpoint.operation.field "summary")
  description : isTextOrNull (s.endpoint.operation.field "description")
  requestContentType : isTextOrNull s.requestContentType

theorem variant_typed {s : Shared} (h : TypedShared s) (label : String) (type : TypeExpr)
    (accept : Option String) (kind : Option ResponseKind) :
    ∃ o, variant s label type accept kind = .ok o := by
  have none : ∀ (field : String) {v : Value}, isTextOrNull v → optionalFaults field v = [] :=
    fun field v hv => if_pos hv
  have faults : operationFaults s = [] := by
    simp only [operationFaults, none _ h.summary, none _ h.description,
      none _ h.requestContentType, List.append_nil]
  exact ⟨_, by rw [variant, faults]⟩

theorem contentVariant_typed {s : Shared} (h : TypedShared s) {entry : Scalar × Value}
    (typed : TypedMedia entry) :
    ∃ o, contentVariant nameOf s entry.1 (mediaSchema entry.2) = .ok o := by
  obtain ⟨contentType, hname⟩ := typed.contentType
  obtain ⟨type, htype⟩ := resolve_ok nameOf typed.schema
  obtain ⟨o, ho⟩ := variant_typed h (contentLabel contentType) type (some contentType)
    (responseKind? contentType)
  exact ⟨o, by rw [contentVariant, hname, htype]; exact ho⟩

theorem contentVariants_succeeds {s : Shared} (h : TypedShared s) (status : String)
    {entries : List (Scalar × Value)} (typed : ∀ entry ∈ entries, TypedMedia entry) :
    Logged.Succeeds (fun _ => True) (contentVariants nameOf s status entries) := by
  unfold contentVariants
  refine (Logged.Succeeds.mapM_total fun entry hentry => ?_).bind fun _ _ => .pure trivial
  simp only []
  split
  · exact (warnOperation_succeeds _ _ s.id).bind fun _ _ => .pure trivial
  · obtain ⟨o, ho⟩ := contentVariant_typed nameOf h (typed entry hentry)
    exact (Logged.Succeeds.attempt ho).bind fun _ _ => .pure trivial

theorem responseVariants_succeeds {s : Shared} (h : TypedShared s) (status : String)
    {response : Value} (typed : TypedResponse response) :
    Logged.Succeeds (fun _ => True) (responseVariants nameOf s status response) := by
  unfold responseVariants
  simp only []
  split
  · obtain ⟨o, ho⟩ := variant_typed h "" TypeExpr.void none none
    exact (Logged.Succeeds.attempt ho).bind fun _ _ => .pure trivial
  · refine (Logged.Succeeds.attempt (fieldsOf_orEmptyMap typed.content)).bind fun _ same => ?_
    subst same
    exact contentVariants_succeeds nameOf h status typed.media

/-- The id of a well-typed operation is a text. -/
theorem TypedEndpoint.id (h : TypedEndpoint components e) : ∃ id, e.id = .text id := by
  unfold Endpoint.id
  simp only []
  split
  · next declared =>
    rcases textOrNull_cases h.operationId with hv | hv
    · rw [hv] at declared
      cases declared
    · exact hv
  · exact ⟨_, rfl⟩

theorem variants_succeeds (tables : TypedTables components) (typed : TypedEndpoint components e) :
    Logged.Succeeds (fun _ => True) (variants nameOf components e) := by
  obtain ⟨id, hid⟩ := typed.id
  have declares := fieldsOf_orEmptyMap typed.responses
  unfold variants
  simp only [hid]
  refine (Logged.Succeeds.attempt declares).bind fun responses same => ?_
  subst same
  split
  · exact (warnOperation_succeeds _ _ id).bind fun _ _ => .pure trivial
  · next status declared success =>
    have first : Declares e status declared :=
      ⟨_, declares, successResponse_eq_some_iff.mp success⟩
    obtain ⟨found, reached, leads⟩ := target_ok tables.responses declared
    refine (Logged.Succeeds.attempt reached).bind fun same hsame => ?_
    subst hsame
    cases same with
    | none => exact (warnOperation_succeeds _ _ id).bind fun _ _ => .pure trivial
    | some response =>
        have object := typed.response status declared response first ((leads response).mp rfl)
        refine (operationParameters_succeeds nameOf tables typed id).bind fun body text => ?_
        refine (Logged.Succeeds.attempt (a := id) rfl).bind fun name _ => ?_
        have shared : TypedShared
            ⟨name, Naming.camel name, e, body.parameters, body.contentType⟩ :=
          ⟨typed.summary, typed.description, text⟩
        exact responseVariants_succeeds nameOf shared status object

end Variants

section Services

variable (settings : Settings) (nameOf : String → String) {components : Components}

theorem serviceNames_typed {operation : Value} (h : isListOrNull (operation.field "tags")) :
    ∃ names, serviceNames settings operation = .ok names := by
  unfold serviceNames
  simp only []
  split
  · next some => exact ⟨_, by rw [iterate_truthy h some]; rfl⟩
  · exact ⟨_, rfl⟩

theorem addEndpoint_succeeds (tables : TypedTables components) {e : Endpoint}
    (typed : TypedEndpoint components e) (c : Catalog) :
    Logged.Succeeds (fun _ => True) (addEndpoint settings nameOf components c e) := by
  obtain ⟨names, hnames⟩ := serviceNames_typed settings typed.tags
  unfold addEndpoint
  refine (Logged.Succeeds.attempt hnames).bind fun names _ => ?_
  refine (variants_succeeds nameOf tables typed).bind fun vs _ => ?_
  rw [registerAll_eq]
  exact .foldlM_total (fun c q _ j => ⟨_, _, rfl, trivial⟩) _

theorem services_succeed {document : Value} {endpoints : List Endpoint}
    (declared : Components.ofDocument document = .ok components)
    (listed : Endpoint.ofDocument document = .ok endpoints) (tables : TypedTables components)
    (typed : ∀ e ∈ endpoints, TypedEndpoint components e) :
    Logged.Succeeds (fun _ => True) (services settings nameOf document) := by
  unfold services catalog
  refine Logged.Succeeds.bind (R := fun _ => True) ?_ fun _ _ => .pure trivial
  refine (Logged.Succeeds.attempt declared).bind fun _ same => ?_
  subst same
  refine (Logged.Succeeds.attempt listed).bind fun _ same => ?_
  subst same
  exact .foldlM_total (fun c e he => addEndpoint_succeeds settings nameOf tables (typed e he) c) _

end Services
end SdkBlueprint.Services
