import SdkBlueprint.Proofs.Journal
import SdkBlueprint.Proofs.Schema.Typed
import SdkBlueprint.Proofs.Services.Names
import SdkBlueprint.Services.Basic

/-! Variants of operations: what reading them notes, and what they look like. They come in
the order of the content types, and none has a colon in its method name. -/
namespace SdkBlueprint.Services
open SdkBlueprint.Document SdkBlueprint.Schema

/-- An entry made while operations are read. None of these is about a collision. -/
def ofReading (e : Entry) : Prop :=
  e.stage = .services ∧ ∀ f, e.finding? = some f → f.code ≠ .methodCollision

/-- An entry about a parameter or a request body that is left out. -/
def ofParameters (e : Entry) : Prop :=
  e.stage = .services ∧ ∀ f, e.finding? = some f →
    f.code ∈ [.unresolvedParameter, .unsupportedParameter, .unresolvedRequestBody]

/-- An entry about a content type that is left out. -/
def ofResponse (e : Entry) : Prop :=
  e.stage = .services ∧ ∀ f, e.finding? = some f → f.code = .missingResponseSchema

theorem ofParameters.reading {e : Entry} (h : ofParameters e) : ofReading e := by
  refine ⟨h.1, fun f hf same => ?_⟩
  have known := h.2 f hf
  rw [same] at known
  revert known
  decide

theorem ofResponse.reading {e : Entry} (h : ofResponse e) : ofReading e := by
  refine ⟨h.1, fun f hf same => ?_⟩
  cases (h.2 f hf).symm.trans same

section Entries

variable (nameOf : String → String)

theorem warn_ofParameters {code : FindingCode}
    (h : code ∈ [.unresolvedParameter, .unsupportedParameter, .unresolvedRequestBody])
    (message : String) (subject : Option String) :
    ofParameters (.finding .services ⟨code, .warning, message, subject⟩) := by
  refine ⟨rfl, fun f hf => ?_⟩
  cases hf
  exact h

theorem warnOperation_adds {code : FindingCode} (h : code ≠ .methodCollision) (message : String)
    (operation : Value) : Logged.Adds ofReading (warnOperation code message operation) := by
  refine (Logged.Adds.attempt _).bind fun subject => .note ⟨rfl, fun f hf => ?_⟩
  cases hf
  exact h

theorem knownParameters_adds (table operation params : Value) :
    Logged.Adds ofParameters (knownParameters table operation params) := by
  unfold knownParameters
  refine (Logged.Adds.attempt _).bind fun items => Logged.Adds.bind (.mapM fun item _ => ?_)
    fun targets => .pure _
  refine (Logged.Adds.attempt _).bind fun found => ?_
  cases found with
  | some param => exact .pure _
  | none => exact (Logged.Adds.note (warn_ofParameters (by decide) _ _)).bind fun _ => .pure _

theorem placedParameters_adds (operation : Value) (params : List Value) :
    Logged.Adds ofParameters (placedParameters nameOf operation params) := by
  unfold placedParameters
  refine Logged.Adds.bind (.mapM fun param _ => ?_) fun placed => .pure _
  split
  · exact (Logged.Adds.attempt _).bind fun p => .pure _
  · exact Logged.Adds.bind ((Logged.Adds.attempt _).bind fun subject =>
      .note (warn_ofParameters (by decide) _ _)) fun _ => .pure _

theorem requestBody_adds (table operation declared : Value) :
    Logged.Adds ofParameters (requestBody nameOf table operation declared) := by
  unfold requestBody
  split
  · exact .pure _
  · refine (Logged.Adds.attempt _).bind fun found => ?_
    cases found with
    | some body => exact .attempt _
    | none => exact (Logged.Adds.note (warn_ofParameters (by decide) _ _)).bind fun _ => .pure _

theorem operationParameters_adds (components : Components) (item operation id : Value) :
    Logged.Adds ofParameters (operationParameters nameOf components item operation id) := by
  unfold operationParameters
  refine (knownParameters_adds _ _ _).bind fun ofPath => ?_
  refine (knownParameters_adds _ _ _).bind fun ofOperation => ?_
  refine (Logged.Adds.attempt _).bind fun merged => ?_
  refine (placedParameters_adds nameOf _ _).bind fun params => ?_
  exact (requestBody_adds nameOf _ _ _).bind fun body => .pure _

theorem responseVariants_adds (s : Shared) (status : String) (response : Value) :
    Logged.Adds ofResponse (responseVariants nameOf s status response) := by
  unfold responseVariants
  simp only []
  split
  · exact (Logged.Adds.attempt _).bind fun single => .pure _
  · refine (Logged.Adds.attempt _).bind fun content => ?_
    unfold contentVariants
    refine Logged.Adds.bind (.mapM fun e _ => ?_) fun made => .pure _
    simp only []
    split
    · refine Logged.Adds.bind ((Logged.Adds.attempt _).bind fun subject => .note ⟨rfl, ?_⟩)
        fun _ => .pure _
      intro f hf
      cases hf
      rfl
    · exact (Logged.Adds.attempt _).bind fun v => .pure _

theorem variants_adds (components : Components) (e : Endpoint) :
    Logged.Adds ofReading (variants nameOf components e) := by
  unfold variants
  refine (Logged.Adds.attempt _).bind fun responses => ?_
  split
  · exact (warnOperation_adds (by decide) _ _).bind fun _ => .pure _
  · refine (Logged.Adds.attempt _).bind fun found => ?_
    cases found with
    | none => exact (warnOperation_adds (by decide) _ _).bind fun _ => .pure _
    | some response =>
        refine ((operationParameters_adds nameOf _ _ _ _).mono fun _ h => h.reading).bind
          fun body => ?_
        refine (Logged.Adds.attempt _).bind fun text => ?_
        exact (responseVariants_adds nameOf _ _ _).mono fun _ h => h.reading

end Entries

/-- A variant of an endpoint: it bears the id, and its method is named after that and
perhaps after a content type. -/
structure VariantOf (e : Endpoint) (o : Operation) : Prop where
  path : o.path = e.path
  method : o.method = e.method
  id : e.id = .text o.operationId
  name : ∃ label, Colonless label ∧ o.methodName =
    if label.isEmpty then Naming.camel o.operationId
    else Naming.camel o.operationId ++ "_" ++ label

theorem VariantOf.colonless {e : Endpoint} {o : Operation} (h : VariantOf e o) :
    Colonless o.methodName := by
  obtain ⟨label, hl, name⟩ := h.name
  have base := Naming.camel_colonless o.operationId
  rw [name]
  split
  · exact base
  · exact (base.append (by unfold Colonless; decide)).append hl

/-- What the variants of one operation share: all but their names and what they return. -/
structure Shares (e : Endpoint) (id : String) (body : RequestBody) (o : Operation) : Prop where
  id : o.operationId = id
  path : o.path = e.path
  method : o.method = e.method
  parameters : o.parameters = body.parameters
  summary : o.summary = (e.operation.field "summary").textOf?
  description : o.description = (e.operation.field "description").textOf?
  deprecated : o.deprecated = isSet e.operation "deprecated"
  contentType : o.requestContentType = body.contentType.textOf?

/-- The response that tells what an endpoint returns, if there is one that can be used. -/
def answer (components : Components) (e : Endpoint) : Attempt (Option Value) := do
  let responses ← fieldsOf (orEmptyMap (e.operation.field "responses"))
  match successResponse responses with
  | none => return none
  | some (_, declared) => target components.responses declared

/-- The content that a response declares; one that declares nothing has an empty one. -/
def contentOf (response : Value) : Value := orEmptyMap (response.field "content")

def hasSchema (entry : Scalar × Value) : Bool := !(mediaSchema entry.2).isNull

/-- No variant without a response that can be used, a single one if that has no content, and
else one for every content type that has a schema, in order. -/
inductive InOrder (components : Components) (e : Endpoint) : List Operation → Prop
  | none (unanswered : answer components e = .ok Option.none) : InOrder components e []
  | single {response : Value} {o : Operation} (answered : answer components e = .ok (some response))
      (bare : (contentOf response).truthy = false) (silent : o.acceptHeader = Option.none) :
      InOrder components e [o]
  | content {response : Value} {content : List (Scalar × Value)} {vs : List Operation}
      (answered : answer components e = .ok (some response))
      (present : (contentOf response).truthy = true)
      (entries : fieldsOf (contentOf response) = .ok content)
      (each : List.Forall₂ (fun c o => ∃ type, c.1 = .text type ∧ o.acceptHeader = some type)
        (content.filter hasSchema) vs) : InOrder components e vs

section Values

variable (nameOf : String → String)

/-- A variant has its label in its name, and shares the rest but for what it returns. -/
theorem variant_made {s : Shared} {label : String} {type : TypeExpr} {accept : Option String}
    {kind : Option ResponseKind} {o : Operation} (h : variant s label type accept kind = .ok o) :
    Shares s.endpoint s.id ⟨s.parameters, s.requestContentType⟩ o ∧
      o.methodName = (if label.isEmpty then s.baseName else s.baseName ++ "_" ++ label) ∧
      o.returnType = type ∧ o.acceptHeader = accept ∧ o.responseKind = kind := by
  unfold variant at h
  split at h
  · cases h
    exact ⟨⟨rfl, rfl, rfl, rfl, rfl, rfl, rfl, rfl⟩, rfl, rfl, rfl, rfl⟩
  · cases h

theorem variant_ok {s : Shared} {label : String} {type : TypeExpr} {accept : Option String}
    {kind : Option ResponseKind} {o : Operation} (hid : s.endpoint.id = .text s.id)
    (base : s.baseName = Naming.camel s.id) (hl : Colonless label)
    (h : variant s label type accept kind = .ok o) :
    VariantOf s.endpoint o ∧ o.acceptHeader = accept := by
  obtain ⟨shares, name, -, accepts, -⟩ := variant_made h
  rw [base, ← shares.id] at name
  exact ⟨⟨shares.path, shares.method, shares.id ▸ hid, label, hl, name⟩, accepts⟩

/-- A variant for a content type is the one with its label and its result. -/
theorem contentVariant_made {s : Shared} {contentType : Scalar} {schema : Value} {o : Operation}
    (h : contentVariant nameOf s contentType schema = .ok o) :
    ∃ type returnType, contentType = .text type ∧ resolve nameOf schema = .ok returnType ∧
      variant s (contentLabel type) returnType (some type) (responseKind? type) = .ok o := by
  obtain ⟨type, known, h⟩ := attempt_bind_ok h
  obtain ⟨returnType, resolved, h⟩ := attempt_bind_ok h
  refine ⟨type, returnType, ?_, resolved, h⟩
  unfold contentTypeOf at known
  split at known
  · cases known
    rfl
  · cases known
  · cases known

theorem contentVariant_ok {s : Shared} {contentType : Scalar} {schema : Value} {o : Operation}
    (hid : s.endpoint.id = .text s.id) (base : s.baseName = Naming.camel s.id)
    (h : contentVariant nameOf s contentType schema = .ok o) :
    VariantOf s.endpoint o ∧ ∃ type, contentType = .text type ∧ o.acceptHeader = some type := by
  obtain ⟨type, returnType, known, -, h⟩ := contentVariant_made nameOf h
  obtain ⟨made, accept⟩ := variant_ok hid base (contentLabel_colonless type) h
  exact ⟨made, type, known, accept⟩

/-- An entry of a content gives rise to a variant of a sort if it has a schema. -/
def Made (R : Scalar × Value → Operation → Prop) (c : Scalar × Value) : Option Operation → Prop
  | none => hasSchema c = false
  | some o => hasSchema c = true ∧ R c o

theorem forall₂_filter {R : Scalar × Value → Operation → Prop}
    {content : List (Scalar × Value)} {made : List (Option Operation)}
    (h : List.Forall₂ (Made R) content made) :
    List.Forall₂ R (content.filter hasSchema) (made.filterMap id) := by
  induction h with
  | nil => exact .nil
  | @cons c m content made here _ ih =>
      cases m with
      | none =>
          have absent : hasSchema c = false := here
          rw [List.filter_cons_of_neg (by simp [absent])]
          exact ih
      | some o =>
          rw [List.filter_cons_of_pos here.1]
          exact .cons here.2 ih

/-- The entries that have a schema give rise to the variants, one by one and in order. -/
theorem contentVariants_each {R : Scalar × Value → Operation → Prop} {s : Shared}
    (made : ∀ c o, contentVariant nameOf s c.1 (mediaSchema c.2) = .ok o → R c o) (status : String)
    (content : List (Scalar × Value)) :
    Logged.Yields (List.Forall₂ R (content.filter hasSchema))
      (contentVariants nameOf s status content) := by
  unfold contentVariants
  refine Logged.Yields.bind (Logged.Yields.mapM (T := Made R) fun c _ => ?_)
    fun ms each => .pure (forall₂_filter each)
  simp only []
  split
  · next h =>
    have absent : hasSchema c = false := by simpa [hasSchema] using h
    exact .next fun _ => .pure absent
  · next h =>
    refine (Logged.Yields.attempt (made c)).bind fun o ho => ?_
    exact .pure ⟨by simpa [hasSchema] using h, ho⟩

theorem contentVariants_yields {s : Shared} (hid : s.endpoint.id = .text s.id)
    (base : s.baseName = Naming.camel s.id) (status : String) (content : List (Scalar × Value)) :
    Logged.Yields (fun vs => (∀ o ∈ vs, VariantOf s.endpoint o) ∧
        List.Forall₂ (fun c o => ∃ type, c.1 = .text type ∧ o.acceptHeader = some type)
          (content.filter hasSchema) vs)
      (contentVariants nameOf s status content) :=
  (contentVariants_each nameOf (fun _ _ h => contentVariant_ok nameOf hid base h) status
    content).mono fun _ each =>
      ⟨forall₂_right (each.imp fun _ _ h => h.1), each.imp fun _ _ h => h.2⟩

theorem text_of_operationIdText {id : Value} {text : String}
    (h : operationIdText id = .ok text) : id = .text text := by
  unfold operationIdText at h
  split at h
  · next s hs =>
    obtain ⟨t, rfl⟩ := text_of_isSome (Option.isSome_of_eq_some hs)
    cases hs
    cases h
    rfl
  · cases h

theorem answer_of_declared {components : Components} {e : Endpoint}
    {responses : List (Scalar × Value)} {status : String} {declared : Value} {found : Option Value}
    (h : fieldsOf (orEmptyMap (e.operation.field "responses")) = .ok responses)
    (success : successResponse responses = some (status, declared))
    (reached : target components.responses declared = .ok found) :
    answer components e = .ok found := by
  simp only [answer, bind, Except.bind, h, success, reached]

/-- Variants are variants of the endpoint, in the order of its content types. -/
theorem variants_yields (components : Components) (e : Endpoint) :
    Logged.Yields (fun vs => (∀ o ∈ vs, VariantOf e o) ∧ InOrder components e vs)
      (variants nameOf components e) := by
  have nothing : ∀ o ∈ ([] : List Operation), VariantOf e o :=
    fun o ho => absurd ho List.not_mem_nil
  unfold variants
  refine (Logged.Yields.attempt fun responses h => h).bind fun responses hresponses => ?_
  split
  · next silent =>
    have unanswered : answer components e = .ok none := by
      simp only [answer, bind, Except.bind, hresponses, silent]
      rfl
    exact .next fun _ => .pure ⟨nothing, .none unanswered⟩
  · next status declared success =>
    refine (Logged.Yields.attempt fun found h => h).bind fun found reached => ?_
    have answered := answer_of_declared hresponses success reached
    cases found with
    | none => exact .next fun _ => .pure ⟨nothing, .none answered⟩
    | some response =>
        refine .next fun body => (Logged.Yields.attempt fun text h => h).bind fun text htext => ?_
        have hid := text_of_operationIdText htext
        unfold responseVariants
        simp only []
        split
        · next bare =>
          refine (Logged.Yields.attempt fun single h =>
            variant_ok (s := ⟨text, Naming.camel text, e, body.parameters, body.contentType⟩)
              hid rfl (by unfold Colonless; decide) h).bind fun single h => ?_
          refine .pure ⟨fun o ho => ?_, .single answered (by simpa [contentOf] using bare) h.2⟩
          exact List.mem_singleton.mp ho ▸ h.1
        · next present =>
          refine (Logged.Yields.attempt fun content h => h).bind fun content entries => ?_
          refine (contentVariants_yields nameOf
            (s := ⟨text, Naming.camel text, e, body.parameters, body.contentType⟩) hid rfl status
            content).mono fun vs made => ⟨made.1, ?_⟩
          exact .content answered (by simpa [contentOf] using present) entries made.2

end Values
end SdkBlueprint.Services
