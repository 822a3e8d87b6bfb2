import SdkBlueprint.Proofs.Services.Skipped

/-! References in services. Every parameter has the type of a schema that the document gives
it, and every operation returns nothing or the type of a content of its response. -/
namespace SdkBlueprint.Services
open SdkBlueprint.Document SdkBlueprint.Schema

/-- The schema of a parameter: it stands in an object that the path or the operation lists, or
in the first content of the request body. -/
inductive ParameterSchema (components : Components) (e : Endpoint) (p : Parameter) : Value → Prop
  | declared {holder items item param} (listed : holder = e.item ∨ holder = e.operation)
      (all : iterate (orEmptyList (holder.field "parameters")) = .ok items) (member : item ∈ items)
      (leads : Leads components.parameters item param)
      (place : declaredPlace? (param.field "in") = some p.place) :
      ParameterSchema components e p (param.field "schema")
  | body {object contentType media} (place : p.place = .body)
      (leads : Leads components.requestBodies (e.operation.field "requestBody") object)
      (first : firstContent (object.field "content") = .ok (contentType, media)) :
      ParameterSchema components e p (mediaSchema media)

/-- The schema of what an operation returns: an entry in the content of its response. -/
def ReturnSchema (components : Components) (e : Endpoint) (node : Value) : Prop :=
  ∃ status declared object entries entry, Declares e status declared ∧
    Leads components.responses declared object ∧ object.field "content" = .map entries ∧
    entry ∈ entries ∧ mediaSchema entry.2 = node

section Parameters

theorem knownParameters_yields (table operation params : Value) :
    Logged.Yields (fun found => ∃ items, iterate params = .ok items ∧
        ∀ param ∈ found, ∃ item ∈ items, Leads table item param)
      (knownParameters table operation params) := by
  unfold knownParameters
  refine (Logged.Yields.attempt fun items h => h).bind fun items hi => ?_
  refine (Logged.Yields.mapM (T := fun item found => ∀ param, found = some param →
    Leads table item param) fun item _ => ?_).bind fun targets all => ?_
  · refine (Logged.Yields.attempt fun found h => h).bind fun found reached => ?_
    cases found with
    | none => exact .next fun _ => .pure fun _ h => by cases h
    | some param =>
        refine .pure ?_
        rintro _ ⟨⟩
        exact (target_eq_some_iff reached param).mp rfl
  · refine .pure ⟨items, hi, fun param hp => ?_⟩
    obtain ⟨found, hf, rfl⟩ := List.mem_filterMap.mp hp
    obtain ⟨item, hitem, leads⟩ := forall₂_exists_left all _ hf
    exact ⟨item, hitem, leads param rfl⟩

theorem combinedParameters_mem {ofPath ofOperation merged : List Value}
    (h : combinedParameters ofPath ofOperation = .ok merged) :
    ∀ param ∈ merged, param ∈ ofPath ∨ param ∈ ofOperation := by
  obtain ⟨replaced, _, h⟩ := attempt_bind_ok h
  obtain ⟨own, each, h⟩ := attempt_bind_ok h
  cases h
  have sources : ∀ p ∈ own, p.1 ∈ ofPath := by
    intro p hp
    obtain ⟨param, hparam, made⟩ := forall₂_exists_left (attempt_mapM_ok each) p hp
    obtain ⟨_, _, made⟩ := attempt_bind_ok made
    cases made
    exact hparam
  intro param hp
  refine (List.mem_append.mp hp).imp_left fun kept => ?_
  obtain ⟨p, hkept, rfl⟩ := List.mem_map.mp kept
  exact sources p (List.mem_filter.mp hkept).1

theorem describedParameter_ok {name : String} {type : TypeExpr} {place : ParameterPlace}
    {required : Bool} {description : Value} {p : Parameter}
    (h : describedParameter name type place required description = .ok p) :
    p.type = type ∧ p.place = place := by
  obtain ⟨text, _, h⟩ := attempt_bind_ok h
  cases h
  exact ⟨rfl, rfl⟩

variable (nameOf : String → String)

theorem parameter_ok {param : Value} {place : ParameterPlace} {p : Parameter}
    (h : parameter nameOf param place = .ok p) :
    p.place = place ∧ resolve nameOf (param.field "schema") = .ok p.type := by
  obtain ⟨type, htype, h⟩ := attempt_bind_ok h
  obtain ⟨rfl, place⟩ := describedParameter_ok h
  exact ⟨place, htype⟩

theorem placedParameters_yields (operation : Value) (params : List Value) :
    Logged.Yields (fun ps => ∀ p ∈ ps, ∃ param ∈ params,
        declaredPlace? (param.field "in") = some p.place ∧
        resolve nameOf (param.field "schema") = .ok p.type)
      (placedParameters nameOf operation params) := by
  unfold placedParameters
  refine (Logged.Yields.mapM (T := fun param placed => ∀ p, placed = some p →
    declaredPlace? (param.field "in") = some p.place ∧
    resolve nameOf (param.field "schema") = .ok p.type) fun param _ => ?_).bind
      fun placed all => .pure fun p hp => ?_
  · split
    · next place hplace =>
      refine (Logged.Yields.attempt fun p hp => hp).bind fun p made => .pure ?_
      rintro _ ⟨⟩
      obtain ⟨rfl, type⟩ := parameter_ok nameOf made
      exact ⟨hplace, type⟩
    · refine .next fun _ => .pure ?_
      rintro p ⟨⟩
  · obtain ⟨found, hf, rfl⟩ := List.mem_filterMap.mp hp
    obtain ⟨param, hparam, made⟩ := forall₂_exists_left all _ hf
    exact ⟨param, hparam, made p rfl⟩

theorem bodyParameters_ok {body : Value} {made : RequestBody}
    (h : bodyParameters nameOf body = .ok made) : ∀ p ∈ made.parameters, p.place = .body ∧
      ∃ contentType media, firstContent (body.field "content") = .ok (contentType, media) ∧
        resolve nameOf (mediaSchema media) = .ok p.type := by
  unfold bodyParameters at h
  intro p hp
  simp only [] at h
  split at h
  · cases h
    cases hp
  · obtain ⟨⟨contentType, media⟩, first, h⟩ := attempt_bind_ok h
    simp only [] at h
    split at h
    · cases h
      cases hp
    · obtain ⟨type, htype, h⟩ := attempt_bind_ok h
      obtain ⟨param, hparam, h⟩ := attempt_bind_ok h
      cases h
      obtain ⟨rfl, place⟩ := describedParameter_ok hparam
      rw [List.mem_singleton.mp hp]
      exact ⟨place, contentType, media, first, htype⟩

theorem requestBody_yields (table operation declared : Value) :
    Logged.Yields (fun made => ∀ p ∈ made.parameters, p.place = .body ∧
        ∃ object contentType media, Leads table declared object ∧
          firstContent (object.field "content") = .ok (contentType, media) ∧
          resolve nameOf (mediaSchema media) = .ok p.type)
      (requestBody nameOf table operation declared) := by
  unfold requestBody
  split
  · exact .pure fun p hp => by cases hp
  · refine (Logged.Yields.attempt fun found h => h).bind fun found reached => ?_
    cases found with
    | none => exact .next fun _ => .pure fun p hp => by cases hp
    | some object =>
        refine Logged.Yields.attempt fun made h p hp => ?_
        obtain ⟨place, contentType, media, first, type⟩ := bodyParameters_ok nameOf h p hp
        exact ⟨place, object, contentType, media, (target_eq_some_iff reached object).mp rfl,
          first, type⟩

/-- Every parameter has the type of a schema that the document gives it. -/
theorem operationParameters_yields (components : Components) (e : Endpoint) (id : Value) :
    Logged.Yields (fun body => ∀ p ∈ body.parameters, ∃ node, ParameterSchema components e p node ∧
        resolve nameOf node = .ok p.type)
      (operationParameters nameOf components e.item e.operation id) := by
  unfold operationParameters
  refine (knownParameters_yields _ _ _).bind fun ofPath fromPath => ?_
  refine (knownParameters_yields _ _ _).bind fun ofOperation fromOperation => ?_
  refine (Logged.Yields.attempt fun merged h => combinedParameters_mem h).bind
    fun merged either => ?_
  refine (placedParameters_yields nameOf _ _).bind fun params placed => ?_
  refine (requestBody_yields nameOf _ _ _).bind fun body ofBody => .pure fun p hp => ?_
  rcases List.mem_append.mp hp with hp | hp
  · obtain ⟨param, hparam, place, type⟩ := placed p hp
    refine ⟨_, ?_, type⟩
    rcases either param hparam with hparam | hparam
    · obtain ⟨items, all, known⟩ := fromPath
      obtain ⟨item, member, leads⟩ := known param hparam
      exact .declared (.inl rfl) all member leads place
    · obtain ⟨items, all, known⟩ := fromOperation
      obtain ⟨item, member, leads⟩ := known param hparam
      exact .declared (.inr rfl) all member leads place
  · obtain ⟨place, object, contentType, media, leads, first, type⟩ := ofBody p hp
    exact ⟨_, .body place leads first, type⟩

end Parameters

section Operations

variable {settings : Settings} {nameOf : String → String} {components : Components}
variable {document : Value}

/-- The names in an operation are the given ones of the keys that the document refers to. -/
structure Refers (nameOf : String → String) (components : Components) (e : Endpoint)
    (o : Operation) : Prop where
  serves : Serves e o
  parameters : ∀ p ∈ o.parameters, ∃ node, ParameterSchema components e p node ∧
    resolve nameOf node = .ok p.type
  returns : o.returnType = .void ∨ ∃ node, ReturnSchema components e node ∧
    resolve nameOf node = .ok o.returnType

theorem Comes.refers {e : Endpoint} {id : String} {reply : Reply} {vs : List Operation}
    {fs : List Finding} (hid : e.id = .text id) (replies : Replies components e reply)
    (h : Comes nameOf components e id reply vs fs) : ∀ v ∈ vs, Refers nameOf components e v := by
  have typed : ∀ {body : RequestBody} {v : Operation},
      (operationParameters nameOf components e.item e.operation (.text id)).result = .ok body →
      Shares e id body v → Serves e v ∧ ∀ p ∈ v.parameters, ∃ node,
        ParameterSchema components e p node ∧ resolve nameOf node = .ok p.type := by
    intro body v read shares
    refine ⟨⟨shares.id ▸ hid, shares.path, shares.method⟩, ?_⟩
    rw [shares.parameters]
    exact operationParameters_yields nameOf components e (.text id) [] body _ (Prod.ext read rfl)
  intro v hv
  cases h with
  | missing => cases hv
  | unresolved => cases hv
  | bare read shared void =>
      obtain ⟨serves, parameters⟩ := typed read shared
      rw [List.mem_singleton.mp hv]
      exact ⟨serves, parameters, .inl void⟩
  | content read shared each =>
      obtain ⟨serves, parameters⟩ := typed read (shared v hv)
      refine ⟨serves, parameters, .inr ?_⟩
      cases replies with
      | content first leads filled =>
          obtain ⟨entry, hentry, accepts⟩ := forall₂_exists_left each v hv
          exact ⟨_, ⟨_, _, _, _, entry, first, leads, filled, (List.mem_filter.mp hentry).1, rfl⟩,
            accepts.returns⟩

theorem Settles.refers {e : Endpoint} {v o : Operation} (h : Settles v o)
    (refers : Refers nameOf components e v) : Refers nameOf components e o := by
  rw [h.rest]
  exact ⟨refers.serves, refers.parameters, refers.returns⟩

/-- Whatever a service stores is a variant of an endpoint and is named by its references. -/
theorem services_refer {j k : Journal} {ss : List Service}
    (run : (services settings nameOf document).run j = (.ok ss, k)) :
    ∃ components paths, Components.ofDocument document = .ok components ∧
      fieldsOf (orEmptyMap (document.field "paths")) = .ok paths ∧
      ∀ s ∈ ss, ∀ o ∈ s.operations.values,
        ∃ e ∈ paths.flatMap fun p => Endpoint.ofItem p.1.display p.2,
          Refers nameOf components e o := by
  obtain ⟨components, paths, readings, hcomponents, hpaths, reads, stores, _⟩ := services_read run
  refine ⟨components, paths, hcomponents, hpaths, fun s hs o ho => ?_⟩
  obtain ⟨r, hr, _, v, hv, settles⟩ := stores.read s hs o ho
  obtain ⟨e, he, reads⟩ := forall₂_exists_left reads r hr
  obtain ⟨id, reply, accounted⟩ := reads.accounted
  have replies := (accounted.replies reply).mpr rfl
  exact ⟨e, he, settles.refers (accounted.comes.refers accounted.id replies v hv)⟩

end Operations
end SdkBlueprint.Services
