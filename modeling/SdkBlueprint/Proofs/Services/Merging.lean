import SdkBlueprint.Proofs.Services.Outcomes
import SdkBlueprint.Proofs.Services.Typed

/-! Merging of parameters. What a path and an operation list is followed to its objects, put in one
list and told apart by name and place; what is left out is warned about one by one. -/
namespace SdkBlueprint.Services
open SdkBlueprint.Document SdkBlueprint.Schema

/-- A part by which parameters are told apart. It is empty where it is absent. -/
def partOf (param : Value) (field : String) : Option String :=
  ((param.field? field).getD (.text "")).textOf?

/-- Name and place, as they are declared. -/
def pairOf (param : Value) : Option String × Option String :=
  (partOf param "name", partOf param "in")

/-- The parameters of the path whose pairs the operation does not have, then its own. -/
def merged (ofPath ofOperation : List Value) : List Value :=
  (ofPath.filter fun param => pairOf param ∉ ofOperation.map pairOf) ++ ofOperation

/-- The place is one from which a parameter may come. -/
def isLocated (param : Value) : Bool :=
  [some "path", some "query", some "header"].contains (param.field "in").textOf?

/-- The codes of warnings about parameters that are left out. -/
def lossCodes : List FindingCode := [.unresolvedParameter, .unsupportedParameter]

def unresolvedParameter (operation : String) (item : Value) : Finding :=
  let ref := (referent item).display
  ⟨.unresolvedParameter, .warning, unresolvedParameterMessage ref operation, some ref⟩

def unsupportedParameter (operation : String) (param : Value) : Finding :=
  ⟨.unsupportedParameter, .warning,
    unsupportedMessage (param.field "name").display operation (param.field "in").display,
    some operation⟩

/-- A list with its references followed: the objects at their ends, and a warning for every
item that leads to none. -/
inductive Followed (table : Value) (operation : String) :
    List Value → List Value → List Finding → Prop
  | nil : Followed table operation [] [] []
  | found {item param items found lost} (leads : Leads table item param)
      (rest : Followed table operation items found lost) :
      Followed table operation (item :: items) (param :: found) lost
  | lost {item items found lost} (nowhere : ∀ object, ¬ Leads table item object)
      (rest : Followed table operation items found lost) :
      Followed table operation (item :: items) found
        (unresolvedParameter operation item :: lost)

/-- The parameter is what the object declares. -/
structure Describes (nameOf : String → String) (param : Value) (p : Parameter) : Prop where
  name : p.name = ((param.field? "name").getD (.text "")).display
  place : param.field "in" = .text p.place.label
  declared : p.place ≠ .body
  type : resolve nameOf (param.field "schema") = .ok p.type
  required : p.isRequired = (isSet param "required" || p.place == .path)
  description : p.description = (param.field "description").textOf?

/-- The declared body leads to an object whose first content is an object with the schema. -/
structure BodySchema (table declared object schema : Value) : Prop where
  leads : Leads table declared object
  first : ∃ contentType media rest, object.field "content" = .map ((contentType, media) :: rest) ∧
    media.isMap = true ∧ media.field "schema" = schema
  given : schema ≠ .null

/-- The parameter stands for the body with the schema. -/
structure DescribesBody (nameOf : String → String) (object schema : Value) (p : Parameter) :
    Prop where
  name : p.name = "body"
  place : p.place = .body
  type : resolve nameOf schema = .ok p.type
  required : p.isRequired = isSet object "required"
  description : p.description = (object.field "description").textOf?

/-- There is a parameter for the body just if it has a schema. -/
inductive BodyOf (nameOf : String → String) (table declared : Value) : Option Parameter → Prop
  | none (absent : ∀ object schema, ¬ BodySchema table declared object schema) :
      BodyOf nameOf table declared none
  | some {object schema p} (given : BodySchema table declared object schema)
      (describes : DescribesBody nameOf object schema p) : BodyOf nameOf table declared (some p)

section Following

variable {table : Value} {operation : String}

theorem Followed.leads {items found : List Value} {lost : List Finding}
    (h : Followed table operation items found lost) :
    ∀ param ∈ found, ∃ item ∈ items, Leads table item param := by
  induction h with
  | nil => simp
  | found leads _ ih =>
      rw [List.forall_mem_cons]
      refine ⟨⟨_, List.mem_cons_self, leads⟩, fun param hparam => ?_⟩
      obtain ⟨item, hitem, known⟩ := ih param hparam
      exact ⟨item, List.mem_cons_of_mem _ hitem, known⟩
  | lost _ _ ih =>
      intro param hparam
      obtain ⟨item, hitem, known⟩ := ih param hparam
      exact ⟨item, List.mem_cons_of_mem _ hitem, known⟩

theorem Followed.unresolved {items found : List Value} {lost : List Finding}
    (h : Followed table operation items found lost) :
    ∀ f ∈ lost, f.code = .unresolvedParameter := by
  induction h with
  | nil => simp
  | found _ _ ih => exact ih
  | lost _ _ ih => exact List.forall_mem_cons.mpr ⟨rfl, ih⟩

/-- What becomes of one item: its object, or the warning about it. -/
inductive Follows (table : Value) (operation : String) (item : Value) :
    Option Value → Journal → Prop
  | found {param} (leads : Leads table item param) :
      Follows table operation item (some param) []
  | lost (nowhere : ∀ object, ¬ Leads table item object) :
      Follows table operation item none
        [.finding .services (unresolvedParameter operation item)]

theorem followed_of_follows {items : List Value} {made : List (Option Value × Journal)}
    (h : List.Forall₂ (fun item m => Follows table operation item m.1 m.2) items made) :
    ∃ lost, Followed table operation items ((made.map Prod.fst).filterMap id) lost ∧
      made.flatMap Prod.snd = lost.map (Entry.finding .services) := by
  induction h with
  | nil => exact ⟨[], .nil, rfl⟩
  | @cons item m items made here _ ih =>
      obtain ⟨found, noted⟩ := m
      obtain ⟨lost, followed, told⟩ := ih
      cases here with
      | found leads => exact ⟨lost, .found leads followed, told⟩
      | lost nowhere => exact ⟨_ :: lost, .lost nowhere followed, congrArg _ told⟩

theorem knownParameters_tells (table : Value) (operation : String) (params : Value) :
    Logged.Tells (fun found es => ∃ items lost, iterate params = .ok items ∧
        Followed table operation items found lost ∧ es = lost.map (Entry.finding .services))
      (knownParameters table (.text operation) params) := by
  unfold knownParameters
  refine (Logged.Tells.attempt (R := fun items es => es = [] ∧ iterate params = .ok items)
    fun items h => ⟨rfl, h⟩).bind ?_
  rintro items _ ⟨rfl, listed⟩
  refine Logged.Tells.bind (Logged.Tells.mapM (T := Follows table operation) fun item _ => ?_) ?_
  · refine (Logged.Tells.attempt (R := fun found es => es = [] ∧
      target table item = .ok found) fun found h => ⟨rfl, h⟩).bind ?_
    rintro found _ ⟨rfl, reached⟩
    have leads := target_eq_some_iff reached
    cases found with
    | some param => exact .pure (.found ((leads param).mp rfl))
    | none =>
        have nowhere : ∀ object, ¬ Leads table item object :=
          fun object h => absurd ((leads object).mpr h) (by simp)
        simp only [display_text]
        refine Logged.Tells.bind (R := fun _ es =>
          es = [.finding .services (unresolvedParameter operation item)]) (.note rfl) ?_
        rintro _ _ rfl
        exact .pure (.lost nowhere)
  · rintro _ _ ⟨made, each, rfl, rfl⟩
    obtain ⟨lost, followed, told⟩ := followed_of_follows each
    refine .pure ⟨items, lost, listed, followed, ?_⟩
    rw [List.nil_append, List.append_nil, told]

end Following

section Pairs

/-- The scalar that a part is compared by. -/
def scalarOf : Option String → Scalar
  | some s => .text s
  | none => .null

theorem same_scalarOf (a b : Option String) : (scalarOf a).same (scalarOf b) = (a == b) := by
  cases a <;> cases b <;> rfl

theorem identityPart_scalarOf {param : Value} {field : String}
    (h : isTextOrNull (param.field field)) :
    identityPart param field = .ok (scalarOf (partOf param field)) := by
  unfold identityPart partOf
  cases hf : param.field? field with
  | none => rfl
  | some v =>
      rw [field?_eq_some hf] at h
      rcases textOrNull_cases h with rfl | ⟨s, rfl⟩ <;> rfl

/-- The key that a parameter is merged by. -/
def keyOf (param : Value) : Scalar × Scalar :=
  (scalarOf (pairOf param).1, scalarOf (pairOf param).2)

theorem identity_keyOf {param : Value} (object : param.isMap) (typed : TypedParameter param) :
    identity param = .ok (keyOf param) := by
  obtain ⟨fields, hfields⟩ := fieldsOf_isMap object
  rw [identity, hfields, identityPart_scalarOf typed.name, identityPart_scalarOf typed.place]
  rfl

theorem sameIdentity_keyOf (param other : Value) :
    sameIdentity (keyOf param) (keyOf other) = (pairOf param == pairOf other) := by
  rw [sameIdentity, keyOf, keyOf, same_scalarOf, same_scalarOf]
  rfl

/-- What is merged is merged by pairs, where names and places have their types. -/
theorem combinedParameters_merged {ofPath ofOperation : List Value}
    (path : ∀ param ∈ ofPath, identity param = .ok (keyOf param))
    (own : ∀ param ∈ ofOperation, identity param = .ok (keyOf param)) :
    combinedParameters ofPath ofOperation = .ok (merged ofPath ofOperation) := by
  have pairs : ofPath.mapM (fun param => do return (param, ← identity param)) =
      .ok (ofPath.map fun param => (param, keyOf param)) :=
    mapM_eq_map fun param hparam => by rw [path param hparam]; rfl
  rw [combinedParameters, mapM_eq_map own]
  simp only [bind, Except.bind] at pairs ⊢
  rw [pairs]
  refine congrArg Except.ok (congrArg (· ++ ofOperation) ?_)
  rw [List.filter_map, List.map_map]
  refine (List.map_id _).trans (List.filter_congr fun param _ => ?_)
  have replaced : (ofOperation.map keyOf).any (sameIdentity (keyOf param)) =
      decide (pairOf param ∈ ofOperation.map pairOf) := by
    rw [Bool.eq_iff_iff, List.any_map, List.any_eq_true, decide_eq_true_iff, List.mem_map]
    simp only [Function.comp_apply, sameIdentity_keyOf, beq_iff_eq]
    exact exists_congr fun other => and_congr_right fun _ => eq_comm
  simp only [Function.comp_apply, replaced, decide_not]

theorem merged_mem {ofPath ofOperation : List Value} :
    ∀ param ∈ merged ofPath ofOperation, param ∈ ofPath ∨ param ∈ ofOperation := by
  intro param hparam
  exact (List.mem_append.mp hparam).imp_left fun kept => (List.mem_filter.mp kept).1

theorem merged_nodup {ofPath ofOperation : List Value} (path : (ofPath.map pairOf).Nodup)
    (own : (ofOperation.map pairOf).Nodup) :
    ((merged ofPath ofOperation).map pairOf).Nodup := by
  rw [merged, List.map_append, List.nodup_append]
  refine ⟨path.sublist (List.filter_sublist.map pairOf), own, ?_⟩
  intro pair hpair other hother same
  obtain ⟨param, kept, rfl⟩ := List.mem_map.mp hpair
  have fresh := (List.mem_filter.mp kept).2
  exact of_decide_eq_true fresh (same ▸ hother)

end Pairs

section Placing

variable {nameOf : String → String}

theorem optionalText_textOf {record : RecordKind} {field : String} {v : Value}
    {text : Option String} (h : optionalText record field v = .ok text) : text = v.textOf? := by
  unfold optionalText at h
  split at h
  · cases h
    rfl
  · cases h
    rfl
  · cases h

theorem textOf?_eq_some_iff {v : Value} {s : String} : v.textOf? = some s ↔ v = .text s := by
  constructor
  · intro h
    obtain ⟨t, rfl⟩ := text_of_isSome (Option.isSome_of_eq_some h)
    exact congrArg Value.text (Option.some.inj h)
  · rintro rfl
    rfl

theorem declaredPlace?_iff {v : Value} {place : ParameterPlace} :
    declaredPlace? v = some place ↔ v = .text place.label ∧ place ≠ .body := by
  constructor
  · intro h
    unfold declaredPlace? at h
    split at h
    case h_4 => cases h
    all_goals
      next text =>
      cases h
      exact ⟨textOf?_eq_some_iff.mp text, by decide⟩
  · rintro ⟨rfl, known⟩
    cases place with
    | body => exact absurd rfl known
    | _ => rfl

theorem isLocated_iff {param : Value} :
    isLocated param = true ↔ ∃ place, declaredPlace? (param.field "in") = some place := by
  unfold isLocated declaredPlace?
  generalize (param.field "in").textOf? = text
  split <;> simp_all

theorem parameter_describes {param : Value} {place : ParameterPlace} {p : Parameter}
    (located : declaredPlace? (param.field "in") = some place)
    (h : parameter nameOf param place = .ok p) : Describes nameOf param p := by
  obtain ⟨type, htype, h⟩ := attempt_bind_ok h
  obtain ⟨text, htext, h⟩ := attempt_bind_ok h
  cases h
  obtain ⟨declared, known⟩ := declaredPlace?_iff.mp located
  exact ⟨rfl, declared, known, htype, rfl, optionalText_textOf htext⟩

/-- What becomes of one object: its parameter, or the warning about its place. -/
inductive Places (nameOf : String → String) (operation : String) (param : Value) :
    Option Parameter → Journal → Prop
  | placed {p} (located : isLocated param = true) (describes : Describes nameOf param p) :
      Places nameOf operation param (some p) []
  | astray (elsewhere : isLocated param = false) : Places nameOf operation param none
      [.finding .services (unsupportedParameter operation param)]

theorem described_of_places {operation : String} {params : List Value}
    {made : List (Option Parameter × Journal)}
    (h : List.Forall₂ (fun param m => Places nameOf operation param m.1 m.2) params made) :
    List.Forall₂ (Describes nameOf) (params.filter isLocated)
        ((made.map Prod.fst).filterMap id) ∧
      made.flatMap Prod.snd = ((params.filter fun param => !isLocated param).map
        (unsupportedParameter operation)).map (Entry.finding .services) := by
  induction h with
  | nil => exact ⟨.nil, rfl⟩
  | @cons param m params made here _ ih =>
      obtain ⟨p, noted⟩ := m
      obtain ⟨each, told⟩ := ih
      cases here with
      | placed located describes =>
          rw [List.filter_cons_of_pos located, List.filter_cons_of_neg (by simp [located])]
          exact ⟨.cons describes each, told⟩
      | astray elsewhere =>
          rw [List.filter_cons_of_neg (by simp [elsewhere]),
            List.filter_cons_of_pos (by simp [elsewhere])]
          exact ⟨each, congrArg _ told⟩

theorem placedParameters_tells (operation : String) (params : List Value) :
    Logged.Tells (fun ps es =>
        List.Forall₂ (Describes nameOf) (params.filter isLocated) ps ∧
        es = ((params.filter fun param => !isLocated param).map
          (unsupportedParameter operation)).map (Entry.finding .services))
      (placedParameters nameOf (.text operation) params) := by
  unfold placedParameters
  refine Logged.Tells.bind (Logged.Tells.mapM (T := Places nameOf operation)
    fun param _ => ?_) ?_
  · split
    · next place located =>
      refine (Logged.Tells.attempt (R := fun p es => es = [] ∧ Describes nameOf param p)
        fun p hp => ⟨rfl, parameter_describes located hp⟩).bind ?_
      rintro p _ ⟨rfl, describes⟩
      exact .pure (.placed (isLocated_iff.mpr ⟨place, located⟩) describes)
    · next none =>
      have elsewhere : isLocated param = false := by
        rw [Bool.eq_false_iff]
        intro located
        obtain ⟨place, found⟩ := isLocated_iff.mp located
        cases none.symm.trans found
      simp only [display_text]
      refine (warnOperation_tells _ _ operation).bind ?_
      rintro _ _ rfl
      exact .pure (.astray elsewhere)
  · rintro _ _ ⟨made, each, rfl, rfl⟩
    obtain ⟨described, told⟩ := described_of_places each
    refine .pure ⟨described, ?_⟩
    rw [List.append_nil, told]

end Placing

section Bodies

variable {nameOf : String → String} {table declared : Value}

theorem describedParameter_body {object schema : Value} {type : TypeExpr} {p : Parameter}
    (resolved : resolve nameOf schema = .ok type)
    (h : describedParameter "body" type .body (isSet object "required")
      (object.field "description") = .ok p) : DescribesBody nameOf object schema p := by
  obtain ⟨text, htext, h⟩ := attempt_bind_ok h
  cases h
  exact ⟨rfl, rfl, resolved, rfl, optionalText_textOf htext⟩

/-- A body whose content is a mapping has a parameter just if its first content has a schema. -/
theorem bodyParameters_body {object : Value} {made : RequestBody}
    (leads : Leads table declared object) (typed : isMapOrNull (object.field "content"))
    (h : bodyParameters nameOf object = .ok made) :
    ∃ body : Option Parameter, made.parameters = body.toList ∧
      BodyOf nameOf table declared body := by
  -- Any schema of the body stands in the first content of this object.
  have first : ∀ {object' schema}, BodySchema table declared object' schema →
      ∃ contentType media rest, object.field "content" = .map ((contentType, media) :: rest) ∧
        media.isMap = true ∧ media.field "schema" = schema ∧ schema ≠ .null := by
    rintro object' schema ⟨leads', ⟨contentType, media, rest, filled, isMap, same⟩, given⟩
    cases leads.unique leads'
    exact ⟨contentType, media, rest, filled, isMap, same, given⟩
  unfold bodyParameters at h
  simp only [] at h
  rcases mapOrNull_cases typed with empty | ⟨entries, filled⟩
  · rw [empty] at h first
    cases h
    refine ⟨none, rfl, .none fun object' schema other => ?_⟩
    obtain ⟨_, _, _, ⟨⟩, _⟩ := first other
  · cases entries with
    | nil =>
        rw [filled] at h first
        cases h
        refine ⟨none, rfl, .none fun object' schema other => ?_⟩
        obtain ⟨_, _, _, ⟨⟩, _⟩ := first other
    | cons entry rest =>
        obtain ⟨key, media⟩ := entry
        rw [filled] at h first
        obtain ⟨⟨contentType, media'⟩, ⟨⟩, h⟩ := attempt_bind_ok h
        by_cases absent : (mediaSchema media).isNull = true
        · simp only [absent, if_true] at h
          cases h
          refine ⟨none, rfl, .none fun object' schema other => ?_⟩
          obtain ⟨_, _, _, ⟨⟩, _, rfl, given⟩ := first other
          exact given (eq_null_of_isNull absent)
        · simp only [absent] at h
          obtain ⟨type, resolved, h⟩ := attempt_bind_ok h
          obtain ⟨p, described, h⟩ := attempt_bind_ok h
          cases h
          have given : mediaSchema media ≠ .null := fun null => absent (by rw [null]; rfl)
          have isMap : media.isMap = true := by
            by_contra other
            exact given (field_of_not_map (by simpa using other) _)
          exact ⟨some p, rfl, .some ⟨leads, ⟨_, media, rest, filled, isMap, rfl⟩, given⟩
            (describedParameter_body resolved described)⟩

theorem requestBody_tells (operation : Value)
    (typed : ∀ object, Leads table declared object → TypedBody object) :
    Logged.Tells (fun made es => (∃ body : Option Parameter, made.parameters = body.toList ∧
        BodyOf nameOf table declared body) ∧
        about lossCodes es = [])
      (requestBody nameOf table operation declared) := by
  have nothing : (∀ object, ¬ Leads table declared object) →
      ∃ body : Option Parameter, ([] : List Parameter) = body.toList ∧
        BodyOf nameOf table declared body :=
    fun nowhere => ⟨none, rfl, .none fun object schema h => nowhere object h.leads⟩
  unfold requestBody
  split
  · next null =>
    have absent : declared = .null := eq_null_of_isNull null
    refine .pure ⟨nothing fun object leads => ?_, rfl⟩
    rw [absent] at leads
    obtain ⟨_, by_⟩ := leads
    cases by_ with
    | here object => cases object
    | there refers => cases refers
  · refine (Logged.Tells.attempt (R := fun found es => es = [] ∧
      target table declared = .ok found) fun found h => ⟨rfl, h⟩).bind ?_
    rintro found _ ⟨rfl, reached⟩
    have leads := target_eq_some_iff reached
    cases found with
    | some object =>
        have known := (leads object).mp rfl
        exact .attempt fun made h =>
          ⟨bodyParameters_body known (typed object known).content h, rfl⟩
    | none =>
        have nowhere : ∀ object, ¬ Leads table declared object :=
          fun object h => absurd ((leads object).mpr h) (by simp)
        refine Logged.Tells.bind (R := fun _ es => ∃ f : Finding,
          f.code = .unresolvedRequestBody ∧ es = [.finding .services f]) (.note ⟨_, rfl, rfl⟩) ?_
        rintro _ _ ⟨f, code, rfl⟩
        refine .pure ⟨nothing nowhere, about_eq_nil fun e he g hg => ?_⟩
        rw [List.nil_append, List.append_nil, List.mem_singleton] at he
        subst he
        cases hg
        rw [code]
        decide

end Bodies
end SdkBlueprint.Services
