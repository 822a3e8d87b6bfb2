import SdkBlueprint.Proofs.Population.Composition
import SdkBlueprint.Proofs.Population.Flattening

/-! What reading a schema comes to. A well-typed schema can be read once its parts can, and
one that composes others is read from what its members contribute. -/
namespace SdkBlueprint.Population
open SdkBlueprint.Document SdkBlueprint.Schema

section Typed

variable {schemas : Table Value}

theorem typed_schemaMap {v : Value} (h : TypedComponent v) : TypedComponent (schemaMap v) := by
  have ofClass : TypedClass (schemaMap v) := by
    constructor
    all_goals simp only [field_schemaMap]
    exacts [h.ownFields.properties, h.ownFields.names, h.ownFields.values, h.ownFields.required]
  refine ⟨?_, ?_, typedUnion_schemaMap h.union, ofClass, ?_, ?_⟩
  all_goals simp only [field_schemaMap]
  exacts [h.description, h.enum, h.allOf, h.members]

theorem typed_schemaAt (typed : TypedSchemas schemas) {key : String}
    (registered : key ∈ schemas.names) : TypedComponent (schemaAt schemas key) := by
  obtain ⟨v, hv⟩ := Table.mem_names.mp registered
  rw [schemaAt, hv, Option.getD_some]
  exact typed_schemaMap (typed _ (Table.get?_eq_some_iff.mp hv))

/-- What sets the schemas of a shape apart. -/
def Marks (schema : Value) : Shape → Prop
  | .enumeration => (schema.field "enum").isNull = false
  | .union => isSet schema "oneOf" = true
  | .composed => isSet schema "allOf" = true
  | .object => True

theorem marks_of_classify {schema : Value} {shape : Shape} (h : classify schema = shape) :
    Marks schema shape := by
  subst h
  unfold classify
  split
  · next enumerated => simpa [Marks] using enumerated
  · split
    · next united => exact (Bool.and_eq_true _ _ ▸ united).1
    · split
      · next composed => exact composed
      · trivial

end Typed

section Reading

variable (schemas : Table Value) (look : String → Model)

theorem takeUp_adds (current : String) (isFirst : Bool) (f : Flattening) (model : Model) :
    Logged.Adds ofModels (takeUp current isFirst f model) := by
  unfold takeUp
  split
  · exact .pure _
  · exact Flattening.addProperties_adds _ _ _ _

theorem readReference_adds (current : String) (isFirst : Bool) (f : Flattening) (ref : Value) :
    Logged.Adds ofModels (readReference schemas look current isFirst f ref) := by
  unfold readReference
  refine (Logged.Adds.attempt _).bind fun target => ?_
  split
  · exact takeUp_adds _ _ _ _
  · exact (Logged.Adds.note (.inr rfl)).bind fun _ => .pure f

end Reading

/-- What the member at an index contributes. A reference contributes the properties of the
finished model of its target, unless it comes first; an inline member those it declares. -/
def Contributes (nameOf : String → String) (records : Table Model) (index : Nat) (member : Value)
    (ps : List Property) : Prop :=
  match ref? member with
  | some ref => ∃ target, targetKey ref = .ok target ∧
      ps = if index = 0 then [] else ((records.get? target).map Model.properties).getD []
  | none => if member.isMap then DeclaresAll nameOf member ps else ps = []

/-- Some inline member requires the name. -/
def demandedBy (members : List Value) (name : String) : Bool :=
  members.any fun m => !isReference m && isRequired (requiredNames m) (.text name)

theorem demandedBy_cons (m : Value) (members : List Value) (name : String) :
    demandedBy (m :: members) name =
      (demandedBy [m] name || demandedBy members name) := by
  simp only [demandedBy, List.any_cons, List.any_nil, Bool.or_false]

/-- The models that the members refer to can be written. -/
def ShowsShort (schemas : Table Value) (look : String → Model) (members : List Value) : Prop :=
  ∀ m ∈ members, ∀ ref, ref? m = some ref →
    ∀ t ∈ schemas.names, targetKey ref = .ok t → (look t).Short

section Members

variable {schemas : Table Value} (nameOf : String → String) {look : String → Model}
variable {records : Table Model}

theorem takeUp_succeeds (current : String) (isFirst : Bool) {f : Flattening} (short : f.Short)
    {model : Model} (later : model.Short) :
    Logged.Succeeds (fun g => Flattening.Extends f g (if isFirst then [] else model.properties)
      fun _ => False) (takeUp current isFirst f model) := by
  unfold takeUp
  cases isFirst with
  | true => exact .pure ⟨rfl, fun _ => (or_false _).symm ▸ Iff.rfl, id⟩
  | false =>
      have mixed : Flattening.Short { f with mixins := f.mixins ++ [model.name] } := short
      refine (Flattening.addProperties_succeeds _ _ mixed later).mono fun g ⟨hg, shorter⟩ => ?_
      subst hg
      exact ⟨rfl, fun _ => (or_false _).symm ▸ Iff.rfl, fun _ => shorter⟩

theorem readReference_succeeds (names : records.names = schemas.names)
    (shown : ∀ t ∈ schemas.names, records.get? t = some (look t)) {m ref : Value}
    (typed : TypedReference m) (hr : ref? m = some ref) (parts : ShowsShort schemas look [m])
    (current : String) (index : Nat) {f : Flattening} (short : f.Short) :
    Logged.Succeeds (fun g => ∃ ps, Contributes nameOf records index m ps ∧
        Flattening.Extends f g ps fun _ => False)
      (readReference schemas look current (index == 0) f ref) := by
  obtain ⟨s, rfl, ht⟩ := targetKey_of_typed typed hr
  unfold readReference
  refine (Logged.Succeeds.attempt ht).bind fun target same => ?_
  subst same
  have contribution : ∀ ps, (ps = if index = 0 then [] else
      ((records.get? (pointerKey s)).map Model.properties).getD []) →
      Contributes nameOf records index m ps := by
    intro ps hps
    unfold Contributes
    rw [hr]
    exact ⟨_, ht, hps⟩
  by_cases known : pointerKey s ∈ schemas.names
  · rw [if_pos known]
    have later := parts m (by simp) _ hr _ known ht
    refine (takeUp_succeeds current (index == 0) short later).mono fun g hg =>
      ⟨_, contribution _ ?_, hg⟩
    rw [shown _ known]
    simp only [beq_iff_eq, Option.map_some, Option.getD_some]
  · rw [if_neg known]
    have missing : records.get? (pointerKey s) = none := by
      rw [Table.get?_eq_none_iff, names]
      exact known
    refine (Logged.Succeeds.note _).bind fun _ _ => .pure ⟨[], contribution [] ?_, .refl f⟩
    rw [missing]
    simp

theorem readMember_succeeds (names : records.names = schemas.names)
    (shown : ∀ t ∈ schemas.names, records.get? t = some (look t)) {m : Value}
    (typed : TypedMember m) (parts : ShowsShort schemas look [m]) (current : String) (index : Nat)
    {f : Flattening} (short : f.Short) :
    Logged.Succeeds (fun g => ∃ ps, Contributes nameOf records index m ps ∧
        Flattening.Extends f g ps fun name => demandedBy [m] name)
      (readMember schemas nameOf look current (index == 0) f m) := by
  unfold readMember
  cases hr : ref? m with
  | some ref =>
      have silent : ∀ name, demandedBy [m] name = false := by simp [demandedBy, isReference, hr]
      refine (readReference_succeeds nameOf names shown typed.reference hr parts current index
        short).mono ?_
      rintro g ⟨ps, contributes, extends'⟩
      exact ⟨ps, contributes, extends'.properties, by simpa [silent] using extends'.required,
        extends'.short⟩
  | none =>
      have inline : isReference m = false := by rw [isReference, hr]; rfl
      have demands : ∀ name, demandedBy [m] name ↔ Requires m name := by
        simp [demandedBy, inline, Requires]
      by_cases hmap : m.isMap = true
      · simp only [if_pos hmap]
        refine (Flattening.addInline_succeeds nameOf current short (typed.inline inline)).mono ?_
        rintro g ⟨ps, declares, extends'⟩
        refine ⟨ps, ?_, extends'.properties, by simpa only [demands] using extends'.required,
          extends'.short⟩
        simpa only [Contributes, hr, if_pos hmap] using declares
      · simp only [if_neg hmap]
        have nothing : ∀ name, ¬ Requires m name := by
          intro name h
          rw [Requires, requiredNames, field_of_not_map (by simpa using hmap)] at h
          cases h
        refine .pure ⟨[], by simp only [Contributes, hr, if_neg hmap], rfl, ?_, id⟩
        simp [demands, nothing]

theorem readMembers_succeeds (names : records.names = schemas.names)
    (shown : ∀ t ∈ schemas.names, records.get? t = some (look t)) {members : List Value}
    (typed : ∀ m ∈ members, TypedMember m) (parts : ShowsShort schemas look members)
    (current : String) (index : Nat) {f : Flattening} (short : f.Short) :
    Logged.Succeeds (fun g => ∃ cs,
        List.Forall₂ (fun m c => Contributes nameOf records m.2 m.1 c) (members.zipIdx index) cs ∧
        Flattening.Extends f g cs.flatten fun name => demandedBy members name)
      (readMembers schemas nameOf look current (index == 0) f members) := by
  induction members generalizing index f with
  | nil => exact .pure ⟨[], .nil, rfl, by simp [demandedBy], id⟩
  | cons m rest ih =>
      refine (readMember_succeeds nameOf names shown (typed m (by simp))
        (fun n hn => parts n (by simp_all)) current index short).bind ?_
      rintro g ⟨ps, contributes, first⟩
      refine (ih (fun n hn => typed n (by simp [hn])) (fun n hn => parts n (by simp [hn]))
        (index + 1) (first.short short)).mono ?_
      rintro h ⟨cs, contribute, second⟩
      refine ⟨ps :: cs, .cons contributes contribute, (first.trans second).properties, ?_,
        (first.trans second).short⟩
      intro name
      rw [(first.trans second).required, demandedBy_cons m rest, Bool.or_eq_true]

/-- What a composed model is made of: its contributions and its own properties. -/
structure Parts (nameOf : String → String) (records : Table Model) (schema : Value)
    (contributions : List (List Property)) (own : List Property) : Prop where
  members : List.Forall₂ (fun m c => Contributes nameOf records m.2 m.1 c)
    (composedMembers schema).zipIdx contributions
  own : DeclaresAll nameOf schema own

theorem readModel_composed (names : records.names = schemas.names)
    (shown : ∀ t ∈ schemas.names, records.get? t = some (look t)) {schema : Value}
    (typed : TypedComponent schema) (composed : classify schema = .composed)
    (parts : ShowsShort schemas look (composedMembers schema)) (model : Model) :
    Logged.Succeeds (fun m => ∃ cs own f, Parts nameOf records schema cs own ∧
        Flattening.Extends Flattening.empty f cs.flatten
          (fun name => demandedBy (composedMembers schema) name) ∧
        m.properties = (override f.withRequired.properties own).values)
      (readModel schemas nameOf look model schema) := by
  have members : composedMembers schema = itemsOf (schema.field "allOf") := if_pos composed
  have isComposed : (Shape.composed == Shape.composed) = true := rfl
  simp only [readModel, composed, readClass, isComposed, if_true, readAllOf]
  have listed := iterate_truthy typed.allOf (marks_of_classify composed)
  refine ((Logged.Succeeds.attempt listed).bind (S := fun g => ∃ cs f, g = f.withRequired ∧
    List.Forall₂ (fun m c => Contributes nameOf records m.2 m.1 c)
      (composedMembers schema).zipIdx cs ∧
    Flattening.Extends Flattening.empty f cs.flatten
      (fun name => demandedBy (composedMembers schema) name)) fun items hi => ?_).bind ?_
  · subst hi
    rw [members] at parts ⊢
    refine (readMembers_succeeds nameOf names shown typed.members parts model.key 0
      Flattening.empty_short).bind ?_
    rintro f ⟨cs, contribute, extends'⟩
    exact .pure ⟨cs, f, rfl, contribute, extends'⟩
  · rintro g ⟨cs, f, rfl, contribute, extends'⟩
    refine (ownProperties_succeeds nameOf model.key typed.ownFields).bind fun own declares => ?_
    exact .pure ⟨cs, own, f, ⟨contribute, declares⟩, extends', rfl⟩

end Members

/-- Every well-typed schema can be read if its parts can be written, and then so can it. -/
theorem readModel_succeeds {schemas : Table Value} (nameOf : String → String)
    {look : String → Model} {schema : Value} (typed : TypedComponent schema)
    (parts : ShowsShort schemas look (composedMembers schema)) {model : Model}
    (blank : classify schema = .enumeration → model.properties = []) :
    Logged.Succeeds Model.Short (readModel schemas nameOf look model schema) := by
  have plainly : ∀ m : Model, m.properties = [] → m.Short := by
    intro m none p hp
    rw [none] at hp
    cases hp
  cases hc : classify schema with
  | enumeration =>
      obtain ⟨m, hm⟩ := finishedEnumeration_ok model typed.enum (marks_of_classify hc)
      simp only [readModel, hc]
      refine (Logged.Succeeds.attempt hm).mono fun _ same => plainly _ ?_
      rw [same, finishedEnumeration_properties hm, blank hc]
  | union =>
      simp only [readModel, hc]
      exact (finishedUnion_succeeds nameOf model typed.union (marks_of_classify hc)).mono plainly
  | composed =>
      have names : (schemas.map fun key _ => look key).names = schemas.names :=
        Table.names_map _ _
      have shown : ∀ t ∈ schemas.names,
          (schemas.map fun key _ => look key).get? t = some (look t) := by
        intro t ht
        obtain ⟨v, hv⟩ := Table.mem_names.mp ht
        rw [Table.get?_map, hv, Option.map_some]
      refine (readModel_composed nameOf names shown typed hc parts model).mono ?_
      rintro m ⟨cs, own, f, ⟨_, declares⟩, extends', made⟩
      have short : f.Short := extends'.short Flattening.empty_short
      rw [Model.Short, made]
      exact override_short short.withRequired (declares.short typed.ownFields)
  | object =>
      have plain : (Shape.object == Shape.composed) = false := rfl
      simp only [readModel, hc, readClass, plain, Bool.false_eq_true, if_false]
      refine (Logged.Succeeds.pure (R := Flattening.Short) Flattening.empty_short).bind
        fun f short => ?_
      refine (ownProperties_succeeds nameOf model.key typed.ownFields).bind fun own declares => ?_
      exact .pure (override_short short (declares.short typed.ownFields))

end SdkBlueprint.Population
