import SdkBlueprint.Proofs.Journal
import SdkBlueprint.Proofs.Schema.Resolution

/-! Names in types. A type that is read from a node has the built-in names, literals, and the
names of the keys that the node mentions; the targets of a union are keys that it mentions. -/
namespace SdkBlueprint
open SdkBlueprint.Document SdkBlueprint.Schema

namespace TypeExpr

mutual

/-- The names of the simple types in a type, at any depth. A literal has none. -/
def names : TypeExpr → List String
  | .named t => if t.isLiteral then [] else [t.name]
  | .composite members _ _ _ => allNames members

def allNames : List TypeExpr → List String
  | [] => []
  | t :: rest => names t ++ allNames rest

end

/-- The names that stand for no model. -/
def builtinNames : List String := ["any", "string", "number", "boolean", "void", "date", "binary"]

theorem mem_allNames {ts : List TypeExpr} {name : String} :
    name ∈ allNames ts ↔ ∃ t ∈ ts, name ∈ t.names := by
  induction ts with
  | nil => simp [allNames]
  | cons t rest ih => simp [allNames, ih]

@[simp] theorem names_asArray (t : TypeExpr) : t.asArray.names = t.names := by
  cases t <;> rfl

@[simp] theorem names_asDictionary (t : TypeExpr) : t.asDictionary.names = t.names := by
  cases t <;> rfl

end TypeExpr

namespace Schema
open TypeExpr

theorem mem_names_combine {composition : Composition} {ts : List TypeExpr} {name : String} :
    name ∈ (combine composition ts).names ↔ ∃ t ∈ ts, name ∈ t.names := by
  unfold combine
  split
  · simp
  · exact mem_allNames

/-- The node refers to the key, or is an enumeration with that title, or leads on to a node
that mentions it. -/
inductive Mentions : Value → String → Prop
  | reference {node ref key} (form : formOf node = .ok (.reference ref))
      (leads : targetKey ref = .ok key) : Mentions node key
  | references {node refs ref key} (form : formOf node = .ok (.references refs))
      (member : ref ∈ refs) (leads : targetKey ref = .ok key) : Mentions node key
  | title {node title} (form : formOf node = .ok .string)
      (enumerated : (node.field "enum").isNull = false)
      (titled : node.field "title" = .text title) : Mentions node title
  | child {node form child key} (formed : formOf node = .ok form) (member : child ∈ form.children)
      (rest : Mentions child key) : Mentions node key

/-- A name in the type of a node: it is built in, or that of a key which the node mentions. -/
def NameIn (nameOf : String → String) (node : Value) (name : String) : Prop :=
  name ∈ builtinNames ∨ ∃ key, Mentions node key ∧ name = nameOf key

variable {nameOf : String → String}

theorem NameIn.of_child {node child : Value} {form : Form} (formed : formOf node = .ok form)
    (member : child ∈ form.children) {name : String} (h : NameIn nameOf child name) :
    NameIn nameOf node name := by
  rcases h with known | ⟨key, mentions, same⟩
  · exact .inl known
  · exact .inr ⟨key, .child formed member mentions, same⟩

theorem isNull_eq_false {v : Value} (h : v ≠ .null) : v.isNull = false := by
  unfold Value.isNull
  split
  · exact absurd rfl h
  · rfl

theorem literalTypes_names {values : List Value} {ts : List TypeExpr}
    (h : literalTypes values = .ok ts) : ∀ t ∈ ts, t.names = [] := by
  intro t ht
  obtain ⟨v, _, made⟩ := forall₂_exists_left (attempt_mapM_ok h) t ht
  obtain ⟨text, _, rfl⟩ := attempt_map_ok made
  rfl

theorem formatType_names (format : Value) :
    ∀ name ∈ (formatType format).names, name ∈ builtinNames := by
  unfold formatType
  split <;> decide

theorem referenceType_names {ref : Value} {type : TypeExpr}
    (h : referenceType nameOf ref = .ok type) :
    ∃ key, targetKey ref = .ok key ∧ type.names = [nameOf key] := by
  obtain ⟨key, leads, rfl⟩ := attempt_map_ok h
  exact ⟨key, leads, rfl⟩

theorem stringType_names {node : Value} {type : TypeExpr} (form : formOf node = .ok .string)
    (h : stringType nameOf node = .ok type) : ∀ name ∈ type.names, NameIn nameOf node name := by
  unfold stringType at h
  split at h
  · cases h
    intro name hn
    exact .inl (formatType_names _ name hn)
  · next enumerated =>
    simp only [] at h
    split at h
    · unfold titledType at h
      split at h
      · next title titled =>
        cases h
        intro name hn
        exact .inr ⟨title, .title form (isNull_eq_false enumerated) titled,
          List.mem_singleton.mp hn⟩
      · cases h
      · cases h
    · obtain ⟨values, _, h⟩ := attempt_bind_ok h
      obtain ⟨literals, made, h⟩ := attempt_bind_ok h
      cases h
      intro name hn
      obtain ⟨t, ht, hn⟩ := mem_allNames.mp hn
      rw [literalTypes_names made t ht] at hn
      cases hn

/-- Every name in the type of a node is built in or that of a key which the node mentions. -/
theorem resolve_names {node : Value} {type : TypeExpr} (h : resolve nameOf node = .ok type) :
    ∀ name ∈ type.names, NameIn nameOf node name := by
  fun_induction resolve nameOf node generalizing type with
  | case1 node failure form => cases h
  | case2 node form =>
      cases h
      exact fun name hn => .inl (by revert name; decide)
  | case3 node ref form =>
      obtain ⟨key, leads, names⟩ := referenceType_names h
      intro name hn
      rw [names] at hn
      exact .inr ⟨key, .reference form leads, List.mem_singleton.mp hn⟩
  | case4 node child form ih =>
      intro name hn
      exact (ih h name hn).of_child form (by simp [Form.children])
  | case5 node refs form =>
      obtain ⟨ts, each, rfl⟩ := attempt_map_ok h
      intro name hn
      obtain ⟨t, ht, hn⟩ := mem_names_combine.mp hn
      obtain ⟨ref, href, made⟩ := forall₂_exists_left (attempt_mapM_ok each) t ht
      obtain ⟨key, leads, names⟩ := referenceType_names made
      rw [names] at hn
      exact .inr ⟨key, .references form href leads, List.mem_singleton.mp hn⟩
  | case6 node members form ih =>
      obtain ⟨ts, each, rfl⟩ := attempt_map_ok h
      intro name hn
      obtain ⟨t, ht, hn⟩ := mem_names_combine.mp hn
      obtain ⟨m, _, made⟩ := forall₂_exists_left (attempt_mapM_ok each) t ht
      exact (ih m made name hn).of_child form m.property
  | case7 node form =>
      cases h
      exact fun name hn => .inl (by revert name; decide)
  | case8 node items form ih =>
      obtain ⟨t, made, rfl⟩ := attempt_map_ok h
      intro name hn
      rw [names_asArray] at hn
      exact (ih made name hn).of_child form (by simp [Form.children])
  | case9 node form =>
      cases h
      exact fun name hn => .inl (by revert name; decide)
  | case10 node values form ih =>
      obtain ⟨t, made, rfl⟩ := attempt_map_ok h
      intro name hn
      rw [names_asDictionary] at hn
      exact (ih made name hn).of_child form (by simp [Form.children])
  | case11 node form => exact stringType_names form h
  | case12 node form =>
      cases h
      exact fun name hn => .inl (by revert name; decide)
  | case13 node form =>
      cases h
      exact fun name hn => .inl (by revert name; decide)

/-- A target of a union: the schema maps a value to it, or a member refers to it. -/
inductive Targets (schema : Value) : String → Prop
  | mapped {entries e}
      (declared : fieldsOf ((schema.field "discriminator").field "mapping") = .ok entries)
      (member : e ∈ entries) : Targets schema (pointerKey e.2.display)
  | listed {items m ref key} (members : iterate (schema.field "oneOf") = .ok items)
      (member : m ∈ items) (refers : ref? m = some ref) (leads : targetKey ref = .ok key) :
      Targets schema key

theorem Targets.of_schemaMap {schema : Value} {key : String} (h : Targets (schemaMap schema) key) :
    Targets schema key := by
  cases h with
  | mapped declared member =>
      rw [field_schemaMap] at declared
      exact .mapped declared member
  | listed members member refers leads =>
      rw [field_schemaMap] at members
      exact .listed members member refers leads

theorem refNames_targets {schema : Value} {names : List String}
    (h : refNames nameOf (schema.field "oneOf") = .ok names) :
    ∀ name ∈ names, ∃ key, Targets schema key ∧ name = nameOf key := by
  obtain ⟨items, members, h⟩ := attempt_bind_ok h
  intro name hn
  obtain ⟨ref, href, made⟩ := forall₂_exists_left (attempt_mapM_ok h) name hn
  obtain ⟨m, hm, refers⟩ := List.mem_filterMap.mp href
  obtain ⟨key, leads, rfl⟩ := attempt_map_ok made
  exact ⟨key, .listed members hm refers leads, rfl⟩

/-- The mapping of a discriminator, from the schema itself or else from the members. -/
def declaredMapping (nameOf : String → String) (schema : Value) : Attempt (Table String) :=
  if isSet (schema.field "discriminator") "mapping" then
    explicitMapping nameOf ((schema.field "discriminator").field "mapping")
  else implicitMapping nameOf (schema.field "oneOf")

theorem discriminator_eq (nameOf : String → String) (schema : Value) :
    discriminator nameOf schema =
      if !(schema.field "discriminator").isMap ||
        !((schema.field "discriminator").field "propertyName").truthy then .ok none
      else declaredMapping nameOf schema >>= fun mapping =>
        match ((schema.field "discriminator").field "propertyName").textOf? with
        | some name => .ok (some ⟨name, mapping⟩)
        | none => invalidField .discriminator "property_name" := by
  unfold discriminator declaredMapping
  simp only []
  split
  · rfl
  · split <;> rfl

theorem discriminator_eq_some {schema : Value} {d : Discriminator}
    (h : discriminator nameOf schema = .ok (some d)) :
    declaredMapping nameOf schema = .ok d.mapping ∧
      ((schema.field "discriminator").field "propertyName").textOf? = some d.propertyName := by
  rw [discriminator_eq] at h
  split at h
  · cases h
  · obtain ⟨mapping, made, h⟩ := attempt_bind_ok h
    split at h
    · next name named =>
      cases h
      exact ⟨made, named⟩
    · cases h

end Schema
end SdkBlueprint
