import SdkBlueprint.Proofs.Schema.Mentions

/-! Types are well formed at every depth. What is combined is combined of several types, a
literal stands among literals only, and a type is primitive unless its node leads to a reference,
a date, binary data, a titled enumeration or a dictionary. -/
namespace SdkBlueprint
open SdkBlueprint.Document SdkBlueprint.Schema

namespace TypeExpr

/-- The first type stands in the second one at some depth, or is that type. -/
inductive PartOf : TypeExpr → TypeExpr → Prop
  | self (t : TypeExpr) : PartOf t t
  | member {t m : TypeExpr} {members : List TypeExpr} {composition : Composition}
      {isArray isDictionary : Bool} (member : m ∈ members) (rest : PartOf t m) :
      PartOf t (.composite members composition isArray isDictionary)

def isLiteral : TypeExpr → Bool
  | .named t => t.isLiteral
  | .composite _ _ _ _ => false

/-- The names of the primitive types that are no literals. -/
def basicNames : List String := ["any", "string", "number", "boolean"]

/-- What holds of a type without looking into its members further than at their outside. -/
def WellBuilt : TypeExpr → Prop
  | .named t =>
    (t.isLiteral = true → t.isArray = false ∧ t.isDictionary = false) ∧
      (t.isPrimitive = true →
        (t.isLiteral = true ∨ t.name ∈ basicNames) ∧ t.isDictionary = false)
  | .composite members .intersection _ _ =>
    2 ≤ members.length ∧ ∀ m ∈ members, ∃ name, m = .reference name
  | .composite members .union _ _ =>
    (∀ m ∈ members, ∃ value, m = .literal value) ∨
      2 ≤ members.length ∧ ∀ m ∈ members, m.isLiteral = false

/-- The type is a dictionary, or a name that is no primitive. -/
def isOpaque : TypeExpr → Bool
  | .named t => t.isDictionary || !t.isPrimitive
  | .composite _ _ _ isDictionary => isDictionary

/-- Types as they come about: a name that is no literal, or one of three sorts of composites. -/
inductive WellFormed : TypeExpr → Prop
  | named {t : NamedType} (notLiteral : t.isLiteral = false)
      (basic : t.isPrimitive = true → t.name ∈ basicNames ∧ t.isDictionary = false) :
      WellFormed (.named t)
  | literals {members : List TypeExpr} (isArray isDictionary : Bool)
      (each : ∀ m ∈ members, ∃ value, m = .literal value) :
      WellFormed (.composite members .union isArray isDictionary)
  | references {members : List TypeExpr} (isArray isDictionary : Bool)
      (several : 2 ≤ members.length) (each : ∀ m ∈ members, ∃ name, m = .reference name) :
      WellFormed (.composite members .intersection isArray isDictionary)
  | union {members : List TypeExpr} (isArray isDictionary : Bool)
      (several : 2 ≤ members.length) (each : ∀ m ∈ members, WellFormed m) :
      WellFormed (.composite members .union isArray isDictionary)

namespace WellFormed

variable {t : TypeExpr}

theorem primitive {name : String} (h : name ∈ basicNames) : WellFormed (.primitive name) :=
  .named rfl fun _ => ⟨h, rfl⟩

theorem reference (name : String) : WellFormed (.reference name) :=
  .named rfl fun primitive => absurd primitive Bool.false_ne_true

theorem notLiteral (h : WellFormed t) : t.isLiteral = false := by
  cases h with
  | named notLiteral => exact notLiteral
  | literals => rfl
  | references => rfl
  | union => rfl

theorem asArray (h : WellFormed t) : WellFormed t.asArray := by
  cases h with
  | named notLiteral basic => exact .named notLiteral basic
  | literals _ isDictionary each => exact .literals true isDictionary each
  | references _ isDictionary several each => exact .references true isDictionary several each
  | union _ isDictionary several each => exact .union true isDictionary several each

/-- A name becomes opaque as the value of a dictionary, a composite keeps its members. -/
theorem asDictionary (h : WellFormed t) : WellFormed t.asDictionary := by
  cases h with
  | named notLiteral => exact .named notLiteral fun primitive => absurd primitive Bool.false_ne_true
  | literals isArray _ each => exact .literals isArray true each
  | references isArray _ several each => exact .references isArray true several each
  | union isArray _ several each => exact .union isArray true several each

theorem combine_union {ts : List TypeExpr} (some : ts ≠ []) (each : ∀ t ∈ ts, WellFormed t) :
    WellFormed (combine .union ts) := by
  match ts with
  | [] => exact absurd rfl some
  | [t] => exact each t (by simp)
  | t :: u :: rest => exact .union false false (by simp) each

theorem combine_intersection {ts : List TypeExpr} (some : ts ≠ [])
    (each : ∀ t ∈ ts, ∃ name, t = .reference name) : WellFormed (combine .intersection ts) := by
  match ts with
  | [] => exact absurd rfl some
  | [t] =>
      obtain ⟨name, same⟩ := each t (by simp)
      exact same ▸ reference name
  | t :: u :: rest => exact .references false false (by simp) each

/-- Every part of a well-formed type is well built. -/
theorem wellBuilt {part : TypeExpr} (h : WellFormed t) (inside : PartOf part t) :
    part.WellBuilt := by
  induction h with
  | named notLiteral basic =>
      cases inside
      refine ⟨fun literal => ?_, fun primitive => ?_⟩
      · rw [notLiteral] at literal
        cases literal
      · exact ⟨.inr (basic primitive).1, (basic primitive).2⟩
  | literals isArray isDictionary each =>
      cases inside with
      | self => exact .inl each
      | member member rest =>
          obtain ⟨value, rfl⟩ := each _ member
          cases rest
          exact ⟨fun _ => ⟨rfl, rfl⟩, fun _ => ⟨.inl rfl, rfl⟩⟩
  | references isArray isDictionary several each =>
      cases inside with
      | self => exact ⟨several, each⟩
      | member member rest =>
          obtain ⟨name, rfl⟩ := each _ member
          cases rest
          refine ⟨fun literal => absurd literal Bool.false_ne_true, ?_⟩
          exact fun primitive => absurd primitive Bool.false_ne_true
  | union isArray isDictionary several each ih =>
      cases inside with
      | self => exact .inr ⟨several, fun m hm => (each m hm).notLiteral⟩
      | member member rest => exact ih _ member rest

end WellFormed

theorem allPrimitive_eq_true {ts : List TypeExpr} :
    allPrimitive ts = true ↔ ∀ t ∈ ts, t.isPrimitive = true := by
  induction ts with
  | nil => simp [allPrimitive]
  | cons t rest ih => simp [allPrimitive, ih]

@[simp] theorem isPrimitive_asArray (t : TypeExpr) : t.asArray.isPrimitive = t.isPrimitive := by
  cases t <;> simp [asArray, isPrimitive]

@[simp] theorem isPrimitive_asDictionary (t : TypeExpr) : t.asDictionary.isPrimitive = false := by
  cases t <;> simp [asDictionary, isPrimitive]

theorem isPrimitive_combine {composition : Composition} {ts : List TypeExpr} :
    (combine composition ts).isPrimitive = true ↔ ∀ t ∈ ts, t.isPrimitive = true := by
  unfold combine
  split
  · simp
  · simp [isPrimitive, allPrimitive_eq_true]

/-- A well-formed type is primitive if nothing in it is opaque. -/
theorem WellFormed.isPrimitive_iff {t : TypeExpr} (h : WellFormed t) :
    t.isPrimitive = true ↔ ∀ part, PartOf part t → part.isOpaque = false := by
  have composite : ∀ {members : List TypeExpr} {composition : Composition}
      {isArray isDictionary : Bool}, (∀ m ∈ members,
        (m.isPrimitive = true ↔ ∀ part, PartOf part m → part.isOpaque = false)) →
      ((composite members composition isArray isDictionary).isPrimitive = true ↔
        ∀ part, PartOf part (.composite members composition isArray isDictionary) →
          part.isOpaque = false) := by
    intro members composition isArray isDictionary each
    simp only [isPrimitive, Bool.and_eq_true, Bool.not_eq_true', allPrimitive_eq_true]
    constructor
    · rintro ⟨closed, all⟩ part inside
      cases inside with
      | self => exact closed
      | member member rest => exact (each _ member).mp (all _ member) part rest
    · intro none
      refine ⟨none _ (.self _), fun m hm => (each m hm).mpr fun part inside => ?_⟩
      exact none part (.member hm inside)
  have alone : ∀ {t : NamedType}, (t.isPrimitive = true → t.isDictionary = false) →
      ((TypeExpr.named t).isPrimitive = true ↔
        ∀ part, PartOf part (.named t) → part.isOpaque = false) := by
    intro t plain
    simp only [isPrimitive]
    constructor
    · rintro primitive part ⟨⟩
      simp [isOpaque, plain primitive, primitive]
    · intro none
      have here := none _ (.self _)
      simp only [isOpaque, Bool.or_eq_false_iff, Bool.not_eq_false'] at here
      exact here.2
  induction h with
  | named _ basic => exact alone fun primitive => (basic primitive).2
  | literals _ _ each =>
      refine composite fun m hm => ?_
      obtain ⟨value, rfl⟩ := each m hm
      exact alone fun _ => rfl
  | references _ _ _ each =>
      refine composite fun m hm => ?_
      obtain ⟨name, rfl⟩ := each m hm
      exact alone fun _ => rfl
  | union _ _ _ _ ih => exact composite ih

end TypeExpr

namespace Schema
open TypeExpr

/-- The node refers to a model, directly or by a titled enumeration, is a date, binary data or a
dictionary, or leads on to such a node. -/
inductive Carries : Value → Prop
  | reference {node ref} (form : formOf node = .ok (.reference ref)) : Carries node
  | references {node refs} (form : formOf node = .ok (.references refs)) : Carries node
  | title {node} (form : formOf node = .ok .string)
      (enumerated : (node.field "enum").isNull = false)
      (titled : (node.field "title").truthy = true) : Carries node
  | format {node format} (form : formOf node = .ok .string)
      (free : (node.field "enum").isNull = true) (here : node.field "format" = .text format)
      (known : format ∈ ["date", "date-time", "binary"]) : Carries node
  | dictionary {node values} (form : formOf node = .ok (.dictionary values)) : Carries node
  | child {node form child} (formed : formOf node = .ok form) (member : child ∈ form.children)
      (rest : Carries child) : Carries node

variable {nameOf : String → String} {node : Value}

theorem truthy_of_truthyField? {name : String} {v : Value} (h : truthyField? node name = some v) :
    v.truthy = true := (Option.filter_eq_some_iff.mp h).2

theorem references_ne_nil {refs : List Value} (h : formOf node = .ok (.references refs)) :
    refs ≠ [] := by
  have composed : ∀ {allOf : Value}, allOfForm allOf = .ok (.references refs) → refs ≠ [] := by
    intro allOf h
    unfold allOfForm at h
    split at h
    · cases h
    · split at h
      · split at h <;> cases h
      · next some =>
        cases h
        exact some
    · split at h <;> cases h
    all_goals cases h
  unfold formOf at h
  split at h
  · cases h
  · exact composed h
  · unfold oneOfForm at h
    split at h
    · cases h
    · obtain ⟨_, _, h⟩ := attempt_map_ok h
      cases h
  · unfold declaredForm arrayForm objectForm at h
    split at h
    · split at h <;> cases h
    · split at h <;> cases h
    all_goals cases h

theorem union_ne_nil {members : List Value} (h : formOf node = .ok (.union members)) :
    members ≠ [] := by
  have some : ∀ {oneOf : Value}, oneOf.truthy = true → oneOfForm oneOf = .ok (.union members) →
      members ≠ [] := by
    intro oneOf truthy h
    unfold oneOfForm at h
    split at h
    · cases h
      simpa [Value.truthy] using truthy
    · obtain ⟨items, listed, h⟩ := attempt_map_ok h
      cases h
      simpa using iterate_ne_nil truthy listed
  unfold formOf at h
  split at h
  · cases h
  · unfold allOfForm at h
    split at h
    · cases h
    · split at h
      · split at h <;> cases h
      · cases h
    · split at h <;> cases h
    all_goals cases h
  · next _ found => exact some (truthy_of_truthyField? found) h
  · unfold declaredForm arrayForm objectForm at h
    split at h
    · split at h <;> cases h
    · split at h <;> cases h
    all_goals cases h

theorem referenceType_reference {ref : Value} {type : TypeExpr}
    (h : referenceType nameOf ref = .ok type) : ∃ name, type = .reference name := by
  obtain ⟨key, _, rfl⟩ := attempt_map_ok h
  exact ⟨nameOf key, rfl⟩

theorem references_of_mapM {refs : List Value} {ts : List TypeExpr}
    (h : refs.mapM (referenceType nameOf) = .ok ts) : ∀ t ∈ ts, ∃ name, t = .reference name := by
  intro t ht
  obtain ⟨ref, _, made⟩ := forall₂_exists_left (attempt_mapM_ok h) t ht
  exact referenceType_reference made

theorem literalTypes_literal {values : List Value} {ts : List TypeExpr}
    (h : literalTypes values = .ok ts) : ∀ t ∈ ts, ∃ value, t = .literal value := by
  intro t ht
  obtain ⟨v, _, made⟩ := forall₂_exists_left (attempt_mapM_ok h) t ht
  obtain ⟨text, _, rfl⟩ := attempt_map_ok made
  exact ⟨text, rfl⟩

theorem mapM_ne_nil {α β : Type} {f : α → Attempt β} {xs : List α} {ys : List β}
    (h : xs.mapM f = .ok ys) (some : xs ≠ []) : ys ≠ [] := by
  rintro rfl
  exact some (List.forall₂_nil_right_iff.mp (attempt_mapM_ok h))

/-- A type of a text is the reference of a title or of a format, a union of literals, or text. -/
theorem stringType_cases {type : TypeExpr} (h : stringType nameOf node = .ok type) :
    ((node.field "enum").isNull = false ∧ (node.field "title").truthy = true ∧
        ∃ name, type = .reference name) ∨
      ((node.field "enum").isNull = false ∧ (node.field "title").truthy = false ∧
        ∃ ts, (∀ t ∈ ts, ∃ value, t = .literal value) ∧ type = .composite ts .union false false) ∨
      (node.field "enum").isNull = true ∧ type = formatType (node.field "format") := by
  unfold stringType at h
  split at h
  · next absent =>
    cases h
    exact .inr (.inr ⟨by rw [absent]; rfl, rfl⟩)
  · next enumerated =>
    have enumerated := isNull_eq_false enumerated
    simp only [] at h
    split at h
    · next titled =>
      refine .inl ⟨enumerated, titled, ?_⟩
      unfold titledType at h
      split at h
      · cases h
        exact ⟨_, rfl⟩
      · cases h
      · cases h
    · next untitled =>
      obtain ⟨values, _, h⟩ := attempt_bind_ok h
      obtain ⟨ts, made, h⟩ := attempt_bind_ok h
      cases h
      exact .inr (.inl ⟨enumerated, by simpa using untitled, ts, literalTypes_literal made, rfl⟩)

theorem formatType_wellFormed (format : Value) : (formatType format).WellFormed := by
  unfold formatType
  split
  · exact .reference _
  · exact .reference _
  · exact .reference _
  · exact .primitive (by decide)

theorem stringType_wellFormed {type : TypeExpr} (h : stringType nameOf node = .ok type) :
    type.WellFormed := by
  rcases stringType_cases h with ⟨_, _, name, rfl⟩ | ⟨_, _, ts, each, rfl⟩ | ⟨_, rfl⟩
  · exact .reference name
  · exact .literals false false each
  · exact formatType_wellFormed _

/-- Types of nodes are well formed. The induction follows the forms of the nodes: a form either
names its type or changes that of its children in one of the ways that keep types well formed. -/
theorem resolve_wellFormed {type : TypeExpr} (h : resolve nameOf node = .ok type) :
    type.WellFormed := by
  fun_induction resolve nameOf node generalizing type with
  | case1 node failure form => cases h
  | case2 node form =>
      cases h
      exact .primitive (by decide)
  | case3 node ref form =>
      obtain ⟨name, rfl⟩ := referenceType_reference h
      exact .reference name
  | case4 node child form ih => exact ih h
  | case5 node refs form =>
      obtain ⟨ts, each, rfl⟩ := attempt_map_ok h
      have some := mapM_ne_nil each (references_ne_nil form)
      exact .combine_intersection some (references_of_mapM each)
  | case6 node members form ih =>
      obtain ⟨ts, each, rfl⟩ := attempt_map_ok h
      have some := mapM_ne_nil each (List.attach_ne_nil_iff.mpr (union_ne_nil form))
      refine .combine_union some fun t ht => ?_
      obtain ⟨m, _, made⟩ := forall₂_exists_left (attempt_mapM_ok each) t ht
      exact ih m made
  | case7 node form =>
      cases h
      exact (WellFormed.primitive (by decide)).asArray
  | case8 node items form ih =>
      obtain ⟨t, made, rfl⟩ := attempt_map_ok h
      exact (ih made).asArray
  | case9 node form =>
      cases h
      exact (WellFormed.primitive (by decide)).asDictionary
  | case10 node values form ih =>
      obtain ⟨t, made, rfl⟩ := attempt_map_ok h
      exact (ih made).asDictionary
  | case11 node form => exact stringType_wellFormed h
  | case12 node form =>
      cases h
      exact .primitive (by decide)
  | case13 node form =>
      cases h
      exact .primitive (by decide)

/-- The form has the type of its children, or is no reference for another reason. -/
def Form.isPassing : Form → Bool
  | .reference _ => false
  | .references _ => false
  | .dictionary _ => false
  | .string => false
  | _ => true

theorem carries_iff_child {form : Form} (formed : formOf node = .ok form)
    (passing : form.isPassing = true) : Carries node ↔ ∃ c ∈ form.children, Carries c := by
  constructor
  · intro carries
    cases carries with
    | child again member rest =>
        rw [formed] at again
        cases again
        exact ⟨_, member, rest⟩
    | _ again =>
        rw [formed] at again
        cases again
        cases passing
  · rintro ⟨c, member, rest⟩
    exact .child formed member rest

theorem carries_string_iff (formed : formOf node = .ok .string) :
    Carries node ↔
      ((node.field "enum").isNull = false ∧ (node.field "title").truthy = true) ∨
        ((node.field "enum").isNull = true ∧
          ∃ format ∈ ["date", "date-time", "binary"], node.field "format" = .text format) := by
  constructor
  · intro carries
    cases carries with
    | title _ enumerated titled => exact .inl ⟨enumerated, titled⟩
    | format _ free here known => exact .inr ⟨free, _, known, here⟩
    | child again member _ =>
        rw [formed] at again
        cases again
        cases member
    | _ again =>
        rw [formed] at again
        cases again
  · rintro (⟨enumerated, titled⟩ | ⟨free, format, known, here⟩)
    · exact .title formed enumerated titled
    · exact .format formed free here known

theorem formatType_isPrimitive {format : Value} :
    (formatType format).isPrimitive = false ↔
      ∃ name ∈ ["date", "date-time", "binary"], format = .text name := by
  unfold formatType
  split
  · exact iff_of_true rfl ⟨"date", by decide, rfl⟩
  · exact iff_of_true rfl ⟨"date-time", by decide, rfl⟩
  · exact iff_of_true rfl ⟨"binary", by decide, rfl⟩
  · next date time binary =>
    refine iff_of_false (by decide) ?_
    rintro ⟨name, known, rfl⟩
    simp only [List.mem_cons, List.not_mem_nil, or_false] at known
    rcases known with rfl | rfl | rfl
    · exact date rfl
    · exact time rfl
    · exact binary rfl

theorem stringType_carries {type : TypeExpr} (formed : formOf node = .ok .string)
    (h : stringType nameOf node = .ok type) : type.isPrimitive = false ↔ Carries node := by
  rw [carries_string_iff formed]
  rcases stringType_cases h with ⟨enumerated, titled, name, rfl⟩ | ⟨enumerated, untitled, ts, each, rfl⟩
    | ⟨free, rfl⟩
  · exact iff_of_true rfl (.inl ⟨enumerated, titled⟩)
  · have primitive : allPrimitive ts = true := by
      refine allPrimitive_eq_true.mpr fun t ht => ?_
      obtain ⟨value, rfl⟩ := each t ht
      rfl
    simp [isPrimitive, primitive, enumerated, untitled]
  · simp [free, formatType_isPrimitive]

/-- The type of a node is no primitive if the node carries something else. -/
theorem resolve_carries {type : TypeExpr} (h : resolve nameOf node = .ok type) :
    type.isPrimitive = false ↔ Carries node := by
  fun_induction resolve nameOf node generalizing type with
  | case1 node failure form => cases h
  | case2 node form =>
      cases h
      simp [carries_iff_child form rfl, Form.children, TypeExpr.any, primitive, isPrimitive]
  | case3 node ref form =>
      obtain ⟨name, rfl⟩ := referenceType_reference h
      exact iff_of_true rfl (.reference form)
  | case4 node child form ih =>
      simp [carries_iff_child form rfl, Form.children, ih h]
  | case5 node refs form =>
      obtain ⟨ts, each, rfl⟩ := attempt_map_ok h
      refine iff_of_true ?_ (.references form)
      obtain ⟨t, ht⟩ := List.exists_mem_of_ne_nil _ (mapM_ne_nil each (references_ne_nil form))
      obtain ⟨name, rfl⟩ := references_of_mapM each t ht
      rw [← Bool.not_eq_true, isPrimitive_combine]
      exact fun all => Bool.false_ne_true (all _ ht)
  | case6 node members form ih =>
      obtain ⟨ts, each, rfl⟩ := attempt_map_ok h
      have each := attempt_mapM_ok each
      rw [carries_iff_child form rfl, ← Bool.not_eq_true, isPrimitive_combine]
      simp only [not_forall, Bool.not_eq_true, Form.children]
      constructor
      · rintro ⟨t, ht, opened⟩
        obtain ⟨m, _, made⟩ := forall₂_exists_left each t ht
        exact ⟨m.val, m.property, (ih m made).mp opened⟩
      · rintro ⟨c, hc, carries⟩
        obtain ⟨t, ht, made⟩ := forall₂_exists_left each.flip ⟨c, hc⟩ (List.mem_attach _ _)
        exact ⟨t, ht, (ih _ made).mpr carries⟩
  | case7 node form =>
      cases h
      simp [carries_iff_child form rfl, Form.children, TypeExpr.any, primitive, isPrimitive]
  | case8 node items form ih =>
      obtain ⟨t, made, rfl⟩ := attempt_map_ok h
      simp [carries_iff_child form rfl, Form.children, ih made]
  | case9 node form =>
      cases h
      exact iff_of_true (isPrimitive_asDictionary _) (.dictionary form)
  | case10 node values form ih =>
      obtain ⟨t, made, rfl⟩ := attempt_map_ok h
      exact iff_of_true (isPrimitive_asDictionary _) (.dictionary form)
  | case11 node form => exact stringType_carries form h
  | case12 node form =>
      cases h
      simp [carries_iff_child form rfl, Form.children, primitive, isPrimitive]
  | case13 node form =>
      cases h
      simp [carries_iff_child form rfl, Form.children, primitive, isPrimitive]

/-- Every well-typed node has a type, and that type is well built at every depth. It is primitive
if nothing opaque is in it, and that is if the node carries nothing but primitives. -/
theorem resolved_types_wellFormed (nameOf : String → String) {node : Value}
    (typed : TypedNode node) :
    ∃ type, resolve nameOf node = .ok type ∧ type.isLiteral = false ∧
      (∀ part, PartOf part type → part.WellBuilt) ∧
      (type.isPrimitive = true ↔ ∀ part, PartOf part type → part.isOpaque = false) ∧
      (type.isPrimitive = true ↔ ¬ Carries node) := by
  obtain ⟨type, made⟩ := resolve_ok nameOf typed
  have wellFormed := resolve_wellFormed made
  refine ⟨type, made, wellFormed.notLiteral, fun part => wellFormed.wellBuilt,
    wellFormed.isPrimitive_iff, ?_⟩
  rw [← resolve_carries made, Bool.not_eq_false]

/-- A node with the types of several references at once. -/
def bothNode (keys : List String) : Value :=
  .map [(.text "allOf", .list (keys.map fun key => .map [(.text "$ref", .text key)]))]

/-- A list of pets that have names, or one of two texts. -/
def choiceNode : Value :=
  .map [(.text "oneOf", .list [
    .map [(.text "type", .text "array"), (.text "items", bothNode ["Pet", "Named"])],
    .map [(.text "type", .text "string"), (.text "enum", .list [.text "all", .text "none"])]])]

theorem typed_bothNode (keys : List String) : TypedNode (bothNode keys) := by
  refine .node ⟨typedReference_of_absent rfl, rfl, rfl, rfl, rfl, rfl⟩ ?_ ?_ (.other rfl) (.other rfl)
  · intro m hm
    obtain ⟨key, _, rfl⟩ := List.mem_map.mp hm
    refine .of_absent ⟨fun ref found => ?_, rfl, rfl, rfl, rfl, rfl⟩ rfl rfl rfl rfl
    cases found
    rfl
  · intro m hm
    cases hm

theorem typed_choiceNode : TypedNode choiceNode := by
  have free : NodeFields choiceNode := ⟨typedReference_of_absent rfl, rfl, rfl, rfl, rfl, rfl⟩
  have nothing : ∀ m ∈ ([] : List Value), TypedNode m := fun _ hm => absurd hm List.not_mem_nil
  refine .node free nothing ?_ (.other rfl) (.other rfl)
  intro m hm
  change m ∈ [_, _] at hm
  simp only [List.mem_cons, List.not_mem_nil, or_false] at hm
  rcases hm with rfl | rfl
  · refine .node ?_ nothing nothing (typed_bothNode _) (.other rfl)
    exact ⟨typedReference_of_absent rfl, rfl, rfl, rfl, rfl, rfl⟩
  · exact .of_absent ⟨typedReference_of_absent rfl, rfl, rfl, rfl, rfl, rfl⟩ rfl rfl rfl rfl

/-- Its type, at every depth. -/
def choiceType : TypeExpr :=
  .composite
    [.composite [.reference "Pet", .reference "Named"] .intersection true false,
      .composite [.literal "all", .literal "none"] .union false false] .union false false

theorem resolve_choiceNode : resolve id choiceNode = .ok choiceType := by
  have both : resolve id (bothNode ["Pet", "Named"]) =
      .ok (.composite [.reference "Pet", .reference "Named"] .intersection false false) := by
    rw [resolve_eq]
    rfl
  have pets : resolve id (.map [(.text "type", .text "array"),
      (.text "items", bothNode ["Pet", "Named"])]) =
        .ok (.composite [.reference "Pet", .reference "Named"] .intersection true false) := by
    rw [resolve_eq]
    change (resolve id (bothNode ["Pet", "Named"])).map TypeExpr.asArray = _
    rw [both]
    rfl
  have texts : resolve id (.map [(.text "type", .text "string"),
      (.text "enum", .list [.text "all", .text "none"])]) =
        .ok (.composite [.literal "all", .literal "none"] .union false false) := by
    rw [resolve_eq]
    rfl
  rw [resolve_eq]
  change (List.mapM (resolve id) [_, _] : Attempt _).map (combine .union) = _
  rw [List.mapM_cons, List.mapM_cons, pets, texts]
  rfl

theorem choiceNode_wellFormed :
    TypedNode choiceNode ∧ resolve id choiceNode = .ok choiceType ∧
      choiceType.isLiteral = false ∧ (∀ part, PartOf part choiceType → part.WellBuilt) ∧
      (choiceType.isPrimitive = true ↔ ∀ part, PartOf part choiceType → part.isOpaque = false) ∧
      (choiceType.isPrimitive = true ↔ ¬ Carries choiceNode) := by
  obtain ⟨type, made, facts⟩ := resolved_types_wellFormed id typed_choiceNode
  cases made.symm.trans resolve_choiceNode
  exact ⟨typed_choiceNode, made, facts⟩

end Schema
end SdkBlueprint
