import SdkBlueprint.Proofs.Pairs
import SdkBlueprint.Proofs.Schema.Mentions

/-! Types and discriminators under two namings of the keys. A type differs in the names that it
takes from keys and in nothing else. -/
namespace SdkBlueprint
open SdkBlueprint.Document SdkBlueprint.Schema

/-- The types are alike: where the one has the name of a key that is mentioned, the other has its
own name of that key. -/
inductive TypeExpr.Corresponds (mentioned : String → Prop) (n n' : String → String) :
    TypeExpr → TypeExpr → Prop
  | fixed (t : NamedType) (known : t.isLiteral = true ∨ t.name ∈ TypeExpr.builtinNames) :
      Corresponds mentioned n n' (.named t) (.named t)
  | renamed (key : String) (said : mentioned key) (isArray isPrimitive isDictionary : Bool) :
      Corresponds mentioned n n' (.named ⟨n key, isArray, isPrimitive, isDictionary, false⟩)
        (.named ⟨n' key, isArray, isPrimitive, isDictionary, false⟩)
  | composite {members members' : List TypeExpr} (composition : Composition)
      (isArray isDictionary : Bool)
      (each : List.Forall₂ (Corresponds mentioned n n') members members') :
      Corresponds mentioned n n' (.composite members composition isArray isDictionary)
        (.composite members' composition isArray isDictionary)

namespace TypeExpr.Corresponds
open TypeExpr

variable {mentioned : String → Prop} {n n' : String → String} {t t' : TypeExpr}

theorem asArray (h : Corresponds mentioned n n' t t') :
    Corresponds mentioned n n' t.asArray t'.asArray := by
  cases h with
  | fixed t known => exact .fixed _ known
  | renamed key said isArray isPrimitive isDictionary =>
      exact .renamed key said true isPrimitive isDictionary
  | composite composition isArray isDictionary each =>
      exact .composite composition true isDictionary each

theorem asDictionary (h : Corresponds mentioned n n' t t') :
    Corresponds mentioned n n' t.asDictionary t'.asDictionary := by
  cases h with
  | fixed t known => exact .fixed _ known
  | renamed key said isArray isPrimitive isDictionary =>
      exact .renamed key said isArray false true
  | composite composition isArray isDictionary each =>
      exact .composite composition isArray true each

theorem combine (composition : Composition) {ts ts' : List TypeExpr}
    (h : List.Forall₂ (Corresponds mentioned n n') ts ts') :
    Corresponds mentioned n n' (Schema.combine composition ts)
      (Schema.combine composition ts') := by
  cases h with
  | nil => exact .composite composition false false .nil
  | cons here rest =>
      cases rest with
      | nil => exact here
      | cons next rest => exact .composite composition false false (.cons here (.cons next rest))

end TypeExpr.Corresponds

namespace Schema
open TypeExpr

variable {mentioned : String → Prop} {n n' : String → String}

theorem referenceType_agree {ref : Value} (said : ∀ key, targetKey ref = .ok key → mentioned key) :
    Agree (Corresponds mentioned n n') (referenceType n ref) (referenceType n' ref) := by
  refine (Agree.same (targetKey ref)).map ?_
  rintro _ key ⟨rfl, leads⟩
  exact .renamed key (said key leads) false false false

theorem stringType_agree {node : Value} (form : formOf node = .ok .string)
    (said : ∀ key, Mentions node key → mentioned key) :
    Agree (Corresponds mentioned n n') (stringType n node) (stringType n' node) := by
  have format : ∀ format, Corresponds mentioned n n' (formatType format) (formatType format) := by
    intro format
    unfold formatType
    split <;> exact .fixed _ (.inr (by decide))
  unfold stringType
  split
  · exact .ok (format _)
  · next enumerated =>
    simp only []
    split
    · unfold titledType
      split
      · next title titled =>
        have named : Mentions node title := .title form (isNull_eq_false enumerated) titled
        exact .ok (.renamed title (said title named) false false false)
      · exact fun _ _ h => by cases h
      · exact fun _ _ h => by cases h
    · refine (Agree.same _).bind ?_
      rintro _ values ⟨rfl, _⟩
      refine Agree.bind (R := List.Forall₂ (Corresponds mentioned n n')) ?_ fun ts ts' each =>
        .ok (.composite .union false false each)
      refine Agree.mapM fun v _ => (Agree.same (literalText v)).map ?_
      rintro _ text ⟨rfl, _⟩
      exact .fixed _ (.inl rfl)

theorem formType_agree {form : Form} {node : Value} (formed : formOf node = .ok form)
    (said : ∀ key, Mentions node key → mentioned key)
    (rest : ∀ c ∈ form.children,
      Agree (Corresponds mentioned n n') (resolve n c) (resolve n' c)) :
    Agree (Corresponds mentioned n n') (formType n (resolve n) node form)
      (formType n' (resolve n') node form) := by
  cases form with
  | anything => exact .ok (.fixed _ (.inr (by decide)))
  | reference ref =>
      exact referenceType_agree fun key leads => said key (.reference formed leads)
  | delegate child => exact rest child (by simp [Form.children])
  | references refs =>
      refine (Agree.mapM fun ref member => referenceType_agree fun key leads => ?_).map
        fun _ _ each => .combine .intersection each
      exact said key (.references formed member leads)
  | union members =>
      exact (Agree.mapM fun m hm => rest m hm).map fun _ _ each => .combine .union each
  | array items =>
      cases items with
      | none => exact .ok (.fixed _ (.inr (by decide)))
      | some items => exact (rest items (by simp [Form.children])).map fun _ _ h => h.asArray
  | dictionary values =>
      cases values with
      | none => exact .ok (.fixed _ (.inr (by decide)))
      | some values =>
          exact (rest values (by simp [Form.children])).map fun _ _ h => h.asDictionary
  | string => exact stringType_agree formed said
  | number => exact .ok (.fixed _ (.inr (by decide)))
  | boolean => exact .ok (.fixed _ (.inr (by decide)))

/-- The types of a node under two namings are alike. The induction is on the size of the node,
which bounds those of the nodes that its form leads on to. -/
theorem resolve_agree (node : Value) (said : ∀ key, Mentions node key → mentioned key) :
    Agree (Corresponds mentioned n n') (resolve n node) (resolve n' node) := by
  rw [resolve_eq, resolve_eq]
  cases formed : formOf node with
  | error f => exact fun _ _ h => by cases h
  | ok form =>
      refine formType_agree formed said fun c hc => ?_
      exact resolve_agree c fun key rest => said key (.child formed hc rest)
termination_by sizeOf node
decreasing_by exact formOf_children formed c hc

/-- The keys to which the references among the members lead, in order. -/
def refKeys (members : Value) : Attempt (List String) := do
  let items ← iterate members
  (items.filterMap ref?).mapM targetKey

theorem refNames_eq (nameOf : String → String) (members : Value) :
    refNames nameOf members = (refKeys members).map (List.map nameOf) := by
  unfold refNames refKeys
  cases iterate members with
  | error f => rfl
  | ok items =>
      change (items.filterMap ref?).mapM (fun ref => (targetKey ref).map nameOf) =
        ((items.filterMap ref?).mapM targetKey).map (List.map nameOf)
      generalize items.filterMap ref? = refs
      induction refs with
      | nil => rfl
      | cons ref rest ih =>
          rw [List.mapM_cons, List.mapM_cons, ih]
          cases targetKey ref with
          | error f => rfl
          | ok key => cases rest.mapM targetKey <;> rfl

/-- The mapping from the lower-case names of keys to their names. -/
def lowerCased (nameOf : String → String) (keys : List String) : Table String :=
  Table.ofEntries (keys.map fun key => (Text.lower (nameOf key), nameOf key))

/-- The names stand for one target of the union. -/
def SameTarget (n n' : String → String) (schema : Value) (name name' : String) : Prop :=
  ∃ key, Targets schema key ∧ name = n key ∧ name' = n' key

/-- The mappings of a union. Those that the schema gives have the same values; without one the
values come from the names themselves, those of the same members in the same order. -/
inductive MappingsCorrespond (n n' : String → String) (schema : Value) :
    Table String → Table String → Prop
  | explicit {m m'} (given : mapsImplicitly schema = false)
      (each : Table.Pairs (SameTarget n n' schema) m m') : MappingsCorrespond n n' schema m m'
  | implicit {keys} (absent : mapsImplicitly schema = true)
      (members : refKeys (orEmptyList (schema.field "oneOf")) = .ok keys) :
      MappingsCorrespond n n' schema (lowerCased n keys) (lowerCased n' keys)

structure DiscriminatorsCorrespond (n n' : String → String) (schema : Value)
    (d d' : Discriminator) : Prop where
  propertyName : d'.propertyName = d.propertyName
  mapping : MappingsCorrespond n n' schema d.mapping d'.mapping

theorem implicitMapping_eq (nameOf : String → String) (oneOf : Value) :
    implicitMapping nameOf oneOf = (refKeys (orEmptyList oneOf)).map (lowerCased nameOf) := by
  rw [implicitMapping, refNames_eq]
  cases refKeys (orEmptyList oneOf) with
  | error f => rfl
  | ok keys =>
      change Except.ok (Table.ofEntries _) = Except.ok (lowerCased nameOf keys)
      rw [lowerCased, List.map_map]
      rfl

theorem explicitMapping_agree (schema : Value) :
    Agree (Table.Pairs (SameTarget n n' schema))
      (explicitMapping n ((schema.field "discriminator").field "mapping"))
      (explicitMapping n' ((schema.field "discriminator").field "mapping")) := by
  intro m m' hm hm'
  obtain ⟨entries, declared, hm⟩ := attempt_bind_ok hm
  obtain ⟨entries', declared', hm'⟩ := attempt_bind_ok hm'
  cases declared.symm.trans declared'
  cases hm
  cases hm'
  refine Table.Pairs.foldl (S := fun e e' : String × String => e'.1 = e.1 ∧
    SameTarget n n' schema e.2 e'.2) (fun t t' e e' pairs same => ?_) ?_ .empty
  · exact pairs.put same.1 same.2
  · refine List.forall₂_map_left_iff.mpr (List.forall₂_map_right_iff.mpr ?_)
    exact List.forall₂_same.mpr fun e he => ⟨rfl, _, .mapped declared he, rfl, rfl⟩

/-- The discriminators of a schema under two namings are alike. -/
theorem discriminator_agree (schema : Value) :
    Agree (Option.Rel (DiscriminatorsCorrespond n n' schema)) (discriminator n schema)
      (discriminator n' schema) := by
  rw [discriminator_eq, discriminator_eq]
  split
  · exact .ok .none
  · next named =>
    simp only [Bool.or_eq_true, Bool.not_eq_true', not_or, Bool.not_eq_false] at named
    have mappings : Agree (MappingsCorrespond n n' schema) (declaredMapping n schema)
        (declaredMapping n' schema) := by
      unfold declaredMapping
      cases given : isSet (schema.field "discriminator") "mapping" with
      | true =>
          have explicit : mapsImplicitly schema = false := by simp [mapsImplicitly, given]
          exact fun m m' hm hm' => .explicit explicit (explicitMapping_agree schema m m' hm hm')
      | false =>
          have named' : isSet (schema.field "discriminator") "propertyName" = true := named.2
          have implicit : mapsImplicitly schema = true := by
            simp [mapsImplicitly, given, named.1, named']
          simp only [Bool.false_eq_true, if_false, implicitMapping_eq]
          intro m m' hm hm'
          obtain ⟨keys, members, rfl⟩ := attempt_map_ok hm
          obtain ⟨keys', members', rfl⟩ := attempt_map_ok hm'
          cases members.symm.trans members'
          exact .implicit implicit members
    refine mappings.bind fun m m' same => ?_
    split
    · exact .ok (.some ⟨rfl, same⟩)
    · exact fun _ _ h => by cases h

end Schema
end SdkBlueprint
