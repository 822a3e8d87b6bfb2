import SdkBlueprint.Proofs.Document.Members
import SdkBlueprint.Proofs.Population.Property
import SdkBlueprint.Proofs.Table

/-! Flattening as a fold. The properties that are put one over the other keep the places
of their first occurrences; each is its last occurrence, with the validators of all. The
fold is cut short only by a validator that cannot be written. -/
namespace SdkBlueprint
open SdkBlueprint.Document

namespace Validator

/-- No two validators share a signature. -/
def Distinct (vs : List Validator) : Prop := vs.Pairwise fun v w => v.signature ≠ w.signature

theorem addNew_append (seen vs ws : List Validator) :
    addNew seen (vs ++ ws) = addNew (addNew seen vs) ws := by
  induction vs generalizing seen with
  | nil => rfl
  | cons v vs ih =>
      rw [List.cons_append, addNew, addNew]
      split <;> exact ih _

theorem addNew_distinct {seen : List Validator} (h : Distinct seen) (vs : List Validator) :
    Distinct (addNew seen vs) := by
  induction vs generalizing seen with
  | nil => exact h
  | cons v vs ih =>
      rw [addNew]
      split
      · exact ih h
      · next fresh =>
        refine ih (List.pairwise_append.mpr ⟨h, by simp, fun w hw u hu same => fresh ?_⟩)
        rw [List.mem_singleton] at hu
        exact List.any_eq_true.mpr ⟨w, hw, beq_iff_eq.mpr (hu ▸ same)⟩

theorem addNew_of_distinct {seen vs : List Validator} (h : Distinct (seen ++ vs)) :
    addNew seen vs = seen ++ vs := by
  induction vs generalizing seen with
  | nil => rw [addNew, List.append_nil]
  | cons v vs ih =>
      have fresh : ¬ (seen.any fun w => w.signature == v.signature) = true := by
        intro hv
        obtain ⟨w, hw, same⟩ := List.any_eq_true.mp hv
        exact (List.pairwise_append.mp h).2.2 w hw v (by simp) (beq_iff_eq.mp same)
      have moved : seen ++ v :: vs = seen ++ [v] ++ vs := by simp
      rw [addNew, if_neg fresh, moved, ih (moved ▸ h)]

def repeats (v w : Validator) : Bool := w.signature == v.signature

theorem addNew_eq_loop (seen vs : List Validator) :
    addNew seen vs = List.eraseDupsBy.loop repeats vs seen.reverse := by
  induction vs generalizing seen with
  | nil => rw [addNew, List.eraseDupsBy.loop, List.reverse_reverse]
  | cons v vs ih =>
      have same : (seen.any fun w => w.signature == v.signature) = seen.reverse.any (repeats v) :=
        List.any_reverse.symm
      rw [addNew, List.eraseDupsBy.loop, same]
      cases seen.reverse.any (repeats v) with
      | true => exact ih seen
      | false =>
          rw [if_neg Bool.false_ne_true, ih, List.reverse_append]
          rfl

/-- What is merged are the validators of all groups in order, each signature once. -/
theorem merge_eq_eraseDupsBy (groups : List (List Validator)) :
    merge groups = groups.flatten.eraseDupsBy repeats := addNew_eq_loop [] groups.flatten

theorem merge_distinct (groups : List (List Validator)) : Distinct (merge groups) :=
  addNew_distinct .nil _

theorem merge_snoc (groups : List (List Validator)) (vs : List Validator) :
    merge [merge groups, vs] = merge (groups ++ [vs]) := by
  have again : addNew [] (merge groups) = merge groups :=
    addNew_of_distinct (by simpa using merge_distinct groups)
  have left : merge [merge groups, vs] = addNew (addNew [] (merge groups)) vs := by
    rw [merge, List.flatten_cons, List.flatten_singleton, addNew_append]
  rw [left, again]
  simp only [merge, List.flatten_append, List.flatten_singleton, addNew_append]

theorem mem_of_mem_addNew {seen vs : List Validator} {v : Validator} (h : v ∈ addNew seen vs) :
    v ∈ seen ∨ v ∈ vs := by
  induction vs generalizing seen with
  | nil => exact .inl h
  | cons w vs ih =>
      rw [addNew] at h
      split at h
      · exact (ih h).imp_right (List.mem_cons_of_mem w)
      · rcases ih h with h | h
        · rw [List.mem_append, List.mem_singleton] at h
          exact h.imp_right fun same : v = w => same ▸ List.mem_cons_self
        · exact .inr (List.mem_cons_of_mem w h)

theorem mem_of_mem_merge {groups : List (List Validator)} {v : Validator} (h : v ∈ merge groups) :
    v ∈ groups.flatten := (mem_of_mem_addNew h).resolve_left List.not_mem_nil

theorem signatures_eq (vs : List Validator) :
    vs.mapM signature? = if vs.any isLong then misuse .badValue else .ok (vs.map signature) := by
  induction vs with
  | nil => rfl
  | cons v vs ih =>
      rw [List.mapM_cons, signature?, ih, List.any_cons]
      cases v.isLong with
      | true => rfl
      | false => cases vs.any isLong <;> rfl

/-- Groups can be merged unless one of their parameters is too long to be written. -/
theorem merge?_eq (groups : List (List Validator)) :
    merge? groups =
      if groups.flatten.any isLong then misuse .badValue else .ok (merge groups) := by
  rw [merge?, signatures_eq]
  split <;> rfl

end Validator

/-- All parameters of the validators can be written. -/
def Property.Short (p : Property) : Prop := ∀ v ∈ p.validators, v.isLong = false

def Property.AllShort (ps : List Property) : Prop := ∀ p ∈ ps, p.Short

def Model.Short (m : Model) : Prop := Property.AllShort m.properties

namespace Population
open SdkBlueprint.Document SdkBlueprint.Schema

/-- The properties of a name, in order. -/
def occurrences (name : String) (ps : List Property) : List Property :=
  ps.filter fun p => p.name == name

theorem occurrences_append_singleton (name : String) (ps : List Property) (p : Property) :
    occurrences name (ps ++ [p]) =
      if p.name = name then occurrences name ps ++ [p] else occurrences name ps := by
  unfold occurrences
  rw [List.filter_append]
  by_cases h : p.name = name <;> simp [h]

/-- The last property of a name, with the validators of all of them. -/
def gathered (name : String) (ps : List Property) : Option Property :=
  (occurrences name ps).getLast?.map fun p =>
    { p with validators := Validator.merge ((occurrences name ps).map Property.validators) }

theorem gathered_validators (name : String) (ps : List Property) :
    ((gathered name ps).map Property.validators).getD [] =
      Validator.merge ((occurrences name ps).map Property.validators) := by
  unfold gathered
  cases h : occurrences name ps with
  | nil => rfl
  | cons p rest => simp [List.getLast?_cons]

/-- The property with the validators of an earlier one of its name. -/
def inherit (earlier : Option Property) (p : Property) : Property :=
  { p with
    validators := Validator.merge [(earlier.map Property.validators).getD [], p.validators] }

def overlay (properties : Table Property) (p : Property) : Table Property :=
  properties.put p.name (inherit (properties.get? p.name) p)

theorem gathered_append_singleton (name : String) (ps : List Property) (p : Property) :
    gathered name (ps ++ [p]) =
      if p.name = name then some (inherit (gathered name ps) p) else gathered name ps := by
  by_cases h : p.name = name
  · have here := occurrences_append_singleton name ps p
    rw [if_pos h] at here ⊢
    rw [inherit, gathered_validators, Validator.merge_snoc]
    simp [gathered, here]
  · have here := occurrences_append_singleton name ps p
    rw [if_neg h] at here ⊢
    rw [gathered, here, gathered]

section Overlay

variable {t : Table Property} {p : Property}

theorem overlay?_eq (t : Table Property) (p : Property) :
    overlay? t p = (Validator.merge? [((t.get? p.name).map Property.validators).getD [],
      p.validators]).map fun _ => overlay t p := by
  rw [overlay?, inherit?, Validator.merge?_eq]
  split <;> rfl

theorem overlay?_yields {t' : Table Property} (h : overlay? t p = .ok t') : t' = overlay t p := by
  rw [overlay?_eq] at h
  obtain ⟨_, _, same⟩ := attempt_map_ok h
  exact same.symm

/-- What an earlier property of a table and a later one bear between them. -/
theorem short_of_inherited (earlier : Property.AllShort t.values) (later : p.Short) :
    ∀ v ∈ [((t.get? p.name).map Property.validators).getD [], p.validators].flatten,
      v.isLong = false := by
  intro v hv
  rw [List.flatten_cons, List.flatten_singleton, List.mem_append] at hv
  rcases hv with hv | hv
  · cases stored : t.get? p.name with
    | none =>
        rw [stored] at hv
        exact absurd hv List.not_mem_nil
    | some q =>
        rw [stored] at hv
        exact earlier q (Table.mem_values.mpr ⟨_, stored⟩) v hv
  · exact later v hv

theorem overlay?_short (earlier : Property.AllShort t.values) (later : p.Short) :
    overlay? t p = .ok (overlay t p) := by
  have short := short_of_inherited earlier later
  rw [overlay?_eq, Validator.merge?_eq, if_neg]
  · rfl
  · rw [Bool.not_eq_true, List.any_eq_false]
    exact fun v hv => Bool.not_eq_true _ ▸ short v hv

theorem overlay_short (earlier : Property.AllShort t.values) (later : p.Short) :
    Property.AllShort (overlay t p).values := by
  intro q hq
  rcases Table.mem_values_put hq with rfl | hq
  · exact fun v hv => short_of_inherited earlier later v (Validator.mem_of_mem_merge hv)
  · exact earlier q hq

end Overlay

theorem overlaid_get? (ps : List Property) (name : String) :
    (ps.foldl overlay Table.empty).get? name = gathered name ps := by
  induction ps using List.reverseRecOn with
  | nil => rfl
  | append_singleton ps p ih =>
      rw [List.foldl_append, List.foldl_cons, List.foldl_nil, overlay, Table.get?_put,
        gathered_append_singleton]
      by_cases h : p.name = name
      · rw [if_pos h, if_pos h, h, ih]
      · rw [if_neg h, if_neg h, ih]

theorem overlaid_names (ps : List Property) :
    (ps.foldl overlay Table.empty).names = (ps.map Property.name).eraseDups :=
  Table.names_foldl_put (fun t (p : Property) => inherit (t.get? p.name) p) Property.name ps
    Table.empty

theorem overlaid_keyed (ps : List Property) :
    (ps.foldl overlay Table.empty).Keyed Property.name := by
  induction ps using List.reverseRecOn with
  | nil => exact Table.keyed_empty _
  | append_singleton ps p ih =>
      rw [List.foldl_append]
      exact ih.put rfl

theorem override_short {t : Table Property} (earlier : Property.AllShort t.values)
    {own : List Property} (later : Property.AllShort own) :
    Property.AllShort (override t own).values :=
  Table.forall_values_foldl_put Property.name (fun _ p => p) (fun _ p hp _ => later p hp) earlier

theorem demanded_short {p : Property} (h : p.Short) : (demanded p).Short := by
  unfold demanded Property.Short
  simp only []
  split
  · exact h
  · intro v hv
    rcases List.mem_append.mp hv with hv | hv
    · exact h v hv
    · rw [List.mem_singleton.mp hv]
      rfl

theorem override_names (t : Table Property) (own : List Property) :
    (override t own).names = (t.names ++ own.map Property.name).eraseDups :=
  Table.names_foldl_put (fun _ p => p) Property.name own t

theorem override_get? (t : Table Property) (own : List Property) (name : String) :
    (override t own).get? name = (occurrences name own).getLast?.or (t.get? name) := by
  induction own using List.reverseRecOn with
  | nil => rfl
  | append_singleton own p ih =>
      rw [override] at ih ⊢
      rw [List.foldl_append, List.foldl_cons, List.foldl_nil, Table.get?_put, ih,
        occurrences_append_singleton]
      by_cases h : p.name = name <;> simp [h]

theorem override_keyed {t : Table Property} (h : t.Keyed Property.name) (own : List Property) :
    (override t own).Keyed Property.name := by
  induction own using List.reverseRecOn with
  | nil => exact h
  | append_singleton own p ih =>
      rw [override, List.foldl_append]
      exact Table.Keyed.put ih rfl

theorem any_same_text {required : List Scalar} {name : String} :
    required.any (Scalar.same (.text name)) ↔ Scalar.text name ∈ required := by
  rw [List.any_eq_true]
  constructor
  · rintro ⟨s, hs, same⟩
    exact text_same_iff.mp same ▸ hs
  · exact fun h => ⟨_, h, text_same_iff.mpr rfl⟩

theorem mem_added {names : List String} {required : List Scalar} {name : String} :
    Scalar.text name ∈ (names.map Scalar.text).foldl (fun acc s => Value.addMember s acc) required ↔
      Scalar.text name ∈ required ∨ name ∈ names := by
  induction names generalizing required with
  | nil => simp
  | cons n names ih =>
      rw [List.map_cons, List.foldl_cons, ih, Value.addMember]
      split
      · next known =>
        obtain ⟨s, hs, same⟩ := List.any_eq_true.mp known
        rw [same_text_iff] at same
        subst same
        constructor
        · exact fun h => h.imp_right (List.mem_cons_of_mem n)
        · rintro (h | h)
          · exact .inl h
          · exact (List.mem_cons.mp h).elim (fun hn => .inl (hn ▸ hs)) .inr
      · simp only [List.mem_append, Scalar.text.injEq, List.mem_cons, List.not_mem_nil, or_false,
          or_assoc]

theorem texts_of_textList {v : Value} (h : isTextList v) :
    ∃ names : List String, itemsOf v = names.map Value.text := by
  rw [isTextList, Bool.and_eq_true] at h
  obtain ⟨_, all⟩ := h
  generalize itemsOf v = items at all
  induction items with
  | nil => exact ⟨[], rfl⟩
  | cons m items ih =>
      rw [List.all_cons, Bool.and_eq_true] at all
      obtain ⟨n, rfl⟩ := text_of_isSome all.1
      obtain ⟨names, hn⟩ := ih all.2
      exact ⟨n :: names, by rw [hn, List.map_cons]⟩

theorem requiredNames_eq (schema : Value) :
    requiredNames schema = itemsOf (schema.field "required") := by
  unfold requiredNames
  cases schema.field "required" <;> rfl

/-- The schema requires the name. -/
def Requires (schema : Value) (name : String) : Prop :=
  isRequired (requiredNames schema) (.text name)

theorem requires_iff {schema : Value} {names : List String} {name : String}
    (h : requiredNames schema = names.map Value.text) : Requires schema name ↔ name ∈ names := by
  rw [Requires, h, isRequired, List.any_map, List.any_eq_true]
  simp [Value.text, same_text_iff]

/-- A well-typed class declares properties that can be written. -/
theorem DeclaresAll.short {nameOf : String → String} {schema : Value} {ps : List Property}
    (h : DeclaresAll nameOf schema ps) (typed : TypedClass schema) : Property.AllShort ps := by
  intro p hp
  obtain ⟨e, he, _, _, declares⟩ := forall₂_exists_left h p hp
  exact validators_short (typedFacets_schemaMap (typed.values e he).facets) declares.validators

namespace Flattening

theorem addProperties_adds (current source : String) (f : Flattening) (ps : List Property) :
    Logged.Adds ofModels (f.addProperties current source ps) := by
  unfold addProperties
  refine Logged.Adds.bind (.foldlM (fun acc p => ?_) _ _) fun _ => .pure _
  split
  · exact (Logged.Adds.note (.inr rfl)).bind fun _ => .attempt _
  · exact .attempt _

theorem addProperties_yields (current source : String) (f : Flattening) (ps : List Property) :
    Logged.Yields (· = { f with properties := ps.foldl overlay f.properties })
      (f.addProperties current source ps) := by
  unfold addProperties
  refine (Logged.Yields.foldlM (fun acc p => ?_) _ _).bind fun t ht => .pure (ht ▸ rfl)
  split
  · exact .next fun _ => .attempt fun _ => overlay?_yields
  · exact .attempt fun _ => overlay?_yields

def Short (f : Flattening) : Prop := Property.AllShort f.properties.values

theorem empty_short : empty.Short := by
  rintro p ⟨⟩

theorem addProperties_succeeds (current source : String) {f : Flattening} (short : f.Short)
    {ps : List Property} (later : Property.AllShort ps) :
    Logged.Succeeds
      (fun g => g = { f with properties := ps.foldl overlay f.properties } ∧ g.Short)
      (f.addProperties current source ps) := by
  have total : Logged.Succeeds Short (f.addProperties current source ps) := by
    unfold addProperties
    refine (Logged.Succeeds.foldlM (I := fun t : Table Property => Property.AllShort t.values)
      (fun t earlier p hp => ?_) short).bind fun t ht => .pure ht
    have step : Logged.Succeeds (fun t : Table Property => Property.AllShort t.values)
        (Logged.attempt (overlay? t p)) :=
      (Logged.Succeeds.attempt (overlay?_short earlier (later p hp))).mono
        fun _ same => same ▸ overlay_short earlier (later p hp)
    split
    · exact (Logged.Succeeds.note _).bind fun _ _ => step
    · exact step
  intro j
  obtain ⟨g, k, run, short⟩ := total j
  exact ⟨g, k, run, addProperties_yields current source f ps j g k run, short⟩

theorem addInline_adds (nameOf : String → String) (current : String) (f : Flattening)
    (member : Value) : Logged.Adds ofModels (f.addInline nameOf current member) := by
  unfold addInline
  refine (ownProperties_adds nameOf _ _).bind fun ps => ?_
  exact (addProperties_adds _ _ _ _).bind fun g => .attempt _

/-- What a step of flattening does to the properties and to the required names. What can be
written stays so. -/
structure Extends (f g : Flattening) (ps : List Property) (names : String → Prop) : Prop where
  properties : g.properties = ps.foldl overlay f.properties
  required : ∀ name, Scalar.text name ∈ g.required ↔ Scalar.text name ∈ f.required ∨ names name
  short : f.Short → g.Short

theorem Extends.refl (f : Flattening) : Extends f f [] fun _ => False :=
  ⟨rfl, fun _ => (or_false _).symm ▸ Iff.rfl, id⟩

theorem Extends.trans {f g h : Flattening} {ps qs : List Property} {names names' : String → Prop}
    (first : Extends f g ps names) (second : Extends g h qs names') :
    Extends f h (ps ++ qs) fun name => names name ∨ names' name := by
  refine ⟨?_, fun name => ?_, second.short ∘ first.short⟩
  · rw [second.properties, first.properties, List.foldl_append]
  · rw [second.required, first.required, or_assoc]

theorem require_ok (f : Flattening) {schema : Value} (h : isTextList (schema.field "required")) :
    ∃ g, f.require (requiredNames schema) = .ok g ∧ Extends f g [] (Requires schema) := by
  obtain ⟨names, hn⟩ := texts_of_textList h
  rw [← requiredNames_eq] at hn
  refine ⟨{ f with required :=
    (names.map Scalar.text).foldl (fun acc s => Value.addMember s acc) f.required },
    ?_, rfl, ?_, id⟩
  · rw [require, hn, mapM_map_ok Scalar.text]
    · rfl
    · exact fun n => rfl
  · intro name
    rw [mem_added, requires_iff hn]

theorem addInline_succeeds (nameOf : String → String) (current : String) {f : Flattening}
    (short : f.Short) {member : Value} (h : TypedClass member) :
    Logged.Succeeds (fun g => ∃ ps, DeclaresAll nameOf member ps ∧ Extends f g ps (Requires member))
      (f.addInline nameOf current member) := by
  unfold addInline
  refine (ownProperties_succeeds nameOf current h).bind fun ps declared => ?_
  refine (addProperties_succeeds current _ short (declared.short h)).bind fun g ⟨hg, shorter⟩ => ?_
  obtain ⟨k, hk, more⟩ := require_ok g h.required
  refine (Logged.Succeeds.attempt hk).mono fun k' hk' => ⟨ps, declared, ?_, ?_, fun _ => ?_⟩
  · rw [hk', more.properties, hg]
    rfl
  · rw [hk']
    intro name
    rw [more.required, hg]
  · exact hk' ▸ more.short shorter

theorem withRequired_names (f : Flattening) :
    f.withRequired.properties.names = f.properties.names := Table.names_map _ _

theorem withRequired_get? (f : Flattening) (name : String) :
    f.withRequired.properties.get? name = (f.properties.get? name).map fun p =>
      if f.required.any (Scalar.same (.text name)) then demanded p else p := Table.get?_map _ _ _

theorem withRequired_keyed {f : Flattening} (h : f.properties.Keyed Property.name) :
    f.withRequired.properties.Keyed Property.name := by
  intro e he
  obtain ⟨⟨name, p⟩, hp, rfl⟩ := List.mem_map.mp he
  simp only
  split <;> exact h _ hp

theorem Short.withRequired {f : Flattening} (h : f.Short) : f.withRequired.Short := by
  intro p hp
  obtain ⟨name, stored⟩ := Table.mem_values.mp hp
  rw [withRequired_get?] at stored
  obtain ⟨q, hq, rfl⟩ := Option.map_eq_some_iff.mp stored
  have here : q.Short := h q (Table.mem_values.mpr ⟨name, hq⟩)
  split
  · exact demanded_short here
  · exact here

end Flattening
end Population
end SdkBlueprint
