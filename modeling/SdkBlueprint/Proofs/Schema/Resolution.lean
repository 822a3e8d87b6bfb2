import SdkBlueprint.Proofs.Journal
import SdkBlueprint.Proofs.Schema.Typed

/-! Schemas that are well-typed can be read: every node has a type, and every property
schema has its facts and its discriminator. -/
namespace SdkBlueprint.Schema
open SdkBlueprint.Document

variable (nameOf : String → String)

theorem mapM_ok {α β : Type} {f : α → Attempt β} {xs : List α} (h : ∀ x ∈ xs, ∃ y, f x = .ok y) :
    ∃ ys, xs.mapM f = .ok ys := by
  induction xs with
  | nil => exact ⟨[], rfl⟩
  | cons x xs ih =>
      obtain ⟨y, hy⟩ := h x (by simp)
      obtain ⟨ys, hys⟩ := ih fun z hz => h z (by simp [hz])
      exact ⟨y :: ys, by rw [List.mapM_cons, hy, hys]; rfl⟩

theorem mapM_map_ok {α β γ : Type} {f : β → Attempt γ} {k : α → β} (g : α → γ) {xs : List α}
    (h : ∀ x, f (k x) = .ok (g x)) : (xs.map k).mapM f = .ok (xs.map g) := by
  induction xs with
  | nil => rfl
  | cons x xs ih =>
      rw [List.map_cons, List.mapM_cons, h, ih]
      rfl

theorem map_ok {α β : Type} {x : Attempt α} (f : α → β) (h : ∃ a, x = .ok a) :
    ∃ b, x.map f = .ok b := by
  obtain ⟨a, rfl⟩ := h
  exact ⟨f a, rfl⟩

/-- References that a form goes by. -/
def Form.refs : Form → List Value
  | .reference ref => [ref]
  | .references refs => refs
  | _ => []

/-- A form that can be turned into a type once its children can. -/
structure TypedForm (form : Form) : Prop where
  children : ∀ c ∈ form.children, TypedNode c
  refs : ∀ r ∈ form.refs, r.textOf?.isSome

theorem itemsOf_truthyField {v list : Value} {name : String}
    (h : truthyField? v name = some list) (hl : isListOrNull (v.field name)) :
    list = .list (itemsOf (v.field name)) := by
  obtain ⟨hf, ht⟩ := Option.filter_eq_some_iff.mp h
  rw [field?_eq_some hf] at hl ⊢
  rcases listOrNull_cases hl with rfl | ⟨items, rfl⟩
  · cases ht
  · rfl

theorem allOfForm_typed {members : List Value} (h : ∀ m ∈ members, TypedNode m) :
    ∃ form, allOfForm (.list members) = .ok form ∧ TypedForm form := by
  unfold allOfForm
  split
  · next heq =>
      cases heq
      exact ⟨_, rfl, by simpa [Form.children] using h, by simp [Form.refs]⟩
  · next heq =>
      cases heq
      split
      · split
        · next m hm =>
            have hm' := h m (List.mem_of_find?_eq_some hm)
            exact ⟨_, rfl, by simpa [Form.children] using hm', by simp [Form.refs]⟩
        · exact ⟨_, rfl, by simp [Form.children], by simp [Form.refs]⟩
      · refine ⟨_, rfl, by simp [Form.children], ?_⟩
        intro r hr
        obtain ⟨m, hm, href⟩ := List.mem_filterMap.mp hr
        exact (h m hm).reference r href
  all_goals next heq => cases heq

theorem declaredType_scalar {v : Value} (h : isTypeName (v.field "type")) :
    ∃ s, declaredType v = .scalar s := by
  rw [isTypeName, Bool.or_eq_true] at h
  unfold declaredType
  rcases h with h | h
  · rcases textOrNull_cases h with h | ⟨s, h⟩ <;> rw [h]
    · exact ⟨_, rfl⟩
    · exact ⟨_, rfl⟩
  · rw [isTextList, Bool.and_eq_true, List.all_eq_true] at h
    rcases listOrNull_cases h.1 with hv | ⟨types, hv⟩ <;> rw [hv]
    · exact ⟨_, rfl⟩
    · cases hf : types.find? fun t => t.textOf? != some "null" with
      | none => exact ⟨.null, by simp [hf, Value.null]⟩
      | some t =>
          have ht : t ∈ itemsOf (v.field "type") := by
            rw [hv]
            exact List.mem_of_find?_eq_some hf
          obtain ⟨s, rfl⟩ := text_of_isSome (h.2 t ht)
          exact ⟨.text s, by simp [hf, Value.text]⟩

theorem arrayForm_typed {v : Value} (h : TypedNode v) : TypedForm (arrayForm v) := by
  unfold arrayForm
  split
  · next items hi =>
      have typed := h.items
      rw [field?_eq_some hi] at typed
      by_cases ht : items.truthy
      · exact ⟨by simpa [ht, Form.children] using typed, by simp [Form.refs]⟩
      · exact ⟨by simp [ht, Form.children], by simp [Form.refs]⟩
  · exact ⟨by simp [Form.children], by simp [Form.refs]⟩

theorem objectForm_typed {v : Value} (h : TypedNode v) : TypedForm (objectForm v) := by
  unfold objectForm
  split
  · next entries he =>
      have typed := h.additional
      rw [field?_eq_some he] at typed
      exact ⟨by simpa [Form.children] using typed, by simp [Form.refs]⟩
  · exact ⟨by simp [Form.children], by simp [Form.refs]⟩
  · exact ⟨by simp [Form.children], by simp [Form.refs]⟩

theorem declaredForm_typed {v : Value} (h : TypedNode v) :
    ∃ form, declaredForm v = .ok form ∧ TypedForm form := by
  obtain ⟨s, hs⟩ := declaredType_scalar h.fields.type
  unfold declaredForm
  rw [hs]
  split
  · exact ⟨_, rfl, arrayForm_typed h⟩
  · exact ⟨_, rfl, objectForm_typed h⟩
  all_goals first
    | exact ⟨_, rfl, by simp [Form.children], by simp [Form.refs]⟩
    | simp_all

theorem formOf_typed {v : Value} (h : TypedNode v) :
    ∃ form, formOf v = .ok form ∧ TypedForm form := by
  unfold formOf
  split
  · next href =>
      exact ⟨_, rfl, by simp [Form.children], by simpa [Form.refs] using h.reference _ href⟩
  · next list hl =>
      rw [itemsOf_truthyField hl h.fields.allOf]
      exact allOfForm_typed h.allOf
  · next list hl =>
      rw [itemsOf_truthyField hl h.fields.oneOf]
      exact ⟨_, rfl, by simpa [Form.children] using h.oneOf, by simp [Form.refs]⟩
  · exact declaredForm_typed h

theorem literalText_ok {v : Value} (h : (Json.fault? v).isNone) : ∃ s, literalText v = .ok s := by
  unfold literalText
  split
  · exact ⟨_, rfl⟩
  · rw [Json.written, Option.isNone_iff_eq_none.mp h]
    exact ⟨_, rfl⟩

theorem iterate_literals {v : Value} (h : isLiteralList v) (hv : v.isNull = false) :
    ∃ items, iterate v = .ok items ∧ ∀ m ∈ items, (Json.fault? m).isNone := by
  rw [isLiteralList, Bool.and_eq_true, List.all_eq_true] at h
  rcases listOrNull_cases h.1 with rfl | ⟨items, rfl⟩
  · cases hv
  · exact ⟨items, rfl, h.2⟩

theorem stringType_ok {v : Value} (h : TypedNode v) : ∃ t, stringType nameOf v = .ok t := by
  unfold stringType
  split
  · exact ⟨_, rfl⟩
  · next values hn =>
      simp only []
      split
      · next ht =>
          rcases textOrNull_cases h.fields.title with hv | ⟨s, hv⟩
          · rw [hv] at ht
            cases ht
          · exact ⟨_, by rw [hv]; rfl⟩
      · have hv : (v.field "enum").isNull = false := by
          unfold Value.isNull
          split
          · next he => exact absurd he hn
          · rfl
        obtain ⟨items, hi, hj⟩ := iterate_literals h.fields.enum hv
        obtain ⟨types, htypes⟩ := mapM_ok (f := fun m => (literalText m).map TypeExpr.literal)
          fun m hm => map_ok _ (literalText_ok (hj m hm))
        exact ⟨_, by rw [hi]; simp [bind, Except.bind, literalTypes, htypes]; rfl⟩

theorem typedForm_of_formOf {v : Value} {form : Form} (h : TypedNode v)
    (hf : formOf v = .ok form) : TypedForm form := by
  obtain ⟨f, hok, typed⟩ := formOf_typed h
  rw [hok] at hf
  cases hf
  exact typed

/-- The type of a node of the given form, from the types of the nodes that it leads on to. -/
def formType (nameOf : String → String) (rest : Value → Attempt TypeExpr) (node : Value) :
    Form → Attempt TypeExpr
  | .anything => .ok .any
  | .reference ref => referenceType nameOf ref
  | .delegate child => rest child
  | .references refs => (refs.mapM (referenceType nameOf)).map (combine .intersection)
  | .union members => (members.mapM rest).map (combine .union)
  | .array none => .ok TypeExpr.any.asArray
  | .array (some items) => (rest items).map TypeExpr.asArray
  | .dictionary none => .ok TypeExpr.any.asDictionary
  | .dictionary (some values) => (rest values).map TypeExpr.asDictionary
  | .string => stringType nameOf node
  | .number => .ok (.primitive "number")
  | .boolean => .ok (.primitive "boolean")

theorem resolve_eq (nameOf : String → String) (node : Value) :
    resolve nameOf node = formOf node >>= formType nameOf (resolve nameOf) node := by
  have attached : ∀ members : List Value,
      (members.attach.mapM fun m => resolve nameOf m.val) = members.mapM (resolve nameOf) := by
    intro members
    conv_rhs => rw [← List.attach_map_subtype_val members, List.mapM_map]
    rfl
  rw [resolve]
  split
  case h_6 members form =>
    rw [form, attached]
    rfl
  all_goals
    rename_i form
    rw [form]
    rfl

theorem referenceType_ok {ref : Value} (h : ref.textOf?.isSome) :
    ∃ t, referenceType nameOf ref = .ok t := by
  obtain ⟨s, rfl⟩ := text_of_isSome h
  exact ⟨_, rfl⟩

/-- Every well-typed node has a type. The induction goes through the nodes that the form
of a node leads to, which are well-typed with it. -/
theorem resolve_ok {v : Value} (h : TypedNode v) : ∃ t, resolve nameOf v = .ok t := by
  fun_induction resolve nameOf v with
  | case1 v failure hform =>
      obtain ⟨form, hok, _⟩ := formOf_typed h
      rw [hok] at hform
      cases hform
  | case2 => exact ⟨_, rfl⟩
  | case3 v ref hform =>
      exact referenceType_ok nameOf ((typedForm_of_formOf h hform).refs ref (by simp [Form.refs]))
  | case4 v child hform ih =>
      exact ih ((typedForm_of_formOf h hform).children child (by simp [Form.children]))
  | case5 v refs hform =>
      have typed := (typedForm_of_formOf h hform).refs
      exact map_ok _ (mapM_ok fun ref hr => referenceType_ok nameOf (typed ref hr))
  | case6 v members hform ih =>
      have typed := (typedForm_of_formOf h hform).children
      exact map_ok _ (mapM_ok fun m _ => ih m (typed m m.property))
  | case7 => exact ⟨_, rfl⟩
  | case8 v items hform ih =>
      exact map_ok _ (ih ((typedForm_of_formOf h hform).children items (by simp [Form.children])))
  | case9 => exact ⟨_, rfl⟩
  | case10 v values hform ih =>
      exact map_ok _ (ih ((typedForm_of_formOf h hform).children values (by simp [Form.children])))
  | case11 v hform => exact stringType_ok nameOf h
  | case12 => exact ⟨_, rfl⟩
  | case13 => exact ⟨_, rfl⟩

theorem bound_ok {v : Value} (name : String) (kind : ValidatorKind)
    (h : isNumberOrNull (v.field name)) : ∃ vs, bound v name kind = .ok vs := by
  unfold isNumberOrNull at h
  unfold bound
  split at h
  · next hv => exact ⟨_, by rw [hv]; rfl⟩
  · next hv => exact ⟨_, by rw [hv]; rfl⟩
  · next hv => exact ⟨_, by rw [hv]; rfl⟩
  · cases h

theorem patternFacet_ok {v : Value} (h : isTextOrNull (v.field "pattern")) :
    ∃ vs, patternFacet v = .ok vs := by
  unfold patternFacet
  rcases textOrNull_cases h with hv | ⟨s, hv⟩ <;> rw [hv]
  · exact ⟨[], rfl⟩
  · by_cases ht : (Value.text s).truthy
    · exact ⟨_, by simp only [ht, if_true]; rfl⟩
    · exact ⟨[], by simp only [ht]; rfl⟩

theorem formatFacet_ok {v : Value} (h : isTextOrNull (v.field "format")) :
    ∃ vs, formatFacet v = .ok vs := by
  unfold formatFacet
  rcases textOrNull_cases h with hv | ⟨s, hv⟩ <;> rw [hv]
  · exact ⟨_, rfl⟩
  · exact ⟨_, rfl⟩

theorem validators_ok {v : Value} (h : TypedFacets v) : ∃ vs, validators v = .ok vs := by
  obtain ⟨minLength, h1⟩ := bound_ok "minLength" .minLength h.minLength
  obtain ⟨maxLength, h2⟩ := bound_ok "maxLength" .maxLength h.maxLength
  obtain ⟨pattern, h3⟩ := patternFacet_ok h.pattern
  obtain ⟨minimum, h4⟩ := bound_ok "minimum" .min h.minimum
  obtain ⟨maximum, h5⟩ := bound_ok "maximum" .max h.maximum
  obtain ⟨format, h6⟩ := formatFacet_ok h.format
  unfold validators
  split
  · exact ⟨[], rfl⟩
  · exact ⟨_, by rw [h1, h2, h3, h4, h5, h6]; rfl⟩

theorem bound_short {v : Value} {name : String} {kind : ValidatorKind}
    (h : isNumberOrNull (v.field name)) {vs : List Validator} (made : bound v name kind = .ok vs) :
    ∀ x ∈ vs, x.isLong = false := by
  unfold isNumberOrNull at h
  unfold bound at made
  split at h
  · next hv =>
      rw [hv] at made
      cases made
      simp
  · next n hv =>
      rw [hv] at made
      cases made
      simpa [Validator.isLong, Param.scalar] using h
  · next hv =>
      rw [hv] at made
      cases made
      simp [Validator.isLong, Param.scalar, Scalar.isLong]
  · cases h

theorem patternFacet_short {v : Value} (h : isTextOrNull (v.field "pattern"))
    {vs : List Validator} (made : patternFacet v = .ok vs) : ∀ x ∈ vs, x.isLong = false := by
  unfold patternFacet at made
  simp only [] at made
  split at made
  · next given =>
      rcases textOrNull_cases h with hv | ⟨s, hv⟩ <;> rw [hv] at made given
      · cases given
      · cases made
        simp [Validator.isLong, Param.scalar, Scalar.isLong]
  · cases made
    simp

theorem formatFacet_short {v : Value} {vs : List Validator} (made : formatFacet v = .ok vs) :
    ∀ x ∈ vs, x.isLong = false := by
  unfold formatFacet at made
  split at made
  · cases made
    intro x hx
    obtain ⟨kind, _, rfl⟩ := List.mem_map.mp hx
    rfl
  · cases made
    simp
  · cases made

theorem nullableFacet_short (v : Value) : ∀ x ∈ nullableFacet v, x.isLong = false := by
  unfold nullableFacet
  split <;> simp [Validator.isLong]

/-- The facts of a well-typed schema can all be written. -/
theorem validators_short {v : Value} (h : TypedFacets v) {vs : List Validator}
    (made : validators v = .ok vs) : ∀ x ∈ vs, x.isLong = false := by
  unfold validators at made
  split at made
  · cases made
    simp
  · obtain ⟨minLength, h₁, made⟩ := attempt_bind_ok made
    obtain ⟨maxLength, h₂, made⟩ := attempt_bind_ok made
    obtain ⟨pattern, h₃, made⟩ := attempt_bind_ok made
    obtain ⟨minimum, h₄, made⟩ := attempt_bind_ok made
    obtain ⟨maximum, h₅, made⟩ := attempt_bind_ok made
    obtain ⟨format, h₆, made⟩ := attempt_bind_ok made
    cases made
    intro x hx
    simp only [List.mem_append] at hx
    rcases hx with (((((hx | hx) | hx) | hx) | hx) | hx) | hx
    · exact bound_short h.minLength h₁ x hx
    · exact bound_short h.maxLength h₂ x hx
    · exact patternFacet_short h.pattern h₃ x hx
    · exact bound_short h.minimum h₄ x hx
    · exact bound_short h.maximum h₅ x hx
    · exact formatFacet_short h₆ x hx
    · exact nullableFacet_short v x hx

theorem iterate_orEmptyList {v : Value} (h : isListOrNull v) :
    iterate (orEmptyList v) = .ok (itemsOf v) := by
  rcases listOrNull_cases h with rfl | ⟨items, rfl⟩
  · rfl
  · cases items <;> rfl

theorem iterate_truthy {v : Value} (h : isListOrNull v) (ht : v.truthy) :
    iterate v = .ok (itemsOf v) := by
  rw [← iterate_orEmptyList h, orEmptyList, if_pos ht]

theorem refNames_ok {list : Value} {members : List Value} (hi : iterate list = .ok members)
    (h : ∀ m ∈ members, TypedReference m) : ∃ names, refNames nameOf list = .ok names := by
  have each : ∀ ref ∈ members.filterMap ref?, ∃ name, (targetKey ref).map nameOf = .ok name := by
    intro ref hr
    obtain ⟨m, hm, href⟩ := List.mem_filterMap.mp hr
    obtain ⟨s, _, hkey⟩ := targetKey_of_typed (h m hm) href
    exact ⟨_, by rw [hkey]; rfl⟩
  obtain ⟨names, hn⟩ := mapM_ok each
  exact ⟨names, by rw [refNames, hi]; exact hn⟩

theorem explicitMapping_ok {v : Value} (h : isMapOrNull v) (ht : v.truthy) :
    ∃ mapping, explicitMapping nameOf v = .ok mapping := by
  rcases mapOrNull_cases h with rfl | ⟨entries, rfl⟩
  · cases ht
  · exact ⟨_, rfl⟩

theorem discriminator_ok {v : Value} (h : TypedUnion v) : ∃ d, discriminator nameOf v = .ok d := by
  unfold discriminator
  simp only []
  split
  · exact ⟨none, rfl⟩
  · next hp =>
      simp only [Bool.or_eq_true, not_or, Bool.not_eq_true', Bool.not_eq_false] at hp
      obtain ⟨name, hname⟩ : ∃ s, (v.field "discriminator").field "propertyName" = .text s := by
        rcases textOrNull_cases h.propertyName with hv | hv
        · rw [hv] at hp
          exact absurd hp.2 (by decide)
        · exact hv
      rw [hname]
      split
      · next hs =>
          obtain ⟨m, hm⟩ := explicitMapping_ok nameOf h.mapping hs
          exact ⟨_, by rw [hm]; rfl⟩
      · obtain ⟨names, hn⟩ := refNames_ok nameOf (iterate_orEmptyList h.oneOf) h.references
        exact ⟨_, by rw [implicitMapping, hn]; rfl⟩

end SdkBlueprint.Schema
