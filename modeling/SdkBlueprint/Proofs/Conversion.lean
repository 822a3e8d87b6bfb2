import SdkBlueprint.Conversion
import SdkBlueprint.Proofs.Population.Composed
import SdkBlueprint.Proofs.Population.Independence
import SdkBlueprint.Proofs.Services.Catalog

/-! Conversion of documents that declare the same schemas in different orders. The models
come in the order of declaration; nothing else in the outcome tells the orders apart. -/
namespace SdkBlueprint
open SdkBlueprint.Document SdkBlueprint.Schema SdkBlueprint.Population

/-- The component schemas of the document are those of the table, in its order. -/
def HasSchemas (document : Value) (schemas : Table Value) : Prop :=
  (document.field "components").field "schemas" = Registry.mappingOf schemas

/-- The documents differ in nothing that is read but the component schemas. -/
structure SameButSchemas (d e : Value) : Prop where
  fields : ∀ name, name ≠ "components" → e.field name = d.field name
  components : ∀ name, name ≠ "schemas" →
    (e.field "components").field name = (d.field "components").field name

/-- The records before population: skeletons whose names are not reserved. -/
def started (settings : Settings) (schemas : Table Value) : Registry :=
  (⟨schemas, schemas.map Registry.skeletonOf⟩ : Registry).sanitize settings

section Document

variable {document : Value} {schemas : Table Value}

theorem isMap_of_field {v : Value} {name : String} (h : v.field name ≠ .null) : v.isMap = true := by
  by_contra other
  exact h (field_of_not_map (by simpa using other) name)

theorem orEmptyMap_of_field {v : Value} {name : String} (h : v.field name ≠ .null) :
    orEmptyMap v = v := by
  cases v with
  | map entries =>
      cases entries with
      | nil => exact absurd rfl h
      | cons e rest => rfl
  | _ => exact absurd rfl h

theorem HasSchemas.present (h : HasSchemas document schemas) :
    (document.field "components").field "schemas" ≠ .null := by
  rw [h]
  intro hn
  cases hn

theorem HasSchemas.isMap (h : HasSchemas document schemas) :
    document.isMap = true ∧ (document.field "components").isMap = true := by
  have outer : document.field "components" ≠ .null := by
    intro hn
    have inner := h.present
    rw [hn] at inner
    exact inner rfl
  exact ⟨isMap_of_field outer, isMap_of_field h.present⟩

theorem HasSchemas.components (h : HasSchemas document schemas) :
    Services.componentsOf document = .ok (document.field "components") := by
  obtain ⟨entries, hd⟩ := fieldsOf_isMap h.isMap.1
  rw [Services.componentsOf, hd, orEmptyMap_of_field h.present]
  rfl

theorem discovered_ok (typed : TypedSchemas schemas) (h : HasSchemas document schemas) :
    discovered document = .ok ⟨schemas, schemas.map Registry.skeletonOf⟩ := by
  obtain ⟨entries, hc⟩ := fieldsOf_isMap h.isMap.2
  have schemas' : (document.field "components").field "schemas" = Registry.mappingOf schemas := h
  rw [discovered, h.components]
  change (do
    let _ ← fieldsOf (document.field "components")
    Registry.discover ((document.field "components").field "schemas")) = _
  rw [hc, schemas', ← Registry.discover_ok typed]
  rfl

end Document

section Started

variable (settings : Settings) {schemas first second : Table Value}

theorem started_initial (schemas : Table Value) :
    Initial schemas (started settings schemas).records :=
  (Handed.initial (.inr ⟨settings, rfl⟩)).2

theorem started_get? (schemas : Table Value) (t : String) :
    (started settings schemas).records.get? t = (schemas.get? t).map fun v =>
      (Registry.skeletonOf t v).withName (settings.sanitized (Naming.pascal t)) := by
  unfold started Registry.sanitize
  rw [Table.get?_map, Table.get?_map, Option.map_map]
  rfl

theorem started_skeletons (t : String) (h : first.get? t = second.get? t) :
    (started settings first).records.get? t = (started settings second).records.get? t := by
  rw [started_get?, started_get?, h]

theorem started_nameOf (registered : ∀ t, t ∈ first.names ↔ t ∈ second.names) :
    (started settings first).nameOf = (started settings second).nameOf := by
  have named : ∀ (schemas : Table Value) (key : String), (started settings schemas).nameOf key =
      if key ∈ schemas.names then settings.sanitized (Naming.pascal key) else key := by
    intro schemas key
    unfold Registry.nameOf Registry.nameIn
    rw [started_get?]
    cases hv : schemas.get? key with
    | none =>
        rw [if_neg ((Table.get?_eq_none_iff _ _).mp hv)]
        simp only [Option.map_none]
    | some v =>
        rw [if_pos (Table.mem_names.mpr ⟨v, hv⟩)]
        simp only [Option.map_some, Model.withName]
  funext key
  rw [named, named]
  exact if_congr (registered key) rfl rfl

/-- What is noted before the models are populated. -/
def preludeOf (schemas : Table Value) : Journal :=
  .remark .conversion .debug (discoveredMessage schemas.entries.length) ::
    (Registry.renamings settings ⟨schemas, schemas.map Registry.skeletonOf⟩).map Renaming.entry

theorem preludeOf_perm (h : first.entries.Perm second.entries) :
    (preludeOf settings first).Perm (preludeOf settings second) := by
  unfold preludeOf Registry.renamings
  rw [h.length_eq]
  exact (((h.map _).filterMap _).map _).cons _

theorem models_run {document : Value} (typed : TypedSchemas schemas) (acyclic : ¬ Cyclic schemas)
    (has : HasSchemas document schemas) (j : Journal) : ∃ reg ps w,
      (models settings document).run j = (.ok reg, w.journal) ∧ reg.records = w.records ∧
      History schemas (started settings schemas).nameOf (started settings schemas).records
        (j ++ preludeOf settings schemas) ps w := by
  obtain ⟨ps, w, run, history⟩ := populateEach_acyclic (started settings schemas).nameOf
    (started_initial settings schemas) (Handed.blank (.inr ⟨settings, rfl⟩)) typed acyclic
    (j ++ preludeOf settings schemas)
  refine ⟨{ started settings schemas with records := w.records }, ps, w, ?_, rfl, history⟩
  have size : (⟨schemas, schemas.map Registry.skeletonOf⟩ : Registry).size =
      schemas.entries.length := List.length_map _
  have noted : j ++ preludeOf settings schemas = j ++ [.remark .conversion .debug
      (discoveredMessage schemas.entries.length)] ++ (Registry.renamings settings
        ⟨schemas, schemas.map Registry.skeletonOf⟩).map Renaming.entry := by
    rw [preludeOf, List.append_assoc]
    rfl
  rw [models, discovered_ok typed has, Logged.attempt_ok_bind, size]
  rw [noted] at run
  exact run_populated run

end Started
section Contents

variable (settings : Settings) (nameOf : String → String)

/-- What a blueprint holds beside its models. -/
def contents (document : Value) : Logged (Info × List Service) := do
  let services ← Services.services settings nameOf document
  let operations := services.foldl (fun n s => n + s.operations.size) 0
  Logged.remark .conversion .debug (builtMessage services.length operations)
  let info ← Logged.attempt (infoOf document)
  return (info, services)

theorem contents_adds (document : Value) :
    Logged.Adds (fun _ => True) (contents settings nameOf document) := by
  unfold contents
  refine (Services.services_adds settings nameOf document).bind fun services => ?_
  refine (Logged.Adds.note trivial).bind fun _ => ?_
  exact (Logged.Adds.attempt _).bind fun info => .pure _

theorem convert_eq (document : Value) :
    convert settings document = models settings document >>= fun reg =>
      (fun c => (⟨c.1, reg.models, c.2⟩ : Blueprint)) <$>
        contents settings reg.nameOf document := by
  simp only [convert, contents, map_eq_pure_bind, bind_assoc, pure_bind]

theorem convert_run {document : Value} {j k : Journal} {reg : Registry}
    (h : (models settings document).run j = (.ok reg, k)) :
    (convert settings document).run j =
      ((contents settings reg.nameOf document).result.map fun c =>
        (⟨c.1, reg.models, c.2⟩ : Blueprint),
        k ++ (contents settings reg.nameOf document).entries) := by
  rw [convert_eq, Logged.run_bind, h]
  simp only [Logged.run_map, (contents_adds settings reg.nameOf document).run]

theorem contents_same {d e : Value} {first second : Table Value} (has : HasSchemas d first)
    (has' : HasSchemas e second) (same : SameButSchemas d e) :
    contents settings nameOf e = contents settings nameOf d := by
  have components : Services.Components.ofDocument e = Services.Components.ofDocument d := by
    obtain ⟨entries, hc⟩ := fieldsOf_isMap has.isMap.2
    obtain ⟨entries', hc'⟩ := fieldsOf_isMap has'.isMap.2
    unfold Services.Components.ofDocument
    rw [has.components, has'.components]
    simp only [bind, Except.bind, hc, hc', same.components "parameters" (by decide),
      same.components "requestBodies" (by decide), same.components "responses" (by decide)]
  have endpoints : Services.Endpoint.ofDocument e = Services.Endpoint.ofDocument d := by
    obtain ⟨entries, hd⟩ := fieldsOf_isMap has.isMap.1
    obtain ⟨entries', hd'⟩ := fieldsOf_isMap has'.isMap.1
    unfold Services.Endpoint.ofDocument
    rw [hd, hd', same.fields "paths" (by decide)]
    rfl
  have info : infoOf e = infoOf d := by
    rw [infoOf, infoOf, same.fields "info" (by decide)]
  unfold contents Services.services Services.catalog
  rw [components, endpoints, info]

/-- The outcomes differ at most in the order of the models. -/
def SameButOrder : Attempt Blueprint → Attempt Blueprint → Prop
  | .ok a, .ok b => b.info = a.info ∧ b.services = a.services ∧ b.models.Perm a.models
  | .error f, .error g => g = f
  | _, _ => False

end Contents

/-- Neither the order of the schemas nor schemas that cannot be reached from a key make a
difference to its record. When documents declare the same schemas in different orders, the
outcomes differ in the order of the models alone, and the journals in the order of entries. -/
theorem declaration_order_irrelevant (settings : Settings) {d e : Value}
    {first second : Table Value} (typed : TypedSchemas first) (typed' : TypedSchemas second)
    (acyclic : ¬ Cyclic first) (acyclic' : ¬ Cyclic second) (has : HasSchemas d first)
    (has' : HasSchemas e second) (sameKeys : ∀ key, key ∈ first.names ↔ key ∈ second.names) :
    (∀ j j' : Journal, ∃ reg k reg' k', (models settings d).run j = (.ok reg, k) ∧
      (models settings e).run j' = (.ok reg', k') ∧
      ∀ key, AgreeFrom first second key → reg.get? key = reg'.get? key) ∧
    (first.entries.Perm second.entries → SameButSchemas d e → ∀ j : Journal,
      ∃ r k r' k', (convert settings d).run j = (r, k) ∧ (convert settings e).run j = (r', k') ∧
        SameButOrder r r' ∧ k.Perm k' ∧ k.findings.Perm k'.findings) := by
  have nameOf := started_nameOf settings sameKeys
  have skeletons : ∀ t, first.get? t = second.get? t →
      (started settings first).records.get? t = (started settings second).records.get? t :=
    started_skeletons settings
  constructor
  · intro j j'
    obtain ⟨reg, ps, w, run, hw, history⟩ := models_run settings typed acyclic has j
    obtain ⟨reg', qs, w', run', hw', history'⟩ := models_run settings typed' acyclic' has' j'
    rw [← nameOf] at history'
    refine ⟨reg, _, reg', _, run, run', fun key agree => ?_⟩
    rw [Registry.get?, Registry.get?, hw, hw']
    exact history.same_record history' (started_initial settings first)
      (started_initial settings second) sameKeys skeletons agree
  · intro perm same j
    have agree := Table.get?_of_perm perm
    obtain ⟨reg, ps, w, run, hw, history⟩ := models_run settings typed acyclic has j
    obtain ⟨reg', qs, w', run', hw', history'⟩ := models_run settings typed' acyclic' has' j
    rw [← nameOf] at history'
    have records : ∀ key, reg.records.get? key = reg'.records.get? key := by
      intro key
      rw [hw, hw']
      exact history.same_record history' (started_initial settings first)
        (started_initial settings second) sameKeys skeletons fun t _ => agree t
    have names : reg.nameOf = reg'.nameOf := by
      funext key
      unfold Registry.nameOf Registry.nameIn
      rw [records key]
    have noted : w.journal.Perm w'.journal := by
      refine history.noted.trans (List.Perm.trans ?_ history'.noted.symm)
      exact ((preludeOf_perm settings perm).append_left j).append
        ((history.products_perm history' agree skeletons).flatMap_right Product.notes)
    have finished := convert_run settings run
    have finished' := convert_run settings run'
    rw [← names, contents_same settings reg.nameOf has has' same] at finished'
    have journals := noted.append_right (contents settings reg.nameOf d).entries
    refine ⟨_, _, _, _, finished, finished', ?_, journals, journals.filterMap _⟩
    cases (contents settings reg.nameOf d).result with
    | error f => rfl
    | ok c => exact ⟨rfl, rfl, (Table.entries_perm records).symm.map _⟩

/-- The same schemas in the opposite order. -/
def reversed (schemas : Table Value) : Table Value :=
  ⟨schemas.entries.reverse, by
    rw [List.map_reverse, List.nodup_reverse]
    exact schemas.distinct⟩

/-- A document with nothing but schemas. -/
def documentOf (schemas : Table Value) : Value :=
  .map [(.text "components", .map [(.text "schemas", Registry.mappingOf schemas)])]

theorem documentOf_has (schemas : Table Value) : HasSchemas (documentOf schemas) schemas := rfl

theorem documentOf_same (first second : Table Value) :
    SameButSchemas (documentOf first) (documentOf second) := by
  constructor
  · intro name h
    simp [documentOf, Value.field, Value.field?, Value.member?, Ne.symm h]
  · intro name h
    simp [documentOf, Value.field, Value.field?, Value.member?, Ne.symm h]

theorem declaration_order_petSchemas :
    (TypedSchemas (reversed petSchemas) ∧ ¬ Cyclic (reversed petSchemas)) ∧
      ∃ r k r' k', (convert .defaults (documentOf petSchemas)).run [] = (r, k) ∧
        (convert .defaults (documentOf (reversed petSchemas))).run [] = (r', k') ∧
        SameButOrder r r' ∧ k.Perm k' ∧ k.findings.Perm k'.findings := by
  have perm : petSchemas.entries.Perm (reversed petSchemas).entries :=
    (List.reverse_perm petSchemas.entries).symm
  have agree := Table.get?_of_perm perm
  have sameKeys : ∀ key, key ∈ petSchemas.names ↔ key ∈ (reversed petSchemas).names := by
    intro key
    rw [Table.mem_names, Table.mem_names, agree]
  have typed : TypedSchemas (reversed petSchemas) := fun e he =>
    typed_petSchemas e (List.mem_reverse.mp he)
  have edges : Composes (reversed petSchemas) = Composes petSchemas := by
    funext key t
    exact propext (AgreeFrom.composes sameKeys (fun u _ => agree u) t)
  have acyclic : ¬ Cyclic (reversed petSchemas) := by
    rw [Cyclic, edges]
    exact acyclic_petSchemas
  obtain ⟨_, reordered⟩ := declaration_order_irrelevant .defaults typed_petSchemas typed
    acyclic_petSchemas acyclic (documentOf_has petSchemas) (documentOf_has (reversed petSchemas))
    sameKeys
  exact ⟨⟨typed, acyclic⟩, reordered perm (documentOf_same _ _) []⟩

end SdkBlueprint
