import SdkBlueprint.Proofs.Loading
import SdkBlueprint.Proofs.References
import SdkBlueprint.Proofs.Services.Typed

/-! Well-typed documents. Every field that conversion reads has its type and no integer is too long
to be written; then nothing but a composition that leads back to itself can stop it. -/
namespace SdkBlueprint
open SdkBlueprint.Document SdkBlueprint.Schema SdkBlueprint.Population Relation

namespace Document

@[simp] theorem Scalar.isLong_text (s : String) : Scalar.isLong (.text s) = false := rfl

theorem isShort_of_member? {name : String} {entries : List (Scalar × Value)} {v : Value}
    (short : entriesAreShort entries) (found : Value.member? name entries = some v) :
    v.isShort := by
  induction entries with
  | nil => cases found
  | cons e rest ih =>
      obtain ⟨k, w⟩ := e
      rw [entriesAreShort, Bool.and_eq_true, Bool.and_eq_true] at short
      rw [Value.member?_cons] at found
      split at found
      · exact Option.some.inj found ▸ short.1.2
      · exact ih short.2 found

/-- The fields of a value without long integers have none. -/
theorem Value.isShort_field {v : Value} (short : v.isShort) (name : String) :
    (v.field name).isShort := by
  rw [Value.field]
  cases found : v.field? name with
  | none => rfl
  | some w =>
      cases v with
      | map entries => exact isShort_of_member? short found
      | _ => cases found

end Document

theorem versionText_ok {version : Value} (short : version.isShort) :
    ∃ text, versionText version = .ok text := by
  unfold versionText
  split
  · exact ⟨_, rfl⟩
  · exact ⟨_, by rw [display?_of_short short]; rfl⟩

/-- The tables of a document in which operations look up references. -/
def tablesOf (document : Value) : Services.Components :=
  let table (name : String) := orEmptyMap ((document.field "components").field name)
  ⟨table "parameters", table "requestBodies", table "responses"⟩

/-- A document in which every field that is read is absent, null or of its type, and no integer is
too long to be shown. -/
structure TypedDocument (document : Value) : Prop where
  object : document.isMap
  components : isMapOrNull (document.field "components")
  tables : ∀ name ∈ ["schemas", "parameters", "requestBodies", "responses"],
    isMapOrNull ((document.field "components").field name)
  keys : ∀ e ∈ entriesOf ((document.field "components").field "schemas"),
    ∃ key, e.1 = .text key
  schemas : ∀ e ∈ entriesOf ((document.field "components").field "schemas"), TypedComponent e.2
  paths : isMapOrNull (document.field "paths")
  endpoints : ∀ p ∈ entriesOf (document.field "paths"),
    ∀ e ∈ Services.Endpoint.ofItem p.1.display p.2,
      Services.TypedEndpoint (tablesOf document) e
  info : isMapOrNull (document.field "info")
  title : isTextOrNull ((document.field "info").field "title")
  short : document.isShort

/-- A run over schemas comes to a value, or a schema refers to one that leads back to it. -/
inductive ValueOrCycle {α : Type} (schemas : Table Value) : Attempt α → Prop
  | value (a : α) (acyclic : ¬ Cyclic schemas) : ValueOrCycle schemas (.ok a)
  | cycle {s t : String} (edge : Composes schemas s t)
      (back : ReflTransGen (Composes schemas) t s) : ValueOrCycle schemas (.error (.circular s t))

section Discovery

theorem schemaPairs_ok {v : Value} (h : isMapOrNull v) :
    Registry.schemaPairs v = .ok (entriesOf v) := by
  rcases mapOrNull_cases h with rfl | ⟨entries, rfl⟩
  · rfl
  · cases entries <;> rfl

/-- Entries under text keys are pairs of a name and a value. -/
theorem textEntries {entries : List (Scalar × Value)} (h : ∀ e ∈ entries, ∃ key, e.1 = .text key) :
    ∃ es : List (String × Value), entries = es.map fun e => (.text e.1, e.2) := by
  induction entries with
  | nil => exact ⟨[], rfl⟩
  | cons e rest ih =>
      obtain ⟨key, hkey⟩ := h e (by simp)
      obtain ⟨es, rfl⟩ := ih fun d hd => h d (by simp [hd])
      exact ⟨(key, e.2) :: es, by rw [List.map_cons, ← hkey]⟩

theorem typed_ofEntries {es : List (String × Value)} (h : ∀ e ∈ es, TypedComponent e.2) :
    TypedSchemas (Table.ofEntries es) := by
  intro e he
  refine Table.forall_values_foldl_put Prod.fst (fun _ d => d.2) (fun _ d hd _ => h d hd)
    (t := Table.empty) ?_ e.2 (List.mem_map_of_mem he)
  intro v hv
  cases hv

/-- Discovery of a mapping of well-typed schemas keeps the last one under each key. -/
theorem discover_typed {v : Value} (mapping : isMapOrNull v)
    (keys : ∀ e ∈ entriesOf v, ∃ key, e.1 = .text key)
    (typed : ∀ e ∈ entriesOf v, TypedComponent e.2) :
    ∃ schemas, TypedSchemas schemas ∧
      Registry.discover v = .ok ⟨schemas, schemas.map Registry.skeletonOf⟩ := by
  obtain ⟨es, same⟩ := textEntries keys
  have each : ∀ e ∈ es, TypedComponent e.2 := by
    intro e he
    refine typed (.text e.1, e.2) ?_
    rw [same]
    exact List.mem_map_of_mem he
  have found : ∃ reg, Registry.discover v = .ok reg := by
    rw [Registry.discover, schemaPairs_ok mapping, same]
    exact ⟨_, Registry.discover_add (fun e he => (each e he).description) _⟩
  obtain ⟨reg, hreg⟩ := found
  obtain ⟨ds, pairs, rfl⟩ := Registry.discover_pairs hreg
  rw [schemaPairs_ok mapping, same] at pairs
  refine ⟨_, typed_ofEntries fun d hd => ?_, hreg⟩
  have hd' : (Scalar.text d.1, d.2) ∈ es.map fun e => (Scalar.text e.1, e.2) := by
    rw [Except.ok.inj pairs]
    exact List.mem_map_of_mem hd
  obtain ⟨e, he, pair⟩ := List.mem_map.mp hd'
  exact (Prod.mk.inj pair).2 ▸ each e he

end Discovery

namespace TypedDocument

variable {document : Value}

theorem componentsOf (h : TypedDocument document) :
    Services.componentsOf document = .ok (orEmptyMap (document.field "components")) := by
  obtain ⟨fields, hfields⟩ := fieldsOf_isMap h.object
  rw [Services.componentsOf, hfields]
  rfl

theorem discovered (h : TypedDocument document) : ∃ schemas, TypedSchemas schemas ∧
    SdkBlueprint.discovered document = .ok ⟨schemas, schemas.map Registry.skeletonOf⟩ := by
  obtain ⟨schemas, typed, found⟩ := discover_typed (h.tables "schemas" (by simp)) h.keys h.schemas
  refine ⟨schemas, typed, ?_⟩
  simp only [SdkBlueprint.discovered, h.componentsOf, bind, Except.bind,
    fieldsOf_orEmptyMap h.components, field_orEmptyMap]
  exact found

theorem tables_ok (h : TypedDocument document) :
    Services.Components.ofDocument document = .ok (tablesOf document) ∧
      Services.TypedTables (tablesOf document) := by
  have mapping : ∀ {v : Value}, isMapOrNull v → (orEmptyMap v).isMap := by
    intro v hv
    rcases mapOrNull_cases hv with rfl | ⟨entries, rfl⟩
    · rfl
    · cases entries <;> rfl
  refine ⟨?_, mapping (h.tables _ (by simp)), mapping (h.tables _ (by simp)),
    mapping (h.tables _ (by simp))⟩
  simp only [Services.Components.ofDocument, h.componentsOf, bind, Except.bind,
    fieldsOf_orEmptyMap h.components, field_orEmptyMap]
  rfl

theorem endpoints_ok (h : TypedDocument document) : ∃ endpoints,
    Services.Endpoint.ofDocument document = .ok endpoints ∧
      ∀ e ∈ endpoints, Services.TypedEndpoint (tablesOf document) e := by
  obtain ⟨fields, hfields⟩ := fieldsOf_isMap h.object
  refine ⟨_, by rw [Services.Endpoint.ofDocument, hfields, fieldsOf_orEmptyMap h.paths]; rfl, ?_⟩
  intro e he
  obtain ⟨p, hp, hep⟩ := List.mem_flatMap.mp he
  exact h.endpoints p hp e hep

theorem infoOf_ok (h : TypedDocument document) : ∃ info, infoOf document = .ok info := by
  obtain ⟨title, htitle⟩ := optionalText_ok .info "title" h.title
  obtain ⟨version, hversion⟩ :=
    versionText_ok (Value.isShort_field (Value.isShort_field h.short "info") "version")
  unfold infoOf
  simp only [fieldsOf_orEmptyMap h.info, field_orEmptyMap, bind, Except.bind, hversion, htitle]
  exact ⟨_, rfl⟩

theorem contents_succeed (h : TypedDocument document) (settings : Settings)
    (nameOf : String → String) :
    Logged.Succeeds (fun _ => True) (contents settings nameOf document) := by
  obtain ⟨declared, tables⟩ := h.tables_ok
  obtain ⟨endpoints, listed, typed⟩ := h.endpoints_ok
  obtain ⟨info, hinfo⟩ := h.infoOf_ok
  unfold contents
  refine (Services.services_succeed settings nameOf declared listed tables typed).bind
    fun services _ => ?_
  refine (Logged.Succeeds.note _).bind fun _ _ => ?_
  exact (Logged.Succeeds.attempt hinfo).bind fun _ _ => .pure trivial

end TypedDocument

/-- Population of well-typed schemas comes to a registry, or it meets a cycle. -/
theorem populated_valueOrCycle {schemas : Table Value} (typed : TypedSchemas schemas)
    {registry : Registry} (handed : Handed ⟨schemas, schemas.map Registry.skeletonOf⟩ registry)
    (j : Journal) :
    ∃ r k, (populated registry).run j = (r, k) ∧ ValueOrCycle schemas r := by
  obtain ⟨same, initial⟩ := handed.initial
  subst same
  have ends := populateEach_ends registry.nameOf initial j
  unfold Build.Ends at ends
  rcases run : (populateEach registry.schemas registry.nameOf registry.records.names).run
    ⟨registry.records, [], j⟩ with ⟨e | u, w⟩ <;> rw [run] at ends
  · obtain ⟨s, t, rfl, edge, back⟩ := ends.2 typed handed.blank
    exact ⟨_, _, run_populated run, .cycle edge back⟩
  · obtain ⟨ps, history⟩ := ends.2
    exact ⟨_, _, run_populated run, .value _ history.acyclic⟩

/-- A well-typed document is converted unless its schemas compose a cycle, and the failure then
reports an edge on one: there is no other way to fail. -/
theorem only_cycles_are_fatal {document : Value} (typed : TypedDocument document) :
    ∃ reg, discovered document = .ok reg ∧
      ∀ (settings : Settings) (j : Journal), ∃ r k,
        (convert settings document).run j = (r, k) ∧ ValueOrCycle reg.schemas r := by
  obtain ⟨schemas, component, found⟩ := typed.discovered
  refine ⟨_, found, fun settings j => ?_⟩
  obtain ⟨r, k, run, outcome⟩ : ∃ r k, (models settings document).run j = (r, k) ∧
      ValueOrCycle schemas r := by
    rw [models, found, Logged.attempt_ok_bind]
    exact populated_valueOrCycle component (.inr ⟨settings, rfl⟩) _
  cases outcome with
  | value reg acyclic =>
      obtain ⟨c, hc, _⟩ := (typed.contents_succeed settings reg.nameOf).result
      exact ⟨_, _, (convert_run settings run).trans (by rw [hc]; rfl), .value _ acyclic⟩
  | cycle edge back =>
      exact ⟨_, _, by rw [convert_eq, Logged.run_bind, run], .cycle edge back⟩

def anyResponse : Value :=
  .map [(.text "content", .map [(.text "application/json", .map [(.text "schema", .map [])])])]

/-- An operation with a parameter that refers to itself and a body that is declared nowhere. -/
def strayingOperation : Value :=
  .map [(.text "parameters", .list [referenceTo "#/components/parameters/Loop"]),
    (.text "requestBody", referenceTo "#/components/requestBodies/Gone"),
    (.text "responses", .map [(.text "200", anyResponse)])]

/-- A document with the given schemas and an operation whose references go astray. -/
def straying (schemas : Table Value) : Value :=
  .map [(.text "components", .map [(.text "schemas", Registry.mappingOf schemas),
      (.text "parameters", .map [(.text "Loop", referenceTo "#/components/parameters/Loop")])]),
    (.text "paths", .map [(.text "/cats", .map [(.text "get", strayingOperation)])])]

theorem straying_has (schemas : Table Value) : HasSchemas (straying schemas) schemas := rfl

theorem typed_strayingOperation (schemas : Table Value) (item : Value)
    (unshared : item.field "parameters" = .null) :
    Services.TypedEndpoint (tablesOf (straying schemas))
      ⟨"/cats", .get, item, strayingOperation⟩ := by
  constructor
  case shared =>
    refine ⟨by rw [unshared]; rfl, ?_⟩
    rw [unshared]
    intro m hm
    cases hm
  case own =>
    refine ⟨rfl, fun m hm param leads => ?_⟩
    rw [List.mem_singleton.mp hm] at leads
    exact absurd leads (Services.not_leads_of_loop rfl rfl param)
  case body =>
    intro object leads
    exact absurd leads (Services.not_leads_of_dangling rfl rfl object)
  case response =>
    intro status declared object first leads
    have split : [(.text "200", anyResponse)] = [] ++ (Scalar.text "200", anyResponse) :: [] := rfl
    have here : Services.Declares ⟨"/cats", .get, item, strayingOperation⟩ "200" anyResponse :=
      ⟨_, rfl, .success split (by simp) (by decide)⟩
    obtain ⟨rfl, rfl⟩ := here.unique first
    cases Services.Leads.unique ⟨[], .here rfl rfl⟩ leads
    refine ⟨rfl, fun media hm => ?_⟩
    rw [List.mem_singleton.mp hm]
    refine ⟨⟨"application/json", rfl⟩, .of_absent ?_ rfl rfl rfl rfl⟩
    exact ⟨typedReference_of_absent rfl, rfl, rfl, rfl, rfl, rfl⟩
  all_goals rfl

theorem typed_mappingOf {schemas : Table Value} (h : TypedSchemas schemas) :
    ∀ e ∈ entriesOf (Registry.mappingOf schemas),
      (∃ key, e.1 = .text key) ∧ TypedComponent e.2 := by
  intro e he
  obtain ⟨d, hd, rfl⟩ := List.mem_map.mp he
  exact ⟨⟨d.1, rfl⟩, h d hd⟩

theorem typed_straying {schemas : Table Value} (h : TypedSchemas schemas)
    (short : (Registry.mappingOf schemas).isShort) : TypedDocument (straying schemas) := by
  constructor
  case tables =>
    intro name hn
    simp only [List.mem_cons, List.not_mem_nil, or_false] at hn
    rcases hn with rfl | rfl | rfl | rfl <;> rfl
  case keys => exact fun e he => (typed_mappingOf h e he).1
  case schemas => exact fun e he => (typed_mappingOf h e he).2
  case endpoints =>
    intro p hp e he
    rw [List.mem_singleton.mp hp] at he
    rw [List.mem_singleton.mp he]
    exact typed_strayingOperation schemas _ rfl
  case short =>
    rw [straying, Value.isShort, entriesAreShort, Value.isShort, entriesAreShort, short]
    rfl
  all_goals rfl

theorem only_cycles_are_fatal_straying :
    TypedDocument (straying petSchemas) ∧ TypedDocument (straying mutualSchemas) ∧
      (∃ b k, (convert .defaults (straying petSchemas)).run [] = (.ok b, k)) ∧
      ∃ s t k, (convert .defaults (straying mutualSchemas)).run [] =
        (.error (.circular s t), k) := by
  have acyclic := typed_straying typed_petSchemas rfl
  have cyclic := typed_straying typed_mutualSchemas rfl
  refine ⟨acyclic, cyclic, ?_, ?_⟩
  · obtain ⟨reg, found, outcome⟩ := only_cycles_are_fatal acyclic
    cases (discovered_ok typed_petSchemas (straying_has petSchemas)).symm.trans found
    obtain ⟨r, k, run, ends⟩ := outcome .defaults []
    cases ends with
    | value b _ => exact ⟨b, k, run⟩
    | cycle edge back => exact absurd ⟨_, .head' edge back⟩ acyclic_petSchemas
  · obtain ⟨reg, found, outcome⟩ := only_cycles_are_fatal cyclic
    cases (discovered_ok typed_mutualSchemas (straying_has mutualSchemas)).symm.trans found
    obtain ⟨r, k, run, ends⟩ := outcome .defaults []
    cases ends with
    | value b acyclic => exact absurd ⟨"Cat", cycle_mutualSchemas⟩ acyclic
    | cycle edge back => exact ⟨_, _, k, run⟩

theorem typed_documentOf {schemas : Table Value} (h : TypedSchemas schemas)
    (short : (Registry.mappingOf schemas).isShort) : TypedDocument (documentOf schemas) := by
  constructor
  case tables =>
    intro name hn
    simp only [List.mem_cons, List.not_mem_nil, or_false] at hn
    rcases hn with rfl | rfl | rfl | rfl <;> rfl
  case keys => exact fun e he => (typed_mappingOf h e he).1
  case schemas => exact fun e he => (typed_mappingOf h e he).2
  case endpoints =>
    intro p hp
    cases hp
  case short =>
    simp [documentOf, Value.isShort, entriesAreShort, short]
  all_goals rfl

def alone (schema : Value) : Table Value := ⟨[("Size", schema)], List.nodup_singleton _⟩

theorem typed_alone {schema : Value} (typed : TypedComponent schema) (short : schema.isShort) :
    TypedDocument (documentOf (alone schema)) := by
  refine typed_documentOf (fun e he => List.mem_singleton.mp he ▸ typed) ?_
  change (true && schema.isShort && true) = true
  rw [short]
  rfl

/-- An enumeration of one integer. -/
def listing (n : Int) : Value := .map [(.text "enum", .list [.scalar (.int n)])]

def bounded (n : Int) : Value := .map [(.text "minimum", .scalar (.int n))]

/-- A class with an inline part, whose only property has a least value. -/
def bounding (n : Int) : Value :=
  .map [(.text "allOf", .list [.map [(.text "properties", .map [(.text "size", bounded n)])]])]

theorem typed_listing {n : Int} (short : Scalar.isLong (.int n) = false) :
    TypedComponent (listing n) := by
  refine ⟨rfl, ?_, .of_absent rfl rfl, .of_absent rfl rfl, rfl, nofun⟩
  change (true && ((Json.scalarFault? (.int n)).isNone && true)) = true
  simp [Json.scalarFault?, short]

theorem typed_bounding {n : Int} (short : Scalar.isLong (.int n) = false) :
    TypedComponent (bounding n) := by
  have number : isNumberOrNull (.scalar (.int n)) := by simp [isNumberOrNull, short]
  have property : TypedProperty (bounded n) :=
    ⟨.of_absent ⟨typedReference_of_absent rfl, rfl, rfl, rfl, rfl, rfl⟩ rfl rfl rfl rfl,
      .of_absent rfl rfl, ⟨rfl, rfl, number, rfl, rfl, rfl⟩, rfl⟩
  refine ⟨rfl, rfl, .of_absent rfl rfl, .of_absent rfl rfl, rfl, fun m hm => ?_⟩
  rw [List.mem_singleton.mp hm]
  refine ⟨typedReference_of_absent rfl, fun _ => ⟨rfl, fun e he => ?_, fun e he => ?_, rfl⟩⟩
  · exact ⟨"size", by rw [List.mem_singleton.mp he]⟩
  · rw [List.mem_singleton.mp he]
    exact property

/-- The integer that is written as a one and 3600 zeros to the base 16. -/
def hugeInteger : Int := 16 ^ 3600

/-- Documents with nothing wrong but the length of an integer in them stop a conversion, be it that
the integer is a literal or the bound of a property that is merged. -/
theorem long_integers_escape :
    (∀ n, Scalar.isLong (.int n) = false → TypedDocument (documentOf (alone (listing n))) ∧
      TypedDocument (documentOf (alone (bounding n)))) ∧
    Source.failure? ((convert .defaults (documentOf (alone (listing hugeInteger)))).run []).1 =
      some (.misuse .badValue) ∧
    Source.failure? ((convert .defaults (documentOf (alone (bounding hugeInteger)))).run []).1 =
      some (.misuse .badValue) := by
  refine ⟨fun n short => ⟨typed_alone (typed_listing short) ?_,
    typed_alone (typed_bounding short) ?_⟩, by decide +kernel, by decide +kernel⟩
  · simp [listing, Value.isShort, areShort, entriesAreShort, short]
  · simp [bounding, bounded, Value.isShort, areShort, entriesAreShort, short]

end SdkBlueprint
