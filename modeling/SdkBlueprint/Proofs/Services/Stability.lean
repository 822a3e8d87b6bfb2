import SdkBlueprint.Proofs.Services.Isolation

/-! Documents that differ in their paths. Operations that are taken out leave the services of
other tags as they were, and paths that are added at the end only make services longer. -/
namespace SdkBlueprint.Services
open SdkBlueprint.Document SdkBlueprint.Schema

/-- The documents differ in nothing that is read but the paths. -/
structure SameButPaths (d e : Value) : Prop where
  isMap : e.isMap = d.isMap
  fields : ∀ name, name ≠ "paths" → e.field name = d.field name

section Document

variable {d e : Value}

theorem SameButPaths.components (same : SameButPaths d e) {components : Components}
    (h : Components.ofDocument d = .ok components) :
    Components.ofDocument e = .ok components := by
  obtain ⟨found, hfound, h⟩ := attempt_bind_ok h
  obtain ⟨fields, hfields, hfound⟩ := attempt_bind_ok hfound
  have object : e.isMap = true := by
    rw [same.isMap]
    cases d with
    | map entries => rfl
    | _ => cases hfields
  obtain ⟨_, hother⟩ := fieldsOf_isMap object
  have other : componentsOf e = .ok found := by
    rw [componentsOf, hother, same.fields "components" (by decide)]
    exact hfound
  rw [Components.ofDocument, other]
  exact h

theorem SameButPaths.endpoints (same : SameButPaths d e) {components : Components}
    (h : Components.ofDocument d = .ok components) {paths : List (Scalar × Value)}
    (declared : e.field "paths" = .map paths) :
    Endpoint.ofDocument e = .ok (paths.flatMap fun p => Endpoint.ofItem p.1.display p.2) := by
  obtain ⟨_, hfound, _⟩ := attempt_bind_ok (same.components h)
  obtain ⟨fields, hfields, _⟩ := attempt_bind_ok hfound
  have listed : fieldsOf (orEmptyMap (.map paths)) = .ok paths := by cases paths <;> rfl
  rw [Endpoint.ofDocument, hfields, declared, listed]
  rfl

end Document

section Dropping

/-- The field is that of a method which is dropped. -/
def dropsField (drop : HttpMethod → Bool) : Scalar → Bool
  | .text name => HttpMethod.all.any fun m => drop m && m.fieldName == name
  | _ => false

/-- A path item without its operations of the dropped methods. -/
def withoutMethods (drop : HttpMethod → Bool) : Value → Value
  | .map entries => .map (entries.filter fun e => !dropsField drop e.1)
  | other => other

/-- Paths without some of their operations; what is dropped may differ from path to path. -/
def withoutOperations (drop : Scalar → HttpMethod → Bool) (paths : List (Scalar × Value)) :
    List (Scalar × Value) :=
  paths.map fun p => (p.1, withoutMethods (drop p.1) p.2)

theorem dropsField_fieldName (drop : HttpMethod → Bool) (m : HttpMethod) :
    dropsField drop (.text m.fieldName) = drop m := by
  cases m <;> simp [dropsField, HttpMethod.all, HttpMethod.fieldName]

theorem dropsField_parameters (drop : HttpMethod → Bool) :
    dropsField drop (.text "parameters") = false := by
  simp [dropsField, HttpMethod.all, HttpMethod.fieldName]

theorem member?_filter (name : String) (keep : Scalar → Bool) (entries : List (Scalar × Value)) :
    Value.member? name (entries.filter fun e => keep e.1) =
      if keep (.text name) then Value.member? name entries else none := by
  induction entries with
  | nil => simp [Value.member?]
  | cons e rest ih =>
      obtain ⟨key, v⟩ := e
      rw [List.filter_cons]
      cases key with
      | text k =>
          by_cases here : k = name
          · subst here
            by_cases kept : keep (.text k) = true <;> simp [kept, Value.member?, ih]
          · by_cases kept : keep (.text k) = true <;> simp [kept, Value.member?, ih, here]
      | _ => split <;> exact ih

theorem field_withoutMethods (drop : HttpMethod → Bool) (item : Value) (name : String) :
    (withoutMethods drop item).field name =
      if dropsField drop (.text name) then .null else item.field name := by
  cases item with
  | map entries =>
      have kept := member?_filter name (fun s => !dropsField drop s) entries
      simp only [withoutMethods, Value.field, Value.field?, kept]
      cases dropsField drop (.text name) <;> rfl
  | _ => exact (ite_self _).symm

variable {settings : Settings} {service : String}

theorem ofItem_drops (path : String) {item : Value} {drop : HttpMethod → Bool}
    (foreign : ∀ m, drop m = true → (item.field m.fieldName).isMap = true →
      ForeignTo settings service (item.field m.fieldName)) :
    Drops settings service (Endpoint.ofItem path item)
      (Endpoint.ofItem path (withoutMethods drop item)) := by
  have parameters : (withoutMethods drop item).field "parameters" = item.field "parameters" := by
    rw [field_withoutMethods, dropsField_parameters]
    rfl
  unfold Endpoint.ofItem
  generalize HttpMethod.all = methods
  induction methods with
  | nil => exact .nil
  | cons m methods ih =>
      have field := field_withoutMethods drop item m.fieldName
      rw [dropsField_fieldName] at field
      rw [List.filterMap_cons, List.filterMap_cons]
      by_cases declared : (item.field m.fieldName).isMap = true
      · by_cases dropped : drop m = true
        · rw [if_pos dropped] at field
          simp only [field, declared, if_true]
          exact .drop (foreign m dropped declared) ih
        · rw [if_neg dropped] at field
          simp only [field, declared, if_true]
          exact .keep ⟨rfl, rfl, rfl, parameters⟩ ih
      · have absent : ((withoutMethods drop item).field m.fieldName).isMap = false := by
          rw [field]
          split
          · rfl
          · simpa using declared
        simp only [absent, declared]
        exact ih

theorem paths_drop {drop : Scalar → HttpMethod → Bool} {paths : List (Scalar × Value)}
    (foreign : ∀ p ∈ paths, ∀ m, drop p.1 m = true → (p.2.field m.fieldName).isMap = true →
      ForeignTo settings service (p.2.field m.fieldName)) :
    Drops settings service (paths.flatMap fun p => Endpoint.ofItem p.1.display p.2)
      ((withoutOperations drop paths).flatMap fun p => Endpoint.ofItem p.1.display p.2) := by
  induction paths with
  | nil => exact .nil
  | cons p rest ih =>
      rw [withoutOperations, List.map_cons, List.flatMap_cons, List.flatMap_cons]
      exact (ofItem_drops p.1.display (foreign p (by simp))).append
        (ih fun q hq => foreign q (by simp [hq]))

end Dropping

section Growth

variable {c c' : Catalog}

theorem Kept.entries {rs : List Registration} {t : Table Operation} (h : Kept rs t) :
    t.entries = rs.map fun r => (r.stored.key, r.stored) := by
  have listed : t.entries = t.values.map fun o => (o.key, o) := by
    rw [Table.values, List.map_map]
    refine (List.map_id t.entries).symm.trans (List.map_congr_left fun e he => ?_)
    exact Prod.ext (h.keyed e he).symm rfl
  rw [listed, h.values, List.map_map]
  rfl

/-- Later registrations come after the ones that are there. -/
theorem Kept.grows {rs more : List Registration} {t t' : Table Operation} (h : Kept rs t)
    (h' : Kept (rs ++ more) t') : t.entries <+: t'.entries := by
  rw [h.entries, h'.entries, List.map_append]
  exact List.prefix_append _ _

theorem names_put_grows (c : Catalog) (service : String) (t : Table Operation) :
    c.names <+: (c.put service t).names := by
  rw [Table.names_put]
  split
  · exact List.prefix_rfl
  · exact List.prefix_append _ _

theorem record_names (c : Catalog) (r : List String × List Operation) :
    c.names <+: (record c r).names := by
  have ensured : ∀ (names : List String) (c : Catalog),
      c.names <+: (names.foldl Catalog.ensure c).names := by
    intro names
    induction names with
    | nil => exact fun c => List.prefix_rfl
    | cons n names ih =>
        refine fun c => List.IsPrefix.trans ?_ (ih (c.ensure n))
        unfold Catalog.ensure
        split
        · exact List.prefix_rfl
        · exact names_put_grows c n _
  have entered : ∀ (requests : List (String × Operation)) (c : Catalog),
      c.names <+: (requests.foldl enter c).names := by
    intro requests
    induction requests with
    | nil => exact fun c => List.prefix_rfl
    | cons q requests ih =>
        exact fun c => (names_put_grows c q.1 _).trans (ih (enter c q))
  exact (ensured r.1 c).trans (entered _ _)

theorem records_names (rs : List (List String × List Operation)) (c : Catalog) :
    c.names <+: (rs.foldl record c).names := by
  induction rs generalizing c with
  | nil => exact List.prefix_rfl
  | cons r rest ih => exact (record_names c r).trans (ih (record c r))

/-- A service with its operations stays in its place and keeps them in front. -/
def Grows (s s' : Service) : Prop :=
  s'.name = s.name ∧ s.operations.entries <+: s'.operations.entries

theorem services_grow (names : c.names <+: c'.names)
    (tables : ∀ s t t', c.get? s = some t → c'.get? s = some t' → t.entries <+: t'.entries) :
    ∃ kept added, Catalog.services c' = kept ++ added ∧
      List.Forall₂ Grows (Catalog.services c) kept := by
  obtain ⟨more, split⟩ := names
  obtain ⟨kept, added, entries, same, _⟩ := List.map_eq_append_iff.mp split.symm
  refine ⟨kept.map fun e => ⟨e.1, e.2⟩, added.map fun e => ⟨e.1, e.2⟩, ?_, ?_⟩
  · rw [Catalog.services, entries, List.map_append]
  · have equal : List.Forall₂ Eq (kept.map Prod.fst) (c.entries.map Prod.fst) := by
      rw [same]
      exact List.forall₂_refl _
    have paired : List.Forall₂ (fun e e' => e'.1 = e.1) c.entries kept :=
      (List.forall₂_map_left_iff.mp (List.forall₂_map_right_iff.mp equal)).flip
    rw [Catalog.services, List.forall₂_map_left_iff, List.forall₂_map_right_iff]
    have members := (List.forall₂_and_left c.entries kept).mpr
      ⟨fun _ he => he, forall₂_mem_right paired⟩
    refine members.imp ?_
    rintro e e' ⟨he, he', named⟩
    have found : (e'.1, e'.2) ∈ c'.entries := by
      rw [entries]
      exact List.mem_append_left _ he'
    refine ⟨named, tables e.1 e.2 e'.2 (Table.get?_eq_some_iff.mpr he) ?_⟩
    exact Table.get?_eq_some_iff.mpr (named ▸ found)

theorem Readings.unique {settings : Settings} {nameOf : String → String} {components : Components}
    {endpoints : List Endpoint} {rs rs' : List (List String × List Operation)}
    (h : Readings settings nameOf components endpoints rs)
    (h' : Readings settings nameOf components endpoints rs') : rs = rs' := by
  induction h generalizing rs' with
  | nil =>
      cases h'
      rfl
  | cons here _ ih =>
      cases h' with
      | cons here' rest => rw [Except.ok.inj (here.symm.trans here'), ih rest]

/-- What is read after other endpoints is registered after them. -/
theorem appended_grows {settings : Settings} {nameOf : String → String} {components : Components}
    {endpoints more : List Endpoint} {j k l l' : Journal}
    (run : (endpoints.foldlM (addEndpoint settings nameOf components) Table.empty).run j =
      (.ok c, k))
    (run' : ((endpoints ++ more).foldlM (addEndpoint settings nameOf components)
      Table.empty).run l = (.ok c', l')) :
    ∃ kept added, Catalog.services c' = kept ++ added ∧
      List.Forall₂ Grows (Catalog.services c) kept := by
  rw [List.foldlM_append] at run'
  obtain ⟨c₁, l₁, first, second⟩ := Logged.run_bind_ok run'
  obtain ⟨rs, reads, rfl⟩ := endpoints_ok settings nameOf components run
  obtain ⟨rs', reads', rfl⟩ := endpoints_ok settings nameOf components first
  cases reads.unique reads'
  obtain ⟨_, new, _, _, _, made⟩ := endpoints_register settings nameOf components books_empty first
  obtain ⟨_, new', _, _, _, later⟩ :=
    endpoints_register settings nameOf components made.books second
  obtain ⟨ms, _, rfl⟩ := endpoints_ok settings nameOf components second
  refine services_grow (records_names ms _) fun s t t' ht ht' => ?_
  have before := made.books.kept s t ht
  have after := later.books.kept s t' ht'
  rw [Registration.ofService, List.filter_append] at after
  exact before.grows after

end Growth

/-- A service depends on its own operations alone, and on those that come before: it is the
same when operations of other services are taken out, and paths that are added at the end leave
the services and their operations where they are, under the same names. -/
theorem services_isolated_and_stable {settings : Settings} {nameOf : String → String}
    {document : Value} {ss : List Service} {j k : Journal}
    (run : (services settings nameOf document).run j = (.ok ss, k)) :
    ∃ paths, fieldsOf (orEmptyMap (document.field "paths")) = .ok paths ∧
      (∀ service drop thinned, SameButPaths document thinned →
        thinned.field "paths" = .map (withoutOperations drop paths) →
        (∀ p ∈ paths, ∀ m, drop p.1 m = true → (p.2.field m.fieldName).isMap = true →
          ForeignTo settings service (p.2.field m.fieldName)) →
        ∀ j', ∃ ss' k', (services settings nameOf thinned).run j' = (.ok ss', k') ∧
          ss'.find? (fun s => s.name == service) = ss.find? fun s => s.name == service) ∧
      ∀ more grown, SameButPaths document grown → grown.field "paths" = .map (paths ++ more) →
        ∀ ss' j' k', (services settings nameOf grown).run j' = (.ok ss', k') →
          ∃ kept added, ss' = kept ++ added ∧ List.Forall₂ Grows ss kept := by
  obtain ⟨components, endpoints, c, hcomponents, hendpoints, run, rfl⟩ := services_ok run
  obtain ⟨paths, hpaths, rfl⟩ := endpoints_of_paths hendpoints
  refine ⟨paths, hpaths, ?_, ?_⟩
  · intro service drop thinned same declared foreign j'
    obtain ⟨rs, reads, rfl⟩ := endpoints_ok settings nameOf components run
    obtain ⟨rs', reads', agree⟩ := (paths_drop foreign).readings nameOf components reads
    obtain ⟨_, k', run', rfl⟩ := services_of_readings (same.components hcomponents)
      (same.endpoints hcomponents declared) reads' j'
    refine ⟨_, k', run', ?_⟩
    rw [services_find?, services_find?,
      records_get? (readings_distinct nameOf components reads') rfl,
      records_get? (readings_distinct nameOf components reads) rfl, agree]
  · intro more grown same declared ss' j' k' run'
    obtain ⟨components', endpoints', c', hcomponents', hendpoints', run', rfl⟩ := services_ok run'
    cases (same.components hcomponents).symm.trans hcomponents'
    cases (same.endpoints hcomponents declared).symm.trans hendpoints'
    rw [List.flatMap_append] at run'
    exact appended_grows run run'

/-- A path item whose one operation has the given tag. -/
def taggedItem (tag : String) : Value :=
  .map [(.text "get", .map [(.text "operationId", .text "list"),
    (.text "tags", .list [.text tag]), (.text "responses", .map [(.text "204", .map [])])])]

def taggedPaths (tags : List String) : List (Scalar × Value) :=
  tags.map fun tag => (.text ("/" ++ tag), taggedItem tag)

/-- A document that has nothing but paths. -/
def ofPaths (paths : List (Scalar × Value)) : Value := .map [(.text "paths", .map paths)]

theorem sameButPaths_ofPaths (paths paths' : List (Scalar × Value)) :
    SameButPaths (ofPaths paths) (ofPaths paths') := by
  refine ⟨rfl, fun name h => ?_⟩
  simp [ofPaths, Value.field, Value.field?, Value.member?, Ne.symm h]

theorem services_taggedPaths :
    let paths := taggedPaths ["cat", "dog"]
    let thinned := ofPaths (withoutOperations (fun p _ => p.display == "/dog") paths)
    let grown := ofPaths (paths ++ [(.text "/cat2", taggedItem "cat")])
    ∃ ss k, (services .defaults id (ofPaths paths)).run [] = (.ok ss, k) ∧
      ss.map Service.name = ["CatService", "DogService"] ∧
      (∃ ss' k', (services .defaults id thinned).run [] = (.ok ss', k') ∧
        ss'.find? (fun s => s.name == "CatService") = ss.find? fun s => s.name == "CatService") ∧
      ∃ ss' k', (services .defaults id grown).run [] = (.ok ss', k') ∧
        ss'.map (fun s => s.operations.values.map Operation.methodName) =
          [["list", "list_2"], ["list"]] ∧
        ∃ kept added, ss' = kept ++ added ∧ List.Forall₂ Grows ss kept := by
  intro paths thinned grown
  obtain ⟨ss, k, run, names⟩ : ∃ ss k,
      (services .defaults id (ofPaths paths)).run [] = (.ok ss, k) ∧
        ss.map Service.name = ["CatService", "DogService"] := ⟨_, _, rfl, by decide⟩
  obtain ⟨ss', k', run', methods⟩ : ∃ ss k, (services .defaults id grown).run [] = (.ok ss, k) ∧
      ss.map (fun s => s.operations.values.map Operation.methodName) =
        [["list", "list_2"], ["list"]] := ⟨_, _, rfl, by decide⟩
  obtain ⟨_, declared, isolated, stable⟩ := services_isolated_and_stable run
  cases declared
  refine ⟨ss, k, run, names, ?_, ss', k', run', methods, ?_⟩
  · refine isolated "CatService" _ thinned (sameButPaths_ofPaths _ _) rfl ?_ []
    intro p hp m dropped declared tags htags tag htag
    change p ∈ [_, _] at hp
    simp only [List.mem_cons, List.not_mem_nil, or_false] at hp
    rcases hp with rfl | rfl
    · exact absurd dropped (by decide)
    · cases m with
      | get =>
          cases htags
          obtain rfl := List.mem_singleton.mp htag
          decide
      | _ => cases declared
  · exact stable _ grown (sameButPaths_ofPaths _ _) rfl ss' [] k' run'

end SdkBlueprint.Services
