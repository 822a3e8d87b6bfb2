import SdkBlueprint.Proofs.Services.Catalog

/-! Services hold what the document declares for them. No operation is lost, none is stored
twice, and the methods of a service can be told apart by their names. -/
namespace SdkBlueprint.Services
open SdkBlueprint.Document SdkBlueprint.Schema
open Registration

/-- The variants that a service is to hold: those of every endpoint that it is a service
of, in the order of the endpoints. -/
def variantsFor (service : String) (readings : List (List String × List Operation)) :
    List Operation :=
  readings.flatMap fun r => if service ∈ r.1 then r.2 else []

/-- How many variants were renamed. -/
def renamedAmong (expected : List Operation) (s : Service) : Nat :=
  (expected.zip s.operations.values).countP fun p => p.2.methodName != p.1.methodName

/-- A service holds the expected variants in order, under names and keys of their own. -/
structure Holds (expected : List Operation) (s : Service) : Prop where
  settled : List.Forall₂ Settles expected s.operations.values
  names : (s.operations.values.map Operation.methodName).Nodup
  keys : s.operations.names = s.operations.values.map Operation.key
  distinct : (s.operations.values.map Operation.key).Nodup
  lookup : ∀ m o, s.operation? m = some o ↔ o ∈ s.operations.values ∧ o.methodName = m

theorem requestsOf_filter {names : List String} (distinct : names.Nodup) (vs : List Operation)
    (service : String) :
    ((requestsOf names vs).filter fun q => q.1 == service).map Prod.snd =
      if service ∈ names then vs else [] := by
  induction names with
  | nil => simp [requestsOf]
  | cons n names ih =>
      rw [List.nodup_cons] at distinct
      rw [requestsOf, List.flatMap_cons, List.filter_append, List.map_append]
      have rest := ih distinct.2
      rw [requestsOf] at rest
      rw [rest]
      by_cases h : n = service
      · subst h
        rw [if_neg distinct.1, if_pos (by simp), List.append_nil, List.filter_eq_self.mpr (by simp)]
        rw [List.map_map]
        exact List.map_id vs
      · rw [List.filter_eq_nil_iff.mpr (by simp [h])]
        simp [Ne.symm h]

theorem requests_filter {readings : List (List String × List Operation)}
    (distinct : ∀ r ∈ readings, r.1.Nodup) (service : String) :
    ((readings.flatMap fun r => requestsOf r.1 r.2).filter fun q => q.1 == service).map Prod.snd =
      variantsFor service readings := by
  induction readings with
  | nil => rfl
  | cons r readings ih =>
      rw [List.flatMap_cons, List.filter_append, List.map_append,
        requestsOf_filter (distinct r (by simp)), ih fun s hs => distinct s (by simp [hs]),
        variantsFor, variantsFor, List.flatMap_cons]

theorem ofService_variants (service : String) (rs : List Registration) :
    (ofService service rs).map Registration.variant =
      ((rs.map request).filter fun q => q.1 == service).map Prod.snd := by
  rw [List.filter_map, List.map_map]
  rfl

theorem countP_ofService (p : Registration → Bool) {names : List String} (distinct : names.Nodup)
    {rs : List Registration} (known : ∀ r ∈ rs, r.service ∈ names) :
    (names.map fun s => (ofService s rs).countP p).sum = rs.countP p := by
  induction names generalizing rs with
  | nil => simp [List.eq_nil_iff_forall_not_mem.mpr fun r hr => by simpa using known r hr]
  | cons n names ih =>
      rw [List.nodup_cons] at distinct
      -- The other services count the same when the registrations of this one are left out.
      have others : ∀ s ∈ names,
          ofService s rs = ofService s (rs.filter fun r => !(r.service == n)) := by
        intro s hs
        rw [ofService, ofService, List.filter_filter]
        refine List.filter_congr fun r hr => ?_
        by_cases here : r.service = s
        · have other : s ≠ n := fun hn => distinct.1 (hn ▸ hs)
          simp [here, other]
        · simp [here]
      rw [List.map_cons, List.sum_cons,
        List.countP_eq_countP_filter_add rs p fun r => r.service == n,
        List.map_congr_left fun s hs => congrArg (List.countP p) (others s hs), ih distinct.2]
      · rfl
      · intro r hr
        obtain ⟨hr, other⟩ := List.mem_filter.mp hr
        refine (List.mem_cons.mp (known r hr)).resolve_left ?_
        simpa using other

theorem Kept.holds {rs : List Registration} {s : Service} (h : Kept rs s.operations)
    (settled : ∀ r ∈ rs, Settles r.variant r.stored) : Holds (rs.map Registration.variant) s := by
  have keys := h.keyed.names
  refine ⟨?_, h.distinct, keys.symm, keys ▸ s.operations.names_nodup, fun m o => ?_⟩
  · rw [h.values, List.forall₂_map_left_iff, List.forall₂_map_right_iff, List.forall₂_same]
    exact settled
  · constructor
    · intro found
      exact ⟨List.mem_of_find?_eq_some found, by simpa using List.find?_some found⟩
    · rintro ⟨ho, rfl⟩
      have found : (s.operations.values.find? fun p => p.methodName == o.methodName).isSome :=
        List.find?_isSome.mpr ⟨o, ho, beq_self_eq_true o.methodName⟩
      obtain ⟨p, hp⟩ := Option.isSome_iff_exists.mp found
      have same : p.methodName = o.methodName := by simpa using List.find?_some hp
      have one := List.inj_on_of_nodup_map h.distinct (List.mem_of_find?_eq_some hp) ho same
      exact one ▸ hp

theorem endpoints_of_paths {document : Value} {endpoints : List Endpoint}
    (h : Endpoint.ofDocument document = .ok endpoints) :
    ∃ paths, fieldsOf (orEmptyMap (document.field "paths")) = .ok paths ∧
      endpoints = paths.flatMap fun p => Endpoint.ofItem p.1.display p.2 := by
  unfold Endpoint.ofDocument at h
  cases hd : fieldsOf document with
  | error f =>
      rw [hd] at h
      cases h
  | ok fields =>
      cases hp : fieldsOf (orEmptyMap (document.field "paths")) with
      | error f =>
          rw [hd, hp] at h
          cases h
      | ok paths =>
          rw [hd, hp] at h
          cases h
          exact ⟨paths, rfl, rfl⟩

/-- Every service of a document holds exactly the variants declared for it, and as many
collisions are warned about as variants are stored under another name. -/
theorem services_exact {settings : Settings} {nameOf : String → String} {document : Value}
    {j k : Journal} {ss : List Service}
    (run : (services settings nameOf document).run j = (.ok ss, k)) :
    ∃ components paths readings,
      Components.ofDocument document = .ok components ∧
      fieldsOf (orEmptyMap (document.field "paths")) = .ok paths ∧
      List.Forall₂ (fun e r => Reads settings nameOf components e r.1 r.2)
        (paths.flatMap fun p => Endpoint.ofItem p.1.display p.2) readings ∧
      (∀ r ∈ readings, ∀ s ∈ r.1, s ∈ ss.map Service.name) ∧
      (∀ s ∈ ss, Holds (variantsFor s.name readings) s) ∧
      collisions k =
        collisions j + (ss.map fun s => renamedAmong (variantsFor s.name readings) s).sum := by
  obtain ⟨c, l, run, last⟩ := Logged.run_bind_ok run
  cases last
  obtain ⟨components, j₁, run₁, run⟩ := Logged.run_bind_ok run
  obtain ⟨endpoints, j₂, run₂, run⟩ := Logged.run_bind_ok run
  rw [Logged.run_attempt] at run₁ run₂
  obtain ⟨hcomponents, rfl⟩ := Prod.mk.inj run₁
  obtain ⟨hendpoints, rfl⟩ := Prod.mk.inj run₂
  obtain ⟨paths, hpaths, rfl⟩ := endpoints_of_paths hendpoints
  obtain ⟨readings, new, reads, added, same, made⟩ :=
    endpoints_register settings nameOf components books_empty run
  have books : Books c new := made.books
  have distinct : ∀ r ∈ readings, r.1.Nodup :=
    forall₂_right (reads.imp fun e r h => h.distinct)
  have expected : ∀ s, variantsFor s readings = (ofService s new).map Registration.variant := by
    intro s
    rw [ofService_variants, same, requests_filter distinct]
  have kept : ∀ s ∈ Catalog.services c, Kept (ofService s.name new) s.operations := by
    intro s hs
    obtain ⟨e, he, rfl⟩ := List.mem_map.mp hs
    exact books.kept e.1 e.2 (Table.get?_eq_some_iff.mpr he)
  have named : (Catalog.services c).map Service.name = c.names := by
    rw [Catalog.services, List.map_map]
    rfl
  refine ⟨components, paths, readings, hcomponents, hpaths, reads, ?_, ?_, ?_⟩
  · rwa [named]
  · intro s hs
    rw [expected]
    exact (kept s hs).holds fun r hr => books.settled r (List.mem_filter.mp hr).1
  · have counted : (Catalog.services c).map (fun s =>
        renamedAmong (variantsFor s.name readings) s) =
        c.names.map fun s => (ofService s new).countP renamed := by
      rw [← named, List.map_map]
      refine List.map_congr_left fun s hs => ?_
      rw [renamedAmong, expected, (kept s hs).values, List.zip_map', List.countP_map]
      rfl
    rw [made.warned, counted, countP_ofService renamed c.names_nodup books.services]

/-- Two operations of one id, which have no tags and return nothing. -/
def twins : Value :=
  let operation : Value := .map [(.text "operationId", .text "list"),
    (.text "responses", .map [(.text "204", .map [])])]
  .map [(.text "paths", .map [(.text "/cats", .map [(.text "get", operation)]),
    (.text "/dogs", .map [(.text "get", operation)])])]

theorem services_twins : ∃ ss k, (services .defaults id twins).run [] = (.ok ss, k) ∧
    collisions k = 1 ∧
    (ss.map fun s => s.operations.values.map Operation.methodName) = [["list", "list_2"]] ∧
    ∃ readings, (∀ s ∈ ss, Holds (variantsFor s.name readings) s) ∧
      (ss.map fun s => renamedAmong (variantsFor s.name readings) s).sum = 1 := by
  obtain ⟨ss, k, run, one, named⟩ : ∃ ss k, (services .defaults id twins).run [] = (.ok ss, k) ∧
      collisions k = 1 ∧
      (ss.map fun s => s.operations.values.map Operation.methodName) = [["list", "list_2"]] :=
    ⟨_, _, rfl, by decide, by decide⟩
  obtain ⟨_, _, readings, _, _, _, _, holds, counted⟩ := services_exact run
  have before : collisions [] = 0 := rfl
  rw [one, before, Nat.zero_add] at counted
  exact ⟨ss, k, run, one, named, readings, holds, counted.symm⟩

end SdkBlueprint.Services
