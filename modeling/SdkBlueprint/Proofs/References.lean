import SdkBlueprint.Proofs.Conversion
import SdkBlueprint.Proofs.Population.References
import SdkBlueprint.Proofs.Services.References

/-! References in a blueprint. Models are renamed before anything refers to them, and from then
on a key stands for one name: that of the model which the blueprint holds for it. -/
namespace SdkBlueprint
open SdkBlueprint.Document SdkBlueprint.Schema SdkBlueprint.Population

/-- The name of the model of a key; a key without a model is its own name. -/
def Blueprint.nameOf (b : Blueprint) (key : String) : String :=
  ((b.models.find? fun m => m.key == key).map Model.name).getD key

theorem field_orEmptyMap (v : Value) (name : String) :
    (orEmptyMap v).field name = v.field name := by
  unfold orEmptyMap
  split
  · rfl
  · next empty =>
    cases v with
    | map entries =>
        cases entries with
        | nil => rfl
        | cons e rest => exact absurd rfl empty
    | _ => rfl

theorem discovered_eq_ok {document : Value} {reg : Registry} (h : discovered document = .ok reg) :
    Registry.discover ((document.field "components").field "schemas") = .ok reg := by
  obtain ⟨components, hc, h⟩ := attempt_bind_ok h
  obtain ⟨fields, _, hc⟩ := attempt_bind_ok hc
  cases hc
  obtain ⟨_, _, h⟩ := attempt_bind_ok h
  rwa [field_orEmptyMap] at h

section Converted

variable {settings : Settings} {document : Value} {b : Blueprint} {j k : Journal}

theorem populated_ok {reg final : Registry} (h : (populated reg).run j = (.ok final, k)) :
    ∃ w, (populateEach reg.schemas reg.nameOf reg.keys).run ⟨reg.records, [], j⟩ = (.ok (), w) ∧
      final = { reg with records := w.records } := by
  rcases run : (populateEach reg.schemas reg.nameOf reg.keys).run ⟨reg.records, [], j⟩
    with ⟨e | u, w⟩
  · cases (run_populated run).symm.trans h
  · cases (run_populated run).symm.trans h
    exact ⟨w, rfl, rfl⟩

/-- What a conversion goes through when it succeeds. -/
theorem convert_ok (run : (convert settings document).run j = (.ok b, k)) :
    ∃ reg i w i' k', discovered document = .ok reg ∧
      (populateEach (reg.sanitize settings).schemas (reg.sanitize settings).nameOf
        (reg.sanitize settings).keys).run ⟨(reg.sanitize settings).records, [], i⟩ = (.ok (), w) ∧
      b.models = w.records.values ∧
      (Services.services settings (Registry.nameIn w.records) document).run i' =
        (.ok b.services, k') := by
  obtain ⟨final, j₁, run₁, run⟩ := Logged.run_bind_ok run
  obtain ⟨services, j₂, run₂, run⟩ := Logged.run_bind_ok run
  obtain ⟨_, _, _, run⟩ := Logged.run_bind_ok run
  obtain ⟨info, _, _, run⟩ := Logged.run_bind_ok run
  cases run
  obtain ⟨reg, i₁, found, run₁⟩ := Logged.run_bind_ok run₁
  obtain ⟨_, i₂, _, run₁⟩ := Logged.run_bind_ok run₁
  obtain ⟨_, i₃, renamed, run₁⟩ := Logged.run_bind_ok run₁
  cases renamed
  obtain ⟨w, run₃, rfl⟩ := populated_ok run₁
  rw [Logged.run_attempt] at found
  exact ⟨reg, _, w, _, _, (Prod.mk.inj found).1, run₃, rfl, run₂⟩

theorem bare_sanitized (settings : Settings) (schemas : Table Value) (key : String) (m : Model)
    (h : (Registry.sanitize settings ⟨schemas, schemas.map Registry.skeletonOf⟩).records.get? key =
      some m) : Bare m := by
  rw [Registry.sanitize, Table.get?_map, Table.get?_map] at h
  obtain ⟨skeleton, declared, rfl⟩ := Option.map_eq_some_iff.mp h
  obtain ⟨schema, _, rfl⟩ := Option.map_eq_some_iff.mp declared
  exact ⟨rfl, rfl, rfl, rfl⟩

end Converted

/-- A successful conversion has one model for each component schema, in order and under its key.
Whatever is populated after the renaming, a record keeps its identity, so that references
resolve alike; and every name in the blueprint that stands for a key is that of its model. -/
theorem references_survive_renaming {settings : Settings} {document : Value} {b : Blueprint}
    {j k : Journal} (run : (convert settings document).run j = (.ok b, k)) :
    ∃ (reg : Registry) (es : List (String × Value)) (components : Services.Components)
      (paths : List (Scalar × Value)), discovered document = .ok reg ∧
      Registry.schemaPairs ((document.field "components").field "schemas") =
        .ok (es.map fun e => (.text e.1, e.2)) ∧
      b.models.map Model.key = (es.map Prod.fst).eraseDups ∧
      (∀ calls i w, w = Call.after (reg.sanitize settings) calls
          ⟨(reg.sanitize settings).records, [], i⟩ →
        w.records.names = (reg.sanitize settings).records.names ∧
        (∀ key m, w.records.get? key = some m → ∃ renamed,
          (reg.sanitize settings).get? key = some renamed ∧ SameIdentity m renamed) ∧
        ∀ node, resolve (Registry.nameIn w.records) node =
            resolve (reg.sanitize settings).nameOf node ∧
          refNames (Registry.nameIn w.records) node =
            refNames (reg.sanitize settings).nameOf node ∧
          discriminator (Registry.nameIn w.records) node =
            discriminator (reg.sanitize settings).nameOf node) ∧
      (∀ m ∈ b.models, b.nameOf m.key = m.name ∧ Rendered reg.schemas b.nameOf m.key m ∧
        ∃ renamed, (reg.sanitize settings).get? m.key = some renamed ∧ SameIdentity m renamed) ∧
      Services.Components.ofDocument document = .ok components ∧
      fieldsOf (orEmptyMap (document.field "paths")) = .ok paths ∧
      ∀ s ∈ b.services, ∀ o ∈ s.operations.values,
        ∃ e ∈ paths.flatMap fun p => Services.Endpoint.ofItem p.1.display p.2,
          Services.Refers b.nameOf components e o := by
  obtain ⟨reg, i, w, i', k', found, populated, models, served⟩ := convert_ok run
  obtain ⟨es, pairs, rfl⟩ := Registry.discover_pairs (discovered_eq_ok found)
  obtain ⟨components, paths, hcomponents, hpaths, refer⟩ := Services.services_refer served
  have initial := started_initial settings (Table.ofEntries es)
  have bare := bare_sanitized settings (Table.ofEntries es)
  obtain ⟨reached, keyed, rendered⟩ := populateEach_rendered bare initial populated
  have named : b.nameOf = Registry.nameIn w.records := by
    funext key
    rw [Blueprint.nameOf, models, keyed.find?, Registry.nameIn]
    cases w.records.get? key <;> rfl
  have names := reached.nameIn bare initial
  refine ⟨_, es, components, paths, found, pairs, ?_, fun calls i w' hw' => ?_, fun m hm => ?_,
    hcomponents, hpaths, named ▸ refer⟩
  · rw [models, keyed.names, reached.names initial.names]
    exact Table.names_ofEntries es
  · have here := hw' ▸ reached_after initial calls (Sound.initial i)
    refine ⟨(here.names initial.names).trans initial.names.symm, fun key m stored =>
      here.identity bare stored, ?_⟩
    rw [here.nameIn bare initial]
    exact fun node => ⟨rfl, rfl, rfl⟩
  · rw [models] at hm
    obtain ⟨key, stored⟩ := Table.mem_values.mp hm
    have same : m.key = key := Table.keyed_iff.mp keyed key m stored
    rw [named, same]
    refine ⟨by rw [Registry.nameIn, stored], ?_, reached.identity bare stored⟩
    rw [names]
    exact rendered key m stored

/-- With a reserved parent, the class that extends it names the renamed model. -/
theorem references_petSchemas :
    let settings : Settings := { Settings.defaults with extraReservedWords := ["pet"] }
    ∃ b k, (convert settings (documentOf petSchemas)).run [] = (.ok b, k) ∧
      b.models.map Model.key = ["Cat", "Pet", "Named"] ∧ b.nameOf "Pet" = "Pet_" ∧
      ∃ m ∈ b.models, m.key = "Cat" ∧ m.parent = some "Pet_" := by
  intro settings
  obtain ⟨reg, ps, w, converted, _⟩ := models_run settings typed_petSchemas acyclic_petSchemas
    (documentOf_has petSchemas) []
  obtain ⟨b, k, run⟩ : ∃ b k, (convert settings (documentOf petSchemas)).run [] = (.ok b, k) :=
    ⟨_, _, convert_run settings converted⟩
  obtain ⟨reg, es, _, _, found, pairs, keys, _, models, _⟩ := references_survive_renaming run
  cases (discovered_ok typed_petSchemas (documentOf_has petSchemas)).symm.trans found
  have declared : es = petSchemas.entries := by
    refine List.map_injective_iff.mpr (fun d e same => ?_) (Except.ok.inj pairs).symm
    obtain ⟨name, schema⟩ := Prod.mk.inj same
    exact Prod.ext (Scalar.text.inj name) schema
  have order : b.models.map Model.key = ["Cat", "Pet", "Named"] := by
    rw [keys, declared]
    decide
  have stored : ∀ key ∈ ["Cat", "Pet", "Named"], ∃ m ∈ b.models, m.key = key := by
    rw [← order]
    exact fun key hk => List.mem_map.mp hk
  obtain ⟨pet, hpet, petKey⟩ := stored "Pet" (by decide)
  obtain ⟨cat, hcat, catKey⟩ := stored "Cat" (by decide)
  obtain ⟨named, _, renamed, hrenamed, identity⟩ := models pet hpet
  have petName : b.nameOf "Pet" = "Pet_" := by
    rw [petKey] at named hrenamed
    rw [named, identity.name]
    cases hrenamed
    decide
  refine ⟨b, k, run, order, petName, cat, hcat, catKey, ?_⟩
  rw [(models cat hcat).2.1.parent, catKey, ← petName]
  rfl

end SdkBlueprint
