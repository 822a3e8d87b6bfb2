import SdkBlueprint.Proofs.References

/-! What a successful conversion is made of: a product for every schema, and the services of
the document under the names of these products. -/
namespace SdkBlueprint
open SdkBlueprint.Document SdkBlueprint.Schema SdkBlueprint.Population

/-- The parts of a blueprint, and the registry that they come from. -/
structure Converted (settings : Settings) (document : Value) (b : Blueprint) (reg : Registry) :
    Prop where
  found : discovered document = .ok reg
  records : ∃ schemas, reg = ⟨schemas, schemas.map Registry.skeletonOf⟩
  keys : b.models.map Model.key = reg.schemas.names
  nameOf : b.nameOf = (reg.sanitize settings).nameOf
  named : ∀ m ∈ b.models, b.nameOf m.key = m.name
  built : ∀ m ∈ b.models, ∃ p, Built reg.schemas (reg.sanitize settings).nameOf
    (reg.sanitize settings).records p ∧ p.key = m.key ∧ p.model = m
  services : ∃ i k, (Services.services settings b.nameOf document).run i = (.ok b.services, k)
  info : infoOf document = .ok b.info

variable {settings : Settings} {document : Value} {b : Blueprint} {j k : Journal}

theorem convert_info (run : (convert settings document).run j = (.ok b, k)) :
    infoOf document = .ok b.info := by
  obtain ⟨final, _, _, run⟩ := Logged.run_bind_ok run
  obtain ⟨services, _, _, run⟩ := Logged.run_bind_ok run
  obtain ⟨_, _, _, run⟩ := Logged.run_bind_ok run
  obtain ⟨info, i, read, run⟩ := Logged.run_bind_ok run
  cases run
  rw [Logged.run_attempt] at read
  exact (Prod.mk.inj read).1

/-- The name of a key in the records is that of the model which a blueprint holds for it. -/
theorem Blueprint.nameOf_eq {records : Table Model} (models : b.models = records.values)
    (keyed : records.Keyed Model.key) : b.nameOf = Registry.nameIn records := by
  funext key
  rw [Blueprint.nameOf, models, keyed.find?, Registry.nameIn]
  cases records.get? key <;> rfl

theorem convert_converted (run : (convert settings document).run j = (.ok b, k)) :
    ∃ reg, Converted settings document b reg := by
  obtain ⟨reg, i, w, i', k', found, populated, models, served⟩ := convert_ok run
  obtain ⟨es, _, rfl⟩ := Registry.discover_pairs (discovered_eq_ok found)
  have initial := started_initial settings (Table.ofEntries es)
  have bare := bare_sanitized settings (Table.ofEntries es)
  obtain ⟨reached, products⟩ := populateEach_products initial populated
  obtain ⟨_, keyed, _⟩ := populateEach_rendered bare initial populated
  have inRecords : b.nameOf = Registry.nameIn w.records := Blueprint.nameOf_eq models keyed
  refine ⟨_, found, ⟨_, rfl⟩, ?_, ?_, ?_, ?_, ⟨i', k', inRecords ▸ served⟩, convert_info run⟩
  · rw [models, keyed.names]
    exact reached.names initial.names
  · rw [inRecords]
    exact reached.nameIn bare initial
  · intro m hm
    rw [models] at hm
    obtain ⟨key, stored⟩ := Table.mem_values.mp hm
    rw [inRecords, Table.keyed_iff.mp keyed key m stored, Registry.nameIn, stored]
  · intro m hm
    rw [models] at hm
    obtain ⟨key, stored⟩ := Table.mem_values.mp hm
    rw [Table.keyed_iff.mp keyed key m stored]
    exact products key m stored

namespace Converted

variable {reg : Registry} (h : Converted settings document b reg)

include h

/-- The names in a model are those that the blueprint has for the keys of its schema. -/
theorem rendered : ∀ m ∈ b.models, Rendered reg.schemas b.nameOf m.key m := by
  intro m hm
  obtain ⟨schemas, rfl⟩ := h.records
  obtain ⟨p, built, key, rfl⟩ := h.built m hm
  obtain ⟨_, _, _, rendered⟩ := built.rendered (bare_sanitized settings schemas)
  rw [h.nameOf, ← key]
  exact rendered

theorem registered {key : String} (hk : key ∈ reg.schemas.names) :
    ∃ m ∈ b.models, m.key = key := by
  rw [← h.keys] at hk
  exact List.mem_map.mp hk

end Converted
end SdkBlueprint
