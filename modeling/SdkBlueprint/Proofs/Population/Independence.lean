import Mathlib.Data.List.Nodup
import SdkBlueprint.Proofs.Population.Cycles

/-! Independence of order and of unrelated schemas. What a model is built from is the
schemas that can be reached from its own, so that two tables which agree on these build it
alike. -/
namespace SdkBlueprint

namespace Table

variable {α : Type}

theorem entries_perm {s t : Table α} (same : ∀ k, s.get? k = t.get? k) :
    s.entries.Perm t.entries := by
  refine (List.perm_ext_iff_of_nodup (List.Nodup.of_map _ s.distinct)
    (List.Nodup.of_map _ t.distinct)).mpr fun e => ?_
  have left : s.get? e.1 = some e.2 ↔ e ∈ s.entries := get?_eq_some_iff
  have right : t.get? e.1 = some e.2 ↔ e ∈ t.entries := get?_eq_some_iff
  rw [← left, ← right, same]

theorem get?_of_perm {s t : Table α} (h : s.entries.Perm t.entries) (k : String) :
    s.get? k = t.get? k := by
  refine Option.ext fun v => ?_
  rw [get?_eq_some_iff, get?_eq_some_iff, h.mem_iff]

end Table

namespace Population
open SdkBlueprint.Document SdkBlueprint.Schema Relation

section Transfer

variable {first second : Table Value} {nameOf : String → String} {start start' : Table Model}

/-- Two tables agree on every schema that can be reached from the key. -/
def AgreeFrom (first second : Table Value) (key : String) : Prop :=
  ∀ t, ReflTransGen (Composes first) key t → first.get? t = second.get? t

theorem AgreeFrom.schemaAt {key : String} (h : AgreeFrom first second key) :
    schemaAt second key = schemaAt first key := by
  rw [Population.schemaAt, Population.schemaAt, h key .refl]

theorem AgreeFrom.composes (registered : ∀ t, t ∈ first.names ↔ t ∈ second.names) {key : String}
    (h : AgreeFrom first second key) (t : String) :
    Composes second key t ↔ Composes first key t := by
  rw [Composes, Composes, Refers, Refers, h.schemaAt, registered]

theorem AgreeFrom.part {key t : String} (h : AgreeFrom first second key)
    (edge : Composes first key t) : AgreeFrom first second t :=
  fun u reached => h u (.head edge reached)

/-- A product over one table is a product over every table that agrees with it. -/
theorem Built.transfer (registered : ∀ t, t ∈ first.names ↔ t ∈ second.names)
    (skeletons : ∀ t, first.get? t = second.get? t → start.get? t = start'.get? t) {p : Product}
    (built : Built first nameOf start p) (agree : AgreeFrom first second p.key) :
    Built second nameOf start' p := by
  induction built with
  | @intro p skeleton notes part declared keys parts made noted ih =>
      have edges := agree.composes registered
      have declared' : start'.get? p.key = some skeleton := by
        rw [← skeletons p.key (agree p.key .refl), declared]
      refine .intro part declared' (fun t ht => keys t ((edges t).mp ht)) (fun t ht => ?_) ?_ noted
      · have edge := (edges t).mp ht
        exact ih t edge (by rw [keys t edge]; exact agree.part edge)
      · rw [agree.schemaAt, ← made]
        refine congrArg (fun x : Logged Model => x.run []) ?_
        exact (readModel_congr nameOf registered skeleton fun _ _ _ _ _ _ _ => rfl).symm

end Transfer

section Histories

variable {first second : Table Value} {nameOf : String → String} {start start' : Table Model}

theorem History.product {schemas : Table Value} {start : Table Model} {j : Journal}
    {ps : List Product} {w : Workshop} (h : History schemas nameOf start j ps w) {key : String}
    (registered : key ∈ schemas.names) : ∃ p ∈ ps, p.key = key ∧
      Built schemas nameOf start p ∧ w.records.get? key = some p.model := by
  obtain ⟨p, hp, rfl⟩ := List.mem_map.mp (h.complete.mem_iff.mpr registered)
  refine ⟨p, hp, rfl, h.moves.orderly.built p hp, ?_⟩
  rw [h.moves.records]
  exact get?_store_of_mem h.moves.orderly.keys_nodup hp _

theorem History.names {schemas : Table Value} {start : Table Model} {j : Journal}
    {ps : List Product} {w : Workshop} (h : History schemas nameOf start j ps w)
    (initial : Initial schemas start) : w.records.names = schemas.names :=
  ((Sound.initial j).moves h.moves).names initial.names

variable {j j' : Journal} {ps qs : List Product} {w w' : Workshop}

/-- Two runs over tables that agree from a key on leave the same record for it. -/
theorem History.same_record (h : History first nameOf start j ps w)
    (h' : History second nameOf start' j' qs w') (initial : Initial first start)
    (initial' : Initial second start') (registered : ∀ t, t ∈ first.names ↔ t ∈ second.names)
    (skeletons : ∀ t, first.get? t = second.get? t → start.get? t = start'.get? t)
    {key : String} (agree : AgreeFrom first second key) :
    w.records.get? key = w'.records.get? key := by
  by_cases known : key ∈ first.names
  · obtain ⟨p, _, rfl, built, stored⟩ := h.product known
    obtain ⟨q, _, same, built', stored'⟩ := h'.product ((registered _).mp known)
    have one := (built.transfer registered skeletons agree).unique built' same.symm
    rw [stored, stored', one]
  · have left := h.names initial ▸ known
    have right := h'.names initial' ▸ mt (registered key).mpr known
    rw [(Table.get?_eq_none_iff _ _).mpr left, (Table.get?_eq_none_iff _ _).mpr right]

theorem History.products_subset (h : History first nameOf start j ps w)
    (h' : History second nameOf start' j' qs w') (same : ∀ t, first.get? t = second.get? t)
    (skeletons : ∀ t, first.get? t = second.get? t → start.get? t = start'.get? t) :
    ps ⊆ qs := by
  have registered : ∀ t, t ∈ first.names ↔ t ∈ second.names := by
    intro t
    rw [Table.mem_names, Table.mem_names, same]
  intro p hp
  obtain ⟨q, hq, key, built', _⟩ :=
    h'.product ((registered _).mp (h.moves.orderly.registered p hp))
  have moved := (h.moves.orderly.built p hp).transfer registered skeletons fun t _ => same t
  exact moved.unique built' key.symm ▸ hq

/-- Two runs over the same schemas in different orders store the same products. -/
theorem History.products_perm (h : History first nameOf start j ps w)
    (h' : History second nameOf start' j' qs w') (same : ∀ t, first.get? t = second.get? t)
    (skeletons : ∀ t, first.get? t = second.get? t → start.get? t = start'.get? t) :
    ps.Perm qs := by
  have distinct := List.Nodup.of_map _ h.moves.orderly.keys_nodup
  have distinct' := List.Nodup.of_map _ h'.moves.orderly.keys_nodup
  have there := h.products_subset h' same skeletons
  have back := h'.products_subset h (fun t => (same t).symm) fun t _ =>
    (skeletons t (same t)).symm
  exact (List.perm_ext_iff_of_nodup distinct distinct').mpr fun p =>
    ⟨fun hp => there hp, fun hp => back hp⟩

end Histories
end Population
end SdkBlueprint
