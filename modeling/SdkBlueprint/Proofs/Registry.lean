import SdkBlueprint.Proofs.Schema.Typed
import SdkBlueprint.Proofs.Table
import SdkBlueprint.Registry.Sanitizing

/-! Registries of well-typed schemas. Discovery keeps the schemas and gives each one a
skeleton that depends on its key and its own schema; so does renaming. -/
namespace SdkBlueprint
open SdkBlueprint.Document SdkBlueprint.Schema

namespace Table

variable {α : Type}

theorem entries_put_of_new {t : Table α} {name : String} (h : name ∉ t.names) (v : α) :
    (t.put name v).entries = t.entries ++ [(name, v)] := by
  obtain ⟨es, distinct⟩ := t
  simp only [put, names] at h ⊢
  clear distinct
  induction es with
  | nil => rfl
  | cons e es ih =>
      obtain ⟨n, w⟩ := e
      simp only [List.map_cons, List.mem_cons, not_or] at h
      rw [putEntry, if_neg (Ne.symm h.1), ih h.2, List.cons_append]

theorem foldl_put_entries (es : List (String × α)) (t : Table α)
    (distinct : (t.names ++ es.map Prod.fst).Nodup) :
    (es.foldl (fun t e => t.put e.1 e.2) t).entries = t.entries ++ es := by
  induction es generalizing t with
  | nil => rw [List.append_nil]; rfl
  | cons e es ih =>
      have new : e.1 ∉ t.names := by
        intro h
        exact (List.nodup_append.mp distinct).2.2 _ h e.1 (by simp) rfl
      have names : (t.put e.1 e.2).names = t.names ++ [e.1] := by rw [names_put, if_neg new]
      rw [List.foldl_cons, ih _ (by simpa [names] using distinct), entries_put_of_new new]
      simp

/-- A table is what its entries make when they are put one after the other. -/
theorem ofEntries_entries (t : Table α) : ofEntries t.entries = t :=
  ext_entries (foldl_put_entries t.entries empty t.distinct)

theorem map_put {β : Type} (f : String → α → β) (t : Table α) (name : String) (v : α) :
    (t.put name v).map f = (t.map f).put name (f name v) := by
  obtain ⟨es, distinct⟩ := t
  refine ext_entries ?_
  simp only [map, put]
  clear distinct
  induction es with
  | nil => rfl
  | cons e es ih =>
      obtain ⟨n, w⟩ := e
      rw [List.map_cons, putEntry, putEntry]
      by_cases h : n = name
      · rw [if_pos h, if_pos h, List.map_cons, ← h]
      · rw [if_neg h, if_neg h, List.map_cons, ih]

theorem names_ofEntries (es : List (String × α)) :
    (ofEntries es).names = (es.map Prod.fst).eraseDups :=
  names_foldl_put (fun _ (e : String × α) => e.2) Prod.fst es empty

end Table

namespace Registry

/-- The mapping that holds the schemas of a table in order. -/
def mappingOf (schemas : Table Value) : Value :=
  .map (schemas.entries.map fun e => (.text e.1, e.2))

/-- The record of a well-typed schema before it is built. -/
def skeletonOf (key : String) (schema : Value) : Model :=
  .skeleton key (Naming.pascal key) (Naming.kebab key) (schema.hasField "enum")
    (schema.field "description").textOf?

theorem hasField_schemaMap (v : Value) (name : String) :
    (schemaMap v).hasField name = v.hasField name := by
  cases v with
  | map entries => rfl
  | _ => rfl

theorem skeleton_ok (key : String) {schema : Value}
    (h : isTextOrNull (schema.field "description")) :
    skeleton key schema = .ok (skeletonOf key schema) := by
  simp only [skeleton, skeletonOf, field_schemaMap, hasField_schemaMap]
  rcases textOrNull_cases h with hd | ⟨s, hd⟩ <;> rw [hd] <;> rfl

theorem discover_add {es : List (String × Value)}
    (h : ∀ e ∈ es, isTextOrNull (e.2.field "description")) (reg : Registry) :
    (es.map fun e => (Scalar.text e.1, e.2)).foldlM add reg = .ok
      ⟨es.foldl (fun t e => t.put e.1 e.2) reg.schemas,
        (es.map fun e => (e.1, skeletonOf e.1 e.2)).foldl (fun t e => t.put e.1 e.2)
          reg.records⟩ := by
  induction es generalizing reg with
  | nil => rfl
  | cons e es ih =>
      have here : add reg (.text e.1, e.2) =
          .ok ⟨reg.schemas.put e.1 e.2, reg.records.put e.1 (skeletonOf e.1 e.2)⟩ := by
        simp only [add, skeleton_ok e.1 (h e (by simp))]
        rfl
      rw [List.map_cons, List.foldlM_cons, here]
      exact ih (fun d hd => h d (by simp [hd])) _

/-- Discovery of well-typed schemas succeeds and keeps them as they are. -/
theorem discover_ok {schemas : Table Value} (typed : TypedSchemas schemas) :
    discover (mappingOf schemas) = .ok ⟨schemas, schemas.map skeletonOf⟩ := by
  have pairs : schemaPairs (mappingOf schemas) =
      .ok (schemas.entries.map fun e => (.text e.1, e.2)) := by
    unfold schemaPairs mappingOf
    cases schemas.entries <;> rfl
  have records : Table.ofEntries (schemas.map skeletonOf).entries = schemas.map skeletonOf :=
    Table.ofEntries_entries _
  rw [discover, pairs]
  refine (discover_add (fun e he => (typed e he).description) empty).trans (congrArg _ ?_)
  exact congrArg₂ Registry.mk (Table.ofEntries_entries schemas) records

theorem skeletonOf_of_skeleton {key : String} {schema : Value} {model : Model}
    (h : skeleton key schema = .ok model) : model = skeletonOf key schema := by
  by_cases described : isTextOrNull (schema.field "description") = true
  · rw [skeleton_ok key described] at h
    exact (Except.ok.inj h).symm
  · simp only [skeleton, field_schemaMap] at h
    unfold optionalText at h
    split at h
    · next hd => exact absurd (by rw [hd]; rfl) described
    · next hd => exact absurd (by rw [hd]; rfl) described
    · cases h

theorem add_ok {reg next : Registry} {pair : Scalar × Value} (h : add reg pair = .ok next) :
    ∃ key, pair.1 = .text key ∧
      next = ⟨reg.schemas.put key pair.2, reg.records.put key (skeletonOf key pair.2)⟩ := by
  unfold add at h
  split at h
  · next key hk =>
    cases hs : skeleton key pair.2 with
    | error e =>
        rw [hs] at h
        cases h
    | ok model =>
        rw [hs] at h
        exact ⟨key, hk, skeletonOf_of_skeleton hs ▸ (Except.ok.inj h).symm⟩
  · cases h

/-- Whatever is discovered has text keys, and a skeleton for the last schema of each. -/
theorem discover_pairs {schemas : Value} {reg : Registry} (h : discover schemas = .ok reg) :
    ∃ es : List (String × Value), schemaPairs schemas = .ok (es.map fun e => (.text e.1, e.2)) ∧
      reg = ⟨Table.ofEntries es, (Table.ofEntries es).map skeletonOf⟩ := by
  have steps : ∀ (pairs : List (Scalar × Value)) (t : Table Value),
      pairs.foldlM add ⟨t, t.map skeletonOf⟩ = .ok reg →
      ∃ es : List (String × Value), pairs = es.map (fun e => (.text e.1, e.2)) ∧
        reg = ⟨es.foldl (fun t e => t.put e.1 e.2) t,
          (es.foldl (fun t e => t.put e.1 e.2) t).map skeletonOf⟩ := by
    intro pairs
    induction pairs with
    | nil => exact fun t run => ⟨[], rfl, (Except.ok.inj run).symm⟩
    | cons pair pairs ih =>
        intro t run
        rw [List.foldlM_cons] at run
        cases hp : add ⟨t, t.map skeletonOf⟩ pair with
        | error e =>
            rw [hp] at run
            cases run
        | ok next =>
            obtain ⟨key, hk, same⟩ := add_ok hp
            rw [hp, same, ← Table.map_put] at run
            obtain ⟨es, rest, made⟩ := ih _ run
            refine ⟨(key, pair.2) :: es, ?_, made⟩
            rw [List.map_cons, ← rest, ← hk]
  cases hp : schemaPairs schemas with
  | error e =>
      rw [discover, hp] at h
      cases h
  | ok pairs =>
      rw [discover, hp] at h
      obtain ⟨es, rfl, made⟩ := steps pairs Table.empty h
      exact ⟨es, rfl, made⟩

end Registry
end SdkBlueprint
