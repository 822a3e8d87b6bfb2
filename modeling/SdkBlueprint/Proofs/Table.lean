import Mathlib.Data.List.Induction
import Mathlib.Data.List.Nodup
import SdkBlueprint.Table

/-! Tables that are written one value after the other. The names of a table tell where a
name was first written, its values what was written last. -/
namespace SdkBlueprint

section Distinct

variable {α : Type} [BEq α] [LawfulBEq α]

theorem eraseDups_of_nodup {xs : List α} (h : xs.Nodup) : xs.eraseDups = xs := by
  induction xs with
  | nil => rfl
  | cons x xs ih =>
      rw [List.nodup_cons] at h
      rw [List.eraseDups_cons, List.filter_eq_self.mpr, ih h.2]
      intro y hy
      have : y ≠ x := fun hyx => h.1 (hyx ▸ hy)
      simpa using this

theorem eraseDups_append_singleton (xs : List α) (x : α) :
    (xs ++ [x]).eraseDups = if x ∈ xs then xs.eraseDups else xs.eraseDups ++ [x] := by
  rw [List.eraseDups_append]
  by_cases h : x ∈ xs
  · rw [if_pos h]
    simp [List.removeAll, h]
  · rw [if_neg h]
    simp [List.removeAll, h, List.eraseDups_cons]

theorem nodup_eraseDups (xs : List α) : xs.eraseDups.Nodup := by
  induction xs using List.reverseRecOn with
  | nil => simp
  | append_singleton xs x ih =>
      rw [eraseDups_append_singleton]
      split
      · exact ih
      · next h =>
        refine List.nodup_append.mpr ⟨ih, by simp, fun a ha b hb hab => h ?_⟩
        rw [List.mem_singleton] at hb
        exact List.mem_eraseDups.mp (hb ▸ hab ▸ ha)

end Distinct

section Lookup

variable {α β : Type} [DecidableEq α] {key : α} {es : List (α × β)}

theorem lookup_append_of_absent (absent : key ∉ es.map Prod.fst) (fs : List (α × β)) :
    lookup key (es ++ fs) = lookup key fs := by
  induction es with
  | nil => rfl
  | cons e es ih =>
      obtain ⟨k, v⟩ := e
      rw [List.map_cons, List.mem_cons, not_or] at absent
      rw [List.cons_append, lookup, if_neg (Ne.symm absent.1), ih absent.2]

/-- A key whose entries all have one value is looked up as that value. -/
theorem lookup_of_agreed {v : β} (member : (key, v) ∈ es) (agreed : ∀ w, (key, w) ∈ es → w = v) :
    lookup key es = some v := by
  have known : (lookup key es).isSome := lookup_isSome_iff.mpr (List.mem_map_of_mem member)
  obtain ⟨w, found⟩ := Option.isSome_iff_exists.mp known
  rw [found, agreed w (mem_of_lookup found)]

theorem lookup_of_mem {v : β} (distinct : (es.map Prod.fst).Nodup) (member : (key, v) ∈ es) :
    lookup key es = some v := by
  apply lookup_of_agreed member
  intro w other
  exact (Prod.mk.inj (List.inj_on_of_nodup_map distinct other member rfl)).2

end Lookup

namespace Table

variable {α β : Type}

theorem get?_eq_some_iff {t : Table α} {name : String} {v : α} :
    t.get? name = some v ↔ (name, v) ∈ t.entries :=
  ⟨mem_of_lookup, lookup_of_mem t.distinct⟩

/-- Of the entries of one name the last one counts. -/
theorem get?_ofEntries (es : List (String × α)) (name : String) :
    (ofEntries es).get? name = lookup name es.reverse := by
  induction es using List.reverseRecOn with
  | nil => rfl
  | append_singleton es e ih =>
      rw [ofEntries] at ih ⊢
      rw [List.foldl_append, List.foldl_cons, List.foldl_nil, get?_put, ih, List.reverse_append,
        List.reverse_singleton, List.singleton_append, lookup]

theorem get?_map (f : String → α → β) (t : Table α) (name : String) :
    (t.map f).get? name = (t.get? name).map (f name) := by
  cases h : t.get? name with
  | none =>
      rw [get?_eq_none_iff] at h
      rw [Option.map_none, get?_eq_none_iff, names_map]
      exact h
  | some v =>
      rw [get?_eq_some_iff] at h
      rw [Option.map_some, get?_eq_some_iff]
      exact List.mem_map.mpr ⟨(name, v), h, rfl⟩

theorem mem_names {t : Table α} {name : String} : name ∈ t.names ↔ ∃ v, t.get? name = some v := by
  rw [← Option.isSome_iff_exists, ← contains_iff]
  rfl

theorem entries_eq (t : Table α) :
    t.entries = t.names.filterMap fun k => (t.get? k).map (Prod.mk k) := by
  have found : ∀ es ⊆ t.entries,
      es = (es.map Prod.fst).filterMap fun k => (t.get? k).map (Prod.mk k) := by
    intro es
    induction es with
    | nil => exact fun _ => rfl
    | cons e es ih =>
        intro inside
        have here : t.get? e.1 = some e.2 := get?_eq_some_iff.mpr (inside (by simp))
        rw [List.map_cons, List.filterMap_cons, here, Option.map_some,
          ← ih fun d hd => inside (List.mem_cons_of_mem e hd)]
  exact found t.entries fun _ he => he

theorem ext_get? {s t : Table α} (names : s.names = t.names) (same : ∀ k, s.get? k = t.get? k) :
    s = t := by
  refine ext_entries ?_
  rw [s.entries_eq, t.entries_eq, names]
  simp only [same]

/-- The names after a fold that puts a value under the name of every element. -/
theorem names_foldl_put (value : Table α → β → α) (name : β → String) (xs : List β)
    (t : Table α) :
    (xs.foldl (fun t x => t.put (name x) (value t x)) t).names =
      (t.names ++ xs.map name).eraseDups := by
  induction xs using List.reverseRecOn with
  | nil =>
      rw [List.map_nil, List.append_nil, eraseDups_of_nodup t.names_nodup]
      rfl
  | append_singleton xs x ih =>
      rw [List.foldl_append, List.foldl_cons, List.foldl_nil, names_put, ih, List.map_append,
        List.map_cons, List.map_nil, ← List.append_assoc, eraseDups_append_singleton]
      simp only [List.mem_eraseDups]

/-- Every value bears the name under which it is stored. -/
def Keyed (name : α → String) (t : Table α) : Prop := ∀ e ∈ t.entries, name e.2 = e.1

theorem keyed_iff {name : α → String} {t : Table α} :
    t.Keyed name ↔ ∀ k v, t.get? k = some v → name v = k := by
  constructor
  · exact fun h k v hv => h _ (get?_eq_some_iff.mp hv)
  · exact fun h e he => h e.1 e.2 (get?_eq_some_iff.mpr he)

theorem Keyed.names {name : α → String} {t : Table α} (h : t.Keyed name) :
    t.values.map name = t.names := by
  rw [values, Table.names, List.map_map]
  exact List.map_congr_left h

theorem Keyed.find? {name : α → String} {t : Table α} (h : t.Keyed name) (k : String) :
    t.values.find? (fun v => name v == k) = t.get? k := by
  obtain ⟨es, distinct⟩ := t
  simp only [values, get?, Keyed] at h ⊢
  clear distinct
  induction es with
  | nil => rfl
  | cons e es ih =>
      obtain ⟨n, v⟩ := e
      have here : name v = n := h (n, v) (by simp)
      rw [List.map_cons, List.find?_cons, lookup, ih fun d hd => h d (by simp [hd]), here]
      by_cases hn : n = k
      · simp [hn]
      · rw [if_neg hn, beq_eq_false_iff_ne.mpr hn]

theorem Keyed.put {name : α → String} {t : Table α} (h : t.Keyed name) {v : α} {k : String}
    (hv : name v = k) : (t.put k v).Keyed name := by
  rw [keyed_iff] at h ⊢
  intro n w hw
  rw [get?_put] at hw
  split at hw
  · next hk => exact Option.some.inj hw ▸ hv.trans hk
  · exact h n w hw

theorem mem_values {t : Table α} {v : α} : v ∈ t.values ↔ ∃ k, t.get? k = some v := by
  constructor
  · intro hv
    obtain ⟨e, he, rfl⟩ := List.mem_map.mp hv
    exact ⟨e.1, get?_eq_some_iff.mpr he⟩
  · rintro ⟨k, hk⟩
    exact List.mem_map.mpr ⟨(k, v), get?_eq_some_iff.mp hk, rfl⟩

theorem mem_values_put {t : Table α} {k : String} {v w : α} (h : w ∈ (t.put k v).values) :
    w = v ∨ w ∈ t.values := by
  obtain ⟨n, hn⟩ := mem_values.mp h
  rw [get?_put] at hn
  split at hn
  · exact .inl (Option.some.inj hn).symm
  · exact .inr (mem_values.mpr ⟨n, hn⟩)

/-- What holds of all values and of whatever is put holds after all is put. -/
theorem forall_values_foldl_put {Q : α → Prop} (name : β → String) (value : Table α → β → α)
    {xs : List β} (put : ∀ t x, x ∈ xs → (∀ v ∈ t.values, Q v) → Q (value t x)) {t : Table α}
    (h : ∀ v ∈ t.values, Q v) :
    ∀ v ∈ (xs.foldl (fun t x => t.put (name x) (value t x)) t).values, Q v := by
  induction xs generalizing t with
  | nil => exact h
  | cons x xs ih =>
      refine ih (fun t y hy => put t y (List.mem_cons_of_mem x hy)) fun v hv => ?_
      rcases mem_values_put hv with rfl | hv
      · exact put t x (by simp) h
      · exact h v hv

theorem keyed_empty (name : α → String) : (empty : Table α).Keyed name := by
  intro e he
  cases he

end Table
end SdkBlueprint
