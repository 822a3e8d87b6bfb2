/-! Ordered tables. A table holds one value per name and keeps the names in the
order in which they were first put. -/
namespace SdkBlueprint

/-- Value of the first entry under `key`. -/
def lookup {α β : Type} [DecidableEq α] (key : α) : List (α × β) → Option β
  | [] => none
  | (k, v) :: rest => if k = key then some v else lookup key rest

/-- Replaces the first value under `key` in its place, or adds it at the end. -/
def putEntry {α β : Type} [DecidableEq α] (key : α) (value : β) :
    List (α × β) → List (α × β)
  | [] => [(key, value)]
  | (k, v) :: rest => if k = key then (k, value) :: rest else (k, v) :: putEntry key value rest

theorem lookup_eq_none_iff {α β : Type} [DecidableEq α] {key : α} {es : List (α × β)} :
    lookup key es = none ↔ key ∉ es.map Prod.fst := by
  induction es with
  | nil => simp [lookup]
  | cons e es ih =>
    obtain ⟨k, v⟩ := e
    by_cases h : k = key
    · simp [lookup, h]
    · simp [lookup, h, ih, Ne.symm h]

theorem lookup_isSome_iff {α β : Type} [DecidableEq α] {key : α} {es : List (α × β)} :
    (lookup key es).isSome ↔ key ∈ es.map Prod.fst := by
  rw [Option.isSome_iff_ne_none, Ne, lookup_eq_none_iff, Classical.not_not]

theorem mem_of_lookup {α β : Type} [DecidableEq α] {key : α} {v : β} {es : List (α × β)}
    (h : lookup key es = some v) : (key, v) ∈ es := by
  induction es with
  | nil => simp [lookup] at h
  | cons e es ih =>
    obtain ⟨k, w⟩ := e
    by_cases hk : k = key
    · simp [lookup, hk] at h; simp [hk, h]
    · simp [lookup, hk] at h; simp [ih h]

theorem putEntry_names {α β : Type} [DecidableEq α] (key : α) (value : β) (es : List (α × β)) :
    (putEntry key value es).map Prod.fst =
      if key ∈ es.map Prod.fst then es.map Prod.fst else es.map Prod.fst ++ [key] := by
  induction es with
  | nil => simp [putEntry]
  | cons e es ih =>
    obtain ⟨k, v⟩ := e
    by_cases h : k = key
    · simp [putEntry, h]
    · simp only [putEntry, h, if_false, List.map_cons, ih, List.mem_cons, Ne.symm h, false_or]
      split <;> simp

theorem putEntry_nodup {α β : Type} [DecidableEq α] (key : α) (value : β) {es : List (α × β)}
    (h : (es.map Prod.fst).Nodup) : ((putEntry key value es).map Prod.fst).Nodup := by
  rw [putEntry_names]
  split
  · exact h
  · next hk =>
    rw [List.nodup_append]
    exact ⟨h, by simp, fun a ha b hb hab => hk (by simp at hb; subst hb; exact hab ▸ ha)⟩

theorem lookup_putEntry {α β : Type} [DecidableEq α] (key other : α) (value : β)
    (es : List (α × β)) :
    lookup other (putEntry key value es) = if key = other then some value else lookup other es := by
  induction es with
  | nil => simp [putEntry, lookup]
  | cons e es ih =>
    obtain ⟨k, v⟩ := e
    by_cases h : k = key
    · subst h; by_cases h' : k = other <;> simp [putEntry, lookup, h']
    · by_cases h' : k = other
      · subst h'; simp [putEntry, lookup, h, Ne.symm h]
      · simp [putEntry, lookup, h, h', ih]

/-- Of the keys outside a list there are fewer when one of them joins the list. -/
theorem outside_lt {keys chain : List String} {t : String} (ht : t ∈ keys) (hc : t ∉ chain) :
    (keys.filter fun k => k ∉ t :: chain).length < (keys.filter fun k => k ∉ chain).length := by
  rw [← List.countP_eq_length_filter, ← List.countP_eq_length_filter]
  induction keys with
  | nil => simp at ht
  | cons k rest ih =>
    have mono : rest.countP (fun k => k ∉ t :: chain) ≤ rest.countP (fun k => k ∉ chain) :=
      List.countP_mono_left fun x _ hx => by simp at hx ⊢; exact hx.2
    rcases List.mem_cons.1 ht with rfl | h
    · simp [hc] at mono ⊢; omega
    · have := ih h
      by_cases hk : k ∈ chain
      · simpa [hk] using this
      · by_cases hkt : k = t
        · subst hkt; simp [hk] at mono ⊢; omega
        · simpa [hk, hkt] using this

structure Table (α : Type) where
  entries : List (String × α)
  distinct : (entries.map Prod.fst).Nodup

namespace Table

variable {α : Type}

def empty : Table α := ⟨[], List.nodup_nil⟩

def names (t : Table α) : List String := t.entries.map Prod.fst

def values (t : Table α) : List α := t.entries.map Prod.snd

def size (t : Table α) : Nat := t.entries.length

def get? (t : Table α) (name : String) : Option α := lookup name t.entries

def contains (t : Table α) (name : String) : Bool := (t.get? name).isSome

/-- Stores `value` under `name`, in its old place if the name is there already. -/
def put (t : Table α) (name : String) (value : α) : Table α :=
  ⟨putEntry name value t.entries, putEntry_nodup name value t.distinct⟩

def ofEntries (es : List (String × α)) : Table α :=
  es.foldl (fun t e => t.put e.1 e.2) empty

def map {β : Type} (f : String → α → β) (t : Table α) : Table β :=
  ⟨t.entries.map fun e => (e.1, f e.1 e.2), by
    have h : (t.entries.map fun e => (e.1, f e.1 e.2)).map Prod.fst = t.entries.map Prod.fst := by
      simp [List.map_map, Function.comp_def]
    rw [h]
    exact t.distinct⟩

theorem ext_entries {s t : Table α} (h : s.entries = t.entries) : s = t := by
  cases s; cases t; cases h; rfl

theorem names_nodup (t : Table α) : t.names.Nodup := t.distinct

theorem get?_put (t : Table α) (name other : String) (value : α) :
    (t.put name value).get? other = if name = other then some value else t.get? other :=
  lookup_putEntry name other value t.entries

theorem names_map {β : Type} (f : String → α → β) (t : Table α) : (t.map f).names = t.names := by
  simp [map, names, List.map_map, Function.comp_def]

theorem names_put (t : Table α) (name : String) (value : α) :
    (t.put name value).names = if name ∈ t.names then t.names else t.names ++ [name] :=
  putEntry_names name value t.entries

theorem contains_iff (t : Table α) (name : String) : t.contains name ↔ name ∈ t.names :=
  lookup_isSome_iff

theorem get?_eq_none_iff (t : Table α) (name : String) : t.get? name = none ↔ name ∉ t.names :=
  lookup_eq_none_iff

end Table
end SdkBlueprint
