import Mathlib.Data.List.Perm.Basic
import SdkBlueprint.Proofs.Population.Composition

/-! How the workshop moves. Every change of the records is the storing of a product
whose parts were stored before it, so that the products tell the whole history. -/
namespace SdkBlueprint.Population
open SdkBlueprint.Document SdkBlueprint.Schema

namespace Build

variable {α β : Type} {w : Workshop}

theorem run_bind (x : Build α) (f : α → Build β) (w : Workshop) :
    (x >>= f).run w = match x.run w with
      | (.ok a, w') => (f a).run w'
      | (.error e, w') => (.error e, w') := by
  simp only [ExceptT.run, bind, ExceptT.bind, ExceptT.mk, StateT.bind, ExceptT.bindCont]
  rcases x w with ⟨r | r, w'⟩ <;> rfl

/-- After the step from `w`, `Q` holds of what it came to and of the workshop it left. -/
def Ends (x : Build α) (w : Workshop) (Q : Attempt α → Workshop → Prop) : Prop :=
  Q (x.run w).1 (x.run w).2

variable {Q R : Attempt α → Workshop → Prop}

theorem Ends.mono {x : Build α} (h : Ends x w Q) (weaker : ∀ r w', Q r w' → R r w') :
    Ends x w R := weaker _ _ h

theorem Ends.bind {x : Build α} {f : α → Build β} {S : Attempt β → Workshop → Prop}
    (h : Ends x w Q) (ok : ∀ a w', Q (.ok a) w' → Ends (f a) w' S)
    (error : ∀ e w', Q (.error e) w' → S (.error e) w') : Ends (x >>= f) w S := by
  unfold Ends at *
  rw [run_bind]
  rcases hx : x.run w with ⟨e | a, w'⟩ <;> rw [hx] at h
  · exact error e w' h
  · exact ok a w' h

theorem ends_pure {a : α} (h : Q (.ok a) w) : Ends (pure a) w Q := h

theorem ends_throw {e : Failure} (h : Q (.error e) w) : Ends (throw e) w Q := h

theorem ends_attempt {x : Attempt α} (h : Q x w) : Ends (attempt x) w Q := by
  cases x <;> exact h

theorem ends_logged {P : Entry → Prop} {step : Logged α} (adds : Logged.Adds P step)
    (h : Q step.result { w with journal := w.journal ++ step.entries }) :
    Ends (logged step) w Q := by
  change Q (step.run w.journal).1 { w with journal := (step.run w.journal).2 }
  rw [adds.run]
  exact h

@[simp] theorem attempt_ok_bind (a : α) (f : α → Build β) : attempt (.ok a) >>= f = f a := rfl

@[simp] theorem attempt_error_bind (e : Failure) (f : α → Build β) :
    attempt (.error e) >>= f = throw e := rfl

theorem ends_record?_bind {key : String} {f : Option Model → Build α}
    (h : Ends (f (w.records.get? key)) w Q) : Ends (record? key >>= f) w Q := h

theorem ends_isFinished_bind {key : String} {f : Bool → Build α}
    (h : Ends (f (w.finished.contains key)) w Q) : Ends (isFinished key >>= f) w Q := h

end Build

/-- The records once the products are stored, one after the other. -/
def store (records : Table Model) (ps : List Product) : Table Model :=
  ps.foldl (fun t p => t.put p.key p.model) records

/-- What the builds of the products note. -/
def notesOf (ps : List Product) : Journal := ps.flatMap Product.notes

section

variable (schemas : Table Value) (nameOf : String → String) (start : Table Model)

/-- Products in an order in which they can be made once the keys in `done` are. -/
inductive Orderly : List String → List Product → Prop
  | nil {done} : Orderly done []
  | cons {done p ps} (registered : p.key ∈ schemas.names) (fresh : p.key ∉ done)
      (ready : ∀ t, Composes schemas p.key t → t ∈ done) (built : Built schemas nameOf start p)
      (rest : Orderly (done ++ [p.key]) ps) : Orderly done (p :: ps)

/-- From one workshop to another the given products were stored, and nothing else. -/
structure Moves (w w' : Workshop) (ps : List Product) : Prop where
  records : w'.records = store w.records ps
  finished : w'.finished = w.finished ++ ps.map Product.key
  orderly : Orderly schemas nameOf start w.finished ps

/-- A workshop that started from the given records with nothing finished. -/
def Sound (w : Workshop) : Prop := ∃ ps, Moves schemas nameOf start ⟨start, [], []⟩ w ps

end

variable {schemas : Table Value} {nameOf : String → String} {start : Table Model}

theorem store_append (records : Table Model) (ps qs : List Product) :
    store records (ps ++ qs) = store (store records ps) qs := List.foldl_append

theorem notesOf_append (ps qs : List Product) : notesOf (ps ++ qs) = notesOf ps ++ notesOf qs :=
  List.flatMap_append

theorem get?_store_of_not_mem {key : String} {ps : List Product} (h : key ∉ ps.map Product.key)
    (records : Table Model) : (store records ps).get? key = records.get? key := by
  induction ps generalizing records with
  | nil => rfl
  | cons p ps ih =>
      simp only [List.map_cons, List.mem_cons, not_or] at h
      change (store (records.put p.key p.model) ps).get? key = _
      rw [ih h.2, Table.get?_put, if_neg (Ne.symm h.1)]

theorem names_store {records : Table Model} {ps : List Product}
    (h : ∀ p ∈ ps, p.key ∈ records.names) : (store records ps).names = records.names := by
  induction ps generalizing records with
  | nil => rfl
  | cons p ps ih =>
      have here : (records.put p.key p.model).names = records.names := by
        rw [Table.names_put, if_pos (h p (by simp))]
      change (store (records.put p.key p.model) ps).names = _
      rw [ih fun q hq => here ▸ h q (by simp [hq]), here]

namespace Orderly

theorem append {done : List String} {ps qs : List Product}
    (hp : Orderly schemas nameOf start done ps)
    (hq : Orderly schemas nameOf start (done ++ ps.map Product.key) qs) :
    Orderly schemas nameOf start done (ps ++ qs) := by
  induction hp with
  | nil => simpa using hq
  | cons registered fresh ready built rest ih =>
      exact .cons registered fresh ready built (ih (by simpa using hq))

theorem single {done : List String} {p : Product} (registered : p.key ∈ schemas.names)
    (fresh : p.key ∉ done) (ready : ∀ t, Composes schemas p.key t → t ∈ done)
    (built : Built schemas nameOf start p) : Orderly schemas nameOf start done [p] :=
  .cons registered fresh ready built .nil

theorem not_mem_done {done : List String} {ps : List Product}
    (h : Orderly schemas nameOf start done ps) : ∀ k ∈ ps.map Product.key, k ∉ done := by
  induction h with
  | nil => simp
  | cons registered fresh ready built rest ih =>
      intro k hk
      rcases List.mem_cons.mp hk with rfl | hk
      · exact fresh
      · exact fun hd => ih k hk (by simp [hd])

theorem keys_nodup {done : List String} {ps : List Product}
    (h : Orderly schemas nameOf start done ps) : (ps.map Product.key).Nodup := by
  induction h with
  | nil => simp
  | cons registered fresh ready built rest ih =>
      rw [List.map_cons, List.nodup_cons]
      exact ⟨fun hk => rest.not_mem_done _ hk (by simp), ih⟩

theorem registered {done : List String} {ps : List Product}
    (h : Orderly schemas nameOf start done ps) : ∀ p ∈ ps, p.key ∈ schemas.names := by
  induction h with
  | nil => simp
  | cons registered fresh ready built rest ih =>
      intro q hq
      rcases List.mem_cons.mp hq with rfl | hq
      · exact registered
      · exact ih q hq

theorem built {done : List String} {ps : List Product}
    (h : Orderly schemas nameOf start done ps) : ∀ p ∈ ps, Built schemas nameOf start p := by
  induction h with
  | nil => simp
  | cons registered fresh ready built rest ih =>
      intro q hq
      rcases List.mem_cons.mp hq with rfl | hq
      · exact built
      · exact ih q hq

/-- What a product is composed of comes before it. -/
theorem ready_before {done : List String} {ps : List Product}
    (h : Orderly schemas nameOf start done ps) {before after : List Product} {p : Product}
    (split : ps = before ++ p :: after) :
    ∀ t, Composes schemas p.key t → t ∈ done ++ before.map Product.key := by
  induction h generalizing before with
  | nil => simp at split
  | @cons done q ps registered fresh ready built rest ih =>
      cases before with
      | nil =>
          simp only [List.nil_append, List.cons.injEq] at split
          intro t ht
          simpa using ready t (split.1 ▸ ht)
      | cons b before =>
          simp only [List.cons_append, List.cons.injEq] at split
          intro t ht
          simpa [split.1] using ih split.2 t ht

end Orderly

namespace Moves

theorem trans {w w' w'' : Workshop} {ps qs : List Product}
    (first : Moves schemas nameOf start w w' ps) (second : Moves schemas nameOf start w' w'' qs) :
    Moves schemas nameOf start w w'' (ps ++ qs) := by
  refine ⟨?_, ?_, ?_⟩
  · rw [second.records, first.records, store_append]
  · rw [second.finished, first.finished, List.map_append, List.append_assoc]
  · exact first.orderly.append (first.finished ▸ second.orderly)

theorem finished_subset {w w' : Workshop} {ps : List Product}
    (h : Moves schemas nameOf start w w' ps) : ∀ k ∈ w.finished, k ∈ w'.finished := by
  intro k hk
  rw [h.finished]
  exact List.mem_append_left _ hk

theorem record_of_finished {w w' : Workshop} {ps : List Product}
    (h : Moves schemas nameOf start w w' ps) {key : String} (hk : key ∈ w.finished) :
    w'.records.get? key = w.records.get? key := by
  rw [h.records]
  exact get?_store_of_not_mem (fun hp => h.orderly.not_mem_done key hp hk) _

end Moves

namespace Sound

variable {w w' : Workshop}

theorem initial (j : Journal) : Sound schemas nameOf start ⟨start, [], j⟩ :=
  ⟨[], rfl, rfl, .nil⟩

theorem moves (h : Sound schemas nameOf start w) {ps : List Product}
    (step : Moves schemas nameOf start w w' ps) : Sound schemas nameOf start w' := by
  obtain ⟨qs, past⟩ := h
  exact ⟨qs ++ ps, past.trans step⟩

theorem names (h : Sound schemas nameOf start w) (complete : start.names = schemas.names) :
    w.records.names = schemas.names := by
  obtain ⟨ps, past⟩ := h
  rw [past.records, names_store (by simpa [complete] using past.orderly.registered), complete]

theorem record_of_waiting (h : Sound schemas nameOf start w) {key : String}
    (waiting : key ∉ w.finished) : w.records.get? key = start.get? key := by
  obtain ⟨ps, past⟩ := h
  rw [past.records]
  refine get?_store_of_not_mem (fun hk => waiting ?_) _
  rw [past.finished]
  exact hk

end Sound

theorem get?_store_of_mem {p : Product} {ps : List Product} (distinct : (ps.map Product.key).Nodup)
    (hp : p ∈ ps) (records : Table Model) : (store records ps).get? p.key = some p.model := by
  induction ps generalizing records with
  | nil => cases hp
  | cons q ps ih =>
      rw [List.map_cons, List.nodup_cons] at distinct
      change (store (records.put q.key q.model) ps).get? p.key = _
      rcases List.mem_cons.mp hp with rfl | hp
      · rw [get?_store_of_not_mem distinct.1, Table.get?_put, if_pos rfl]
      · exact ih distinct.2 hp _

/-- The record of a finished key is that of its product. -/
theorem Sound.product {w : Workshop} (h : Sound schemas nameOf start w) {key : String}
    (hk : key ∈ w.finished) : ∃ p, Built schemas nameOf start p ∧ p.key = key ∧
      w.records.get? key = some p.model := by
  obtain ⟨ps, past⟩ := h
  rw [past.finished, List.nil_append] at hk
  obtain ⟨p, hp, rfl⟩ := List.mem_map.mp hk
  refine ⟨p, past.orderly.built p hp, rfl, ?_⟩
  rw [past.records]
  exact get?_store_of_mem past.orderly.keys_nodup hp _

end SdkBlueprint.Population
