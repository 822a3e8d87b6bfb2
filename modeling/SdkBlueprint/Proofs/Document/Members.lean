import Mathlib.Data.List.Induction
import Mathlib.Data.List.Nodup
import SdkBlueprint.Document.Json.Reader

/-! Members of mappings. In a mapping that is made from pairs the last pair of a name counts, and no
name has two entries; every object of a JSON text is such a mapping. -/
namespace SdkBlueprint.Document

theorem same_text_iff {s : Scalar} {name : String} :
    s.same (.text name) = true ↔ s = .text name := by
  cases s with
  | text n => simp [Scalar.same]
  | _ => simp [Scalar.same, Scalar.integer?]

theorem text_same_iff {s : Scalar} {name : String} :
    (Scalar.text name).same s = true ↔ s = .text name := by
  cases s with
  | text n =>
      simp only [Scalar.same, beq_iff_eq, Scalar.text.injEq]
      exact eq_comm
  | _ => simp [Scalar.same, Scalar.integer?]

namespace Value

variable {name : String} {key : Scalar} {v : Value} {entries pairs : List (Scalar × Value)}

theorem member?_cons (name : String) (key : Scalar) (v : Value) (rest : List (Scalar × Value)) :
    member? name ((key, v) :: rest) =
      if key = .text name then some v else member? name rest := by
  cases key with
  | text k => exact if_congr (Scalar.text.injEq k name ▸ Iff.rfl) rfl rfl
  | _ => rfl

theorem member?_append (name : String) (front back : List (Scalar × Value)) :
    member? name (front ++ back) = (member? name front).or (member? name back) := by
  induction front with
  | nil => rfl
  | cons e front ih =>
      rw [List.cons_append, member?_cons, member?_cons, ih]
      split <;> rfl

theorem member?_putScalar (name : String) (key : Scalar) (v : Value)
    (entries : List (Scalar × Value)) : member? name (putScalar key v entries) =
      if key = .text name then some v else member? name entries := by
  induction entries with
  | nil => rw [putScalar, member?_cons]
  | cons e rest ih =>
      obtain ⟨k, w⟩ := e
      rw [putScalar]
      split
      · next same =>
        have both : k = .text name ↔ key = .text name := by
          constructor
          · rintro rfl
            exact text_same_iff.mp same
          · rintro rfl
            exact same_text_iff.mp same
        rw [member?_cons, member?_cons]
        by_cases this : key = .text name
        · rw [if_pos this, if_pos (both.mpr this)]
        · rw [if_neg this, if_neg (mt both.mp this), if_neg (mt both.mp this)]
      · next other =>
        rw [member?_cons, member?_cons, ih]
        by_cases this : key = .text name
        · subst this
          rw [if_pos rfl, if_pos rfl, if_neg fun same => other (same_text_iff.mpr same)]
        · rw [if_neg this, if_neg this]

theorem mapOf_snoc (pairs : List (Scalar × Value)) (p : Scalar × Value) :
    mapOf (pairs ++ [p]) = putScalar p.1 p.2 (mapOf pairs) := by
  rw [mapOf, List.foldl_append]
  rfl

/-- Of the pairs with one name the last counts. -/
theorem member?_mapOf (name : String) (pairs : List (Scalar × Value)) :
    member? name (mapOf pairs) = member? name pairs.reverse := by
  induction pairs using List.reverseRecOn with
  | nil => rfl
  | append_singleton pairs p ih =>
      rw [mapOf_snoc, member?_putScalar, List.reverse_append, List.reverse_singleton,
        List.singleton_append, member?_cons, ih]

theorem key_of_mem_putScalar {k : Scalar}
    (h : k ∈ (putScalar key v entries).map Prod.fst) : k = key ∨ k ∈ entries.map Prod.fst := by
  induction entries with
  | nil => exact .inl (List.mem_singleton.mp h)
  | cons e rest ih =>
      rw [putScalar] at h
      split at h
      · exact .inr h
      · rw [List.map_cons, List.mem_cons] at h
        rw [List.map_cons, List.mem_cons]
        rcases h with rfl | h
        · exact .inr (.inl rfl)
        · exact (ih h).imp id .inr

/-- All keys are texts, and no two of them are the same. -/
structure Plain (entries : List (Scalar × Value)) : Prop where
  texts : ∀ e ∈ entries, ∃ name, e.1 = .text name
  distinct : (entries.map Prod.fst).Nodup

namespace Plain

theorem member?_eq_some_iff (h : Plain entries) :
    member? name entries = some v ↔ (.text name, v) ∈ entries := by
  have distinct := h.distinct
  clear h
  induction entries with
  | nil => simp [member?]
  | cons e rest ih =>
      obtain ⟨k, w⟩ := e
      rw [List.map_cons, List.nodup_cons] at distinct
      rw [member?_cons, List.mem_cons, Prod.mk.injEq]
      by_cases here : k = .text name
      · subst here
        have absent : (Scalar.text name, v) ∉ rest :=
          fun member => distinct.1 (List.mem_map.mpr ⟨_, member, rfl⟩)
        simp [absent, eq_comm]
      · have below : member? name rest = some v ↔ (.text name, v) ∈ rest := ih distinct.2
        simp [here, Ne.symm here, below]

theorem reverse (h : Plain entries) : Plain entries.reverse :=
  ⟨fun e he => h.texts e (List.mem_reverse.mp he), by
    rw [List.map_reverse]
    exact List.nodup_reverse.mpr h.distinct⟩

theorem member?_reverse (h : Plain entries) (name : String) :
    member? name entries.reverse = member? name entries := by
  ext v
  rw [h.reverse.member?_eq_some_iff, h.member?_eq_some_iff, List.mem_reverse]

theorem put (h : Plain entries) (name : String) (v : Value) :
    Plain (putScalar (.text name) v entries) := by
  obtain ⟨texts, distinct⟩ := h
  refine ⟨fun e he => ?_, ?_⟩
  · rcases key_of_mem_putScalar (List.mem_map_of_mem he) with same | old
    · exact ⟨name, same⟩
    · obtain ⟨d, hd, same⟩ := List.mem_map.mp old
      exact same ▸ texts d hd
  · clear texts
    induction entries with
    | nil => exact List.nodup_singleton _
    | cons e rest ih =>
        rw [List.map_cons, List.nodup_cons] at distinct
        rw [putScalar]
        split
        · exact List.nodup_cons.mpr distinct
        · next other =>
          refine List.nodup_cons.mpr ⟨fun member => ?_, ih distinct.2⟩
          rcases key_of_mem_putScalar member with same | old
          · exact other (same_text_iff.mpr same)
          · exact distinct.1 old

theorem mapOf (texts : ∀ e ∈ pairs, ∃ name, e.1 = .text name) : Plain (mapOf pairs) := by
  induction pairs using List.reverseRecOn with
  | nil => exact ⟨by simp [Value.mapOf], List.nodup_nil⟩
  | append_singleton pairs p ih =>
      obtain ⟨name, key⟩ := texts p (by simp)
      rw [mapOf_snoc, key]
      exact (ih fun e he => texts e (by simp [he])).put name p.2

end Plain
end Value

namespace Json
open Value

variable {fuel : Nat} {cs rest : List Char} {entries acc : List (Scalar × Value)}

theorem readMembers_plain (texts : ∀ e ∈ acc, ∃ name, e.1 = .text name)
    (h : readMembers fuel acc cs = .ok (.map entries, rest)) : Plain entries := by
  induction fuel generalizing acc cs with
  | zero => cases h
  | succ fuel ih =>
      unfold readMembers at h
      split at h
      · split at h
        · cases h
        · next key _ _ =>
          split at h
          · split at h
            · cases h
            · next v _ _ =>
              have more : ∀ e ∈ (Scalar.text key, v) :: acc, ∃ name, e.1 = .text name :=
                List.forall_mem_cons.mpr ⟨⟨key, rfl⟩, texts⟩
              dsimp only at h
              split at h
              · cases h
                exact Plain.mapOf fun e he => more e (List.mem_reverse.mp he)
              · exact ih more h
              · cases h
          · cases h
      · cases h

theorem readItems_not_map {items : List Value} :
    readItems fuel items cs ≠ .ok (.map entries, rest) := by
  induction fuel generalizing items cs with
  | zero => exact nofun
  | succ fuel ih =>
      unfold readItems
      split
      · exact nofun
      · split
        · exact nofun
        · exact ih
        · exact nofun

theorem readAtom_not_map : readAtom cs ≠ .ok (.map entries, rest) := by
  have number : ∀ negative whole after,
      finishNumber negative whole after ≠ .ok (.map entries, rest) := by
    intro negative whole after
    unfold finishNumber
    dsimp only
    split
    · split <;> exact nofun
    · exact nofun
  unfold readAtom
  split
  · exact nofun
  · unfold readNumber
    split
    split
    · exact number _ _ _
    · split
      · exact number _ _ _
      · exact nofun
    · exact nofun

theorem readValue_plain (h : readValue fuel cs = .ok (.map entries, rest)) : Plain entries := by
  cases fuel with
  | zero => cases h
  | succ fuel =>
      unfold readValue at h
      split at h
      · split at h <;> cases h
      · split at h
        · cases h
        · exact absurd h readItems_not_map
      · split at h
        · cases h
          exact ⟨by simp, List.nodup_nil⟩
        · exact readMembers_plain (by simp) h
      · exact absurd h readAtom_not_map

/-- An object of a text has text keys, each once. -/
theorem read_plain {text : String} (h : read text = .ok (.map entries)) : Plain entries := by
  unfold read at h
  dsimp only at h
  split at h
  · cases h
  · split at h
    · next v document =>
      cases h
      unfold readDocument at document
      split at document
      · cases document
      · next value =>
        split at document
        · cases document
          exact readValue_plain value
        · cases document
    · cases h
    · cases h

end Json
end SdkBlueprint.Document
