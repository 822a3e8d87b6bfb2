import Mathlib
import SdkBlueprint.Proofs.Services.Labels
import SdkBlueprint.Services.Catalog

/-! Method names. None holds a colon, so that the key of an operation tells its method
name whatever its id is; and a name that is given beside others is always new. -/
namespace SdkBlueprint

/-- The text has no colon. -/
def Colonless (s : String) : Prop := ':' ∉ s.toList

theorem Colonless.append {s t : String} (hs : Colonless s) (ht : Colonless t) :
    Colonless (s ++ t) := by
  rw [Colonless, String.toList_append, List.mem_append, not_or]
  exact ⟨hs, ht⟩

theorem Alphanumeric.colonless {s : String} (h : Alphanumeric s) : Colonless s :=
  fun colon => absurd (h ':' colon) (by decide)

/-- What follows the last colon is determined by the whole. -/
theorem colonless_suffix {s t u v : List Char} (hu : ':' ∉ u) (hv : ':' ∉ v)
    (h : s ++ ':' :: u = t ++ ':' :: v) : u = v := by
  have last : ∀ (s u : List Char), ':' ∉ u →
      (s ++ ':' :: u).reverse.takeWhile (· != ':') = u.reverse := by
    intro s u hu
    rw [List.reverse_append, List.reverse_cons, List.append_assoc]
    rw [List.takeWhile_append_of_pos]
    · simp
    · intro c hc
      rw [List.mem_reverse] at hc
      have other : c ≠ ':' := fun same => hu (same ▸ hc)
      simpa using other
  have := last s u hu
  rw [h, last t v hv] at this
  exact (List.reverse_inj.mp this).symm

theorem Naming.camel_colonless (s : String) : Colonless (camel s) :=
  (camel_alphanumeric s).colonless

namespace Services

theorem contentLabel_colonless (contentType : String) : Colonless (contentLabel contentType) :=
  (contentLabel_spec contentType).1.colonless

theorem numbered_colonless {name : String} (h : Colonless name) (n : Nat) :
    Colonless (numbered name n) := by
  refine (h.append (by unfold Colonless; decide)).append ?_
  intro colon
  rw [Nat.toString_eq_repr, Nat.toList_repr] at colon
  exact absurd (Nat.isDigit_of_mem_toDigits (by decide) (by decide) colon) (by decide)

theorem numbered_toList (name : String) (n : Nat) :
    (numbered name n).toList = name.toList ++ '_' :: Nat.toDigits 10 n := by
  rw [numbered, String.toList_append, String.toList_append, Nat.toString_eq_repr, Nat.toList_repr]
  simp

theorem numbered_injective (name : String) : Function.Injective (numbered name) := by
  intro m n h
  have digits := congrArg String.toList h
  rw [numbered_toList, numbered_toList, List.append_cancel_left_eq, List.cons.injEq] at digits
  rw [← Nat.ofDigitChars_toDigits (b := 10) (n := m) (by decide) (by decide), digits.2,
    Nat.ofDigitChars_toDigits (by decide) (by decide)]

theorem numbered_ne (name : String) (n : Nat) : numbered name n ≠ name := by
  intro h
  have longer := congrArg (fun s => s.toList.length) h
  simp only [numbered_toList, List.length_append, List.length_cons] at longer
  omega

theorem exists_free {taken : List String} {name : String} (h : name ∈ taken) :
    ∃ n ∈ List.range' 2 taken.length, numbered name n ∉ taken := by
  -- With the name itself the numbered ones are one more than there are names to be taken.
  by_contra none
  have all : ∀ n ∈ List.range' 2 taken.length, numbered name n ∈ taken := by simpa using none
  have distinct : (name :: (List.range' 2 taken.length).map (numbered name)).Nodup := by
    refine List.nodup_cons.mpr ⟨fun hn => ?_, ?_⟩
    · obtain ⟨n, _, hn⟩ := List.mem_map.mp hn
      exact numbered_ne name n hn
    · exact List.Nodup.map (numbered_injective name) (List.nodup_range' 1)
  have inside : name :: (List.range' 2 taken.length).map (numbered name) ⊆ taken := by
    intro s hs
    rcases List.mem_cons.mp hs with rfl | hs
    · exact h
    · obtain ⟨n, hn, rfl⟩ := List.mem_map.mp hs
      exact all n hn
  have count := (distinct.subperm inside).length_le
  rw [List.length_cons, List.length_map, List.length_range'] at count
  omega

/-- From a number on this is the first whose name is free. -/
structure LeastFree (taken : List String) (name : String) (n k : Nat) : Prop where
  after : n ≤ k
  free : numbered name k ∉ taken
  held : ∀ i, n ≤ i → i < k → numbered name i ∈ taken

/-- If a name is taken itself, the number that is chosen is the least free one, and there is one
among as many numbers as there are names. -/
theorem freeNumber_least {taken : List String} {name : String} (h : name ∈ taken) :
    LeastFree taken name 2 (freeNumber taken name) ∧
      freeNumber taken name ≤ taken.length + 1 := by
  obtain ⟨n, hn, free⟩ := exists_free h
  have tried : ((List.range' 2 taken.length).find? fun n =>
      !taken.contains (numbered name n)).isSome := by
    rw [List.find?_isSome]
    exact ⟨n, hn, by simpa using free⟩
  obtain ⟨k, found⟩ := Option.isSome_iff_exists.mp tried
  have chosen : freeNumber taken name = k := by rw [freeNumber, found, Option.getD_some]
  rw [chosen]
  obtain ⟨free, inside, passed⟩ := List.find?_range'_eq_some.mp found
  have bounds := List.mem_range'_1.mp inside
  refine ⟨⟨bounds.1, by simpa using free, fun i after before => ?_⟩, by omega⟩
  simpa using passed i after before

/-- The name that is given beside others is none of theirs. It is the name itself if that is
free, and a numbered one from two on if not. -/
theorem freeName_spec (taken : List String) (name : String) :
    freeName taken name ∉ taken ∧
      (if name ∈ taken then ∃ k, 2 ≤ k ∧ freeName taken name = numbered name k
        else freeName taken name = name) := by
  unfold freeName
  by_cases h : name ∈ taken
  · rw [if_pos (List.contains_iff_mem.mpr h), if_pos h]
    have least := (freeNumber_least h).1
    exact ⟨least.free, freeNumber taken name, least.after, rfl⟩
  · rw [if_neg (mt List.contains_iff_mem.mp h), if_neg h]
    exact ⟨h, rfl⟩

end Services
end SdkBlueprint
