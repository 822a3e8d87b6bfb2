import SdkBlueprint.Proofs.Journal
import SdkBlueprint.Proofs.Table

/-! Two runs side by side. Steps that read the same document under different names are compared
by what they come to, and the tables that they fill are compared entry by entry. -/
namespace SdkBlueprint

section Attempt

variable {α β γ δ : Type}

/-- If both come to a value, the values are related. -/
def Agree (R : α → β → Prop) (x : Attempt α) (y : Attempt β) : Prop :=
  ∀ a b, x = .ok a → y = .ok b → R a b

namespace Agree

variable {R : α → β → Prop} {S : γ → δ → Prop}

theorem ok {a : α} {b : β} (h : R a b) : Agree R (.ok a) (.ok b) := by
  rintro _ _ ⟨⟩ ⟨⟩
  exact h

theorem bind {x : Attempt α} {y : Attempt β} {f : α → Attempt γ} {g : β → Attempt δ}
    (first : Agree R x y) (rest : ∀ a b, R a b → Agree S (f a) (g b)) :
    Agree S (x >>= f) (y >>= g) := by
  intro c d hc hd
  obtain ⟨a, ha, hc⟩ := attempt_bind_ok hc
  obtain ⟨b, hb, hd⟩ := attempt_bind_ok hd
  exact rest a b (first a b ha hb) c d hc hd

theorem map {x : Attempt α} {y : Attempt β} {f : α → γ} {g : β → δ} (h : Agree R x y)
    (related : ∀ a b, R a b → S (f a) (g b)) : Agree S (x.map f) (y.map g) := by
  intro c d hc hd
  cases x with
  | error e => cases hc
  | ok a =>
      cases y with
      | error e => cases hd
      | ok b =>
          cases hc
          cases hd
          exact related a b (h a b rfl rfl)

theorem same (x : Attempt α) : Agree (fun a b => b = a ∧ x = .ok a) x x := by
  intro a b ha hb
  exact ⟨Except.ok.inj (hb.symm.trans ha), ha⟩

theorem mapM {f : γ → Attempt α} {g : γ → Attempt β} {xs : List γ}
    (h : ∀ x ∈ xs, Agree R (f x) (g x)) : Agree (List.Forall₂ R) (xs.mapM f) (xs.mapM g) := by
  induction xs with
  | nil => exact .ok .nil
  | cons x xs ih =>
      rw [List.mapM_cons, List.mapM_cons]
      refine (h x (by simp)).bind fun a b here => ?_
      exact (ih fun y hy => h y (List.mem_cons_of_mem x hy)).bind fun as bs rest =>
        .ok (.cons here rest)

end Agree
end Attempt

namespace Logged

variable {α β γ δ : Type}

/-- If both steps come to a value, from whatever journals, the values are related. -/
def Agree (R : α → β → Prop) (x : Logged α) (y : Logged β) : Prop :=
  ∀ i j k l a b, x.run i = (.ok a, k) → y.run j = (.ok b, l) → R a b

namespace Agree

variable {R : α → β → Prop} {S : γ → δ → Prop}

theorem pure {a : α} {b : β} (h : R a b) : Agree R (Pure.pure a) (Pure.pure b) := by
  intro i j k l _ _ run run'
  cases run
  cases run'
  exact h

theorem attempt {x : Attempt α} {y : Attempt β} (h : SdkBlueprint.Agree R x y) :
    Agree R (Logged.attempt x) (Logged.attempt y) := by
  intro i j k l a b run run'
  rw [run_attempt] at run run'
  exact h a b (Prod.mk.inj run).1 (Prod.mk.inj run').1

theorem bind {x : Logged α} {y : Logged β} {f : α → Logged γ} {g : β → Logged δ}
    (first : Agree R x y) (rest : ∀ a b, R a b → Agree S (f a) (g b)) :
    Agree S (x >>= f) (y >>= g) := by
  intro i j k l c d run run'
  obtain ⟨a, i', hx, run⟩ := run_bind_ok run
  obtain ⟨b, j', hy, run'⟩ := run_bind_ok run'
  exact rest a b (first _ _ _ _ a b hx hy) _ _ _ _ c d run run'

/-- What the first steps come to does not matter. -/
theorem next {x : Logged α} {y : Logged β} {f : α → Logged γ} {g : β → Logged δ}
    (rest : ∀ a b, Agree S (f a) (g b)) : Agree S (x >>= f) (y >>= g) :=
  bind (R := fun _ _ => True) (fun _ _ _ _ _ _ _ _ => trivial) fun a b _ => rest a b

theorem throw_left {e : Failure} {y : Logged β} : Agree R (throw e : Logged α) y := by
  intro i j k l a b run
  cases run

theorem mono {R' : α → β → Prop} {x : Logged α} {y : Logged β} (h : Agree R x y)
    (weaker : ∀ a b, R a b → R' a b) : Agree R' x y :=
  fun i j k l a b run run' => weaker a b (h i j k l a b run run')

/-- One step from two journals comes to the same. -/
theorem same {P : Entry → Prop} {Q : α → Prop} {x : Logged α} (h : Adds P x) (known : Yields Q x) :
    Agree (fun a b => b = a ∧ Q a) x x := by
  intro i j k l a b run run'
  have holds := known i a k run
  rw [h.run] at run run'
  exact ⟨Except.ok.inj ((Prod.mk.inj run').1.symm.trans (Prod.mk.inj run).1), holds⟩

/-- Steps whose values are known are compared by these. -/
theorem of_yields {P : α → Prop} {Q : β → Prop} {x : Logged α} {y : Logged β} (hx : Yields P x)
    (hy : Yields Q y) (h : ∀ a b, P a → Q b → R a b) : Agree R x y :=
  fun i j k l a b run run' => h a b (hx i a k run) (hy j b l run')

theorem mapM {f : γ → Logged α} {g : γ → Logged β} {xs : List γ}
    (h : ∀ x ∈ xs, Agree R (f x) (g x)) : Agree (List.Forall₂ R) (xs.mapM f) (xs.mapM g) := by
  induction xs with
  | nil => exact .pure .nil
  | cons x xs ih =>
      rw [List.mapM_cons, List.mapM_cons]
      refine (h x (by simp)).bind fun a b here => ?_
      exact (ih fun y hy => h y (List.mem_cons_of_mem x hy)).bind fun as bs rest =>
        .pure (.cons here rest)

theorem foldlM {f : α → γ → Logged α} {g : β → δ → Logged β} {xs : List γ} {ys : List δ}
    (step : ∀ a b x y, R a b → S x y → Agree R (f a x) (g b y)) (all : List.Forall₂ S xs ys)
    {a : α} {b : β} (h : R a b) : Agree R (xs.foldlM f a) (ys.foldlM g b) := by
  induction all generalizing a b with
  | nil => exact .pure h
  | cons here _ ih =>
      rw [List.foldlM_cons, List.foldlM_cons]
      exact (step a b _ _ h here).bind fun a' b' h' => ih h'

/-- Both fold over one list. -/
theorem foldlM_same {f : α → γ → Logged α} {g : β → γ → Logged β} {xs : List γ}
    (step : ∀ a b, ∀ x ∈ xs, R a b → Agree R (f a x) (g b x)) {a : α} {b : β} (h : R a b) :
    Agree R (xs.foldlM f a) (xs.foldlM g b) := by
  refine foldlM (S := fun x y => y = x ∧ x ∈ xs) ?_
    (List.forall₂_same.mpr fun x hx => ⟨rfl, hx⟩) h
  rintro a b x _ h ⟨rfl, hx⟩
  exact step a b _ hx h

end Agree
end Logged

namespace Table

variable {α β : Type} {R : α → β → Prop} {t : Table α} {t' : Table β}

/-- The tables have the same names in the same order, and related values under them. -/
def Pairs (R : α → β → Prop) (t : Table α) (t' : Table β) : Prop :=
  List.Forall₂ (fun e e' => e'.1 = e.1 ∧ R e.2 e'.2) t.entries t'.entries

namespace Pairs

theorem empty : Pairs R Table.empty Table.empty := .nil

theorem names (h : Pairs R t t') : t'.names = t.names := by
  have equal : List.Forall₂ Eq t'.names t.names := List.rel_map (fun _ _ h => h.1) h.flip
  exact List.forall₂_eq_eq_eq ▸ equal

theorem values (h : Pairs R t t') : List.Forall₂ R t.values t'.values :=
  List.rel_map (fun _ _ h => h.2) h

theorem get? (h : Pairs R t t') (key : String) : Option.Rel R (t.get? key) (t'.get? key) := by
  obtain ⟨entries, distinct⟩ := t
  obtain ⟨entries', distinct'⟩ := t'
  simp only [Pairs] at h
  simp only [Table.get?]
  clear distinct distinct'
  induction h with
  | nil => exact .none
  | cons here _ ih =>
      obtain ⟨same, related⟩ := here
      rw [lookup, lookup, same]
      split
      · exact .some related
      · exact ih

theorem put (h : Pairs R t t') {key key' : String} (same : key' = key) {v : α} {v' : β}
    (related : R v v') : Pairs R (t.put key v) (t'.put key' v') := by
  subst same
  obtain ⟨entries, distinct⟩ := t
  obtain ⟨entries', distinct'⟩ := t'
  simp only [Pairs, Table.put] at h ⊢
  clear distinct distinct'
  induction h with
  | nil => exact .cons ⟨rfl, related⟩ .nil
  | @cons e e' _ _ here rest ih =>
      obtain ⟨k, w⟩ := e
      obtain ⟨k', w'⟩ := e'
      obtain ⟨rfl, held⟩ := here
      rw [putEntry, putEntry]
      split
      · exact .cons ⟨rfl, related⟩ rest
      · exact .cons ⟨rfl, held⟩ ih

theorem map {γ δ : Type} {S : γ → δ → Prop} {f : String → α → γ} {g : String → β → δ}
    (h : Pairs R t t') (related : ∀ key v v', R v v' → S (f key v) (g key v')) :
    Pairs S (t.map f) (t'.map g) := by
  refine List.rel_map ?_ h
  rintro ⟨key, v⟩ ⟨key', v'⟩ ⟨rfl, hv⟩
  exact ⟨rfl, related _ v v' hv⟩

/-- Folds of related steps over related elements keep tables related. -/
theorem foldl {γ δ : Type} {S : γ → δ → Prop} {f : Table α → γ → Table α}
    {g : Table β → δ → Table β} {xs : List γ} {ys : List δ}
    (step : ∀ t t' x y, Pairs R t t' → S x y → Pairs R (f t x) (g t' y))
    (all : List.Forall₂ S xs ys) (h : Pairs R t t') : Pairs R (xs.foldl f t) (ys.foldl g t') := by
  induction all generalizing t t' with
  | nil => exact h
  | cons here _ ih => exact ih (step _ _ _ _ h here)

end Pairs
end Table
end SdkBlueprint
