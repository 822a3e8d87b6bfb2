import Mathlib.Data.List.Forall2
import SdkBlueprint.Journal

/-! The course of logged steps. A step that only adds to the journal runs the same
whatever the journal holds, so that its result and its own entries describe it. -/
namespace SdkBlueprint

theorem forall₂_right {α β : Type} {p : β → Prop} {as : List α} {bs : List β}
    (h : List.Forall₂ (fun _ b => p b) as bs) : ∀ b ∈ bs, p b := by
  induction h with
  | nil => simp
  | cons here _ ih => simpa using ⟨here, ih⟩

theorem forall₂_mem_right {α β : Type} {R : α → β → Prop} {as : List α} {bs : List β}
    (h : List.Forall₂ R as bs) : List.Forall₂ (fun a b => b ∈ bs ∧ R a b) as bs :=
  ((List.forall₂_and_left bs as).mpr ⟨fun _ hb => hb, h.flip⟩).flip

theorem forall₂_exists_left {α β : Type} {R : α → β → Prop} {as : List α} {bs : List β}
    (h : List.Forall₂ R as bs) : ∀ b ∈ bs, ∃ a ∈ as, R a b := by
  have known := (List.forall₂_and_left as bs).mpr ⟨fun _ ha => ha, h⟩
  exact forall₂_right (known.imp fun a b h => ⟨a, h.1, h.2⟩)

theorem attempt_bind_ok {ε α β : Type} {x : Except ε α} {f : α → Except ε β} {b : β}
    (h : x >>= f = .ok b) : ∃ a, x = .ok a ∧ f a = .ok b := by
  cases x with
  | error e => cases h
  | ok a => exact ⟨a, rfl, h⟩

theorem attempt_map_ok {ε α β : Type} {f : α → β} {x : Except ε α} {b : β} (h : x.map f = .ok b) :
    ∃ a, x = .ok a ∧ f a = b := by
  cases x with
  | error e => cases h
  | ok a => exact ⟨a, rfl, Except.ok.inj h⟩

theorem mapM_eq_map {ε α β : Type} {f : α → Except ε β} {g : α → β} {xs : List α}
    (h : ∀ x ∈ xs, f x = .ok (g x)) : xs.mapM f = .ok (xs.map g) := by
  induction xs with
  | nil => rfl
  | cons x xs ih =>
      rw [List.mapM_cons, h x (by simp), ih fun z hz => h z (by simp [hz])]
      rfl

theorem attempt_mapM_ok {ε α β : Type} {f : α → Except ε β} {xs : List α} {ys : List β}
    (h : xs.mapM f = .ok ys) : List.Forall₂ (fun x y => f x = .ok y) xs ys := by
  induction xs generalizing ys with
  | nil =>
      cases h
      exact .nil
  | cons x xs ih =>
      rw [List.mapM_cons] at h
      obtain ⟨y, hy, h⟩ := attempt_bind_ok h
      obtain ⟨rest, hrest, h⟩ := attempt_bind_ok h
      cases h
      exact .cons hy (ih hrest)

namespace Logged

variable {α β : Type} {P Q : Entry → Prop}

/-- What a step comes to. -/
def result (x : Logged α) : Attempt α := (x.run []).1

/-- The entries that a step makes. -/
def entries (x : Logged α) : Journal := (x.run []).2

/-- The step only adds to the journal, and what it adds is of one sort. -/
structure Adds (P : Entry → Prop) (x : Logged α) : Prop where
  run : ∀ j, x.run j = (x.result, j ++ x.entries)
  sort : ∀ e ∈ x.entries, P e

theorem run_bind (x : Logged α) (f : α → Logged β) (j : Journal) :
    (x >>= f).run j = match x.run j with
      | (.ok a, k) => (f a).run k
      | (.error e, k) => (.error e, k) := by
  simp only [ExceptT.run, bind, ExceptT.bind, ExceptT.mk, StateT.bind, ExceptT.bindCont]
  rcases x j with ⟨r | r, k⟩ <;> rfl

theorem run_bind_ok {x : Logged α} {f : α → Logged β} {j l : Journal} {b : β}
    (h : (x >>= f).run j = (.ok b, l)) :
    ∃ a k, x.run j = (.ok a, k) ∧ (f a).run k = (.ok b, l) := by
  rw [run_bind] at h
  rcases hx : x.run j with ⟨e | a, k⟩ <;> rw [hx] at h
  · cases h
  · exact ⟨a, k, rfl, h⟩

@[simp] theorem run_pure (a : α) (j : Journal) : (pure a : Logged α).run j = (.ok a, j) := rfl

theorem run_map (f : α → β) (x : Logged α) (j : Journal) :
    (f <$> x).run j = ((x.run j).1.map f, (x.run j).2) := by
  rw [map_eq_pure_bind, run_bind]
  rcases x.run j with ⟨e | a, k⟩ <;> rfl

@[simp] theorem run_throw (e : Failure) (j : Journal) :
    (throw e : Logged α).run j = (.error e, j) := rfl

@[simp] theorem run_attempt (x : Attempt α) (j : Journal) : (attempt x).run j = (x, j) := by
  cases x <;> rfl

@[simp] theorem run_note (e : Entry) (j : Journal) : (note e).run j = (.ok (), j ++ [e]) := rfl

@[simp] theorem attempt_ok_bind (a : α) (f : α → Logged β) : attempt (.ok a) >>= f = f a := rfl

@[simp] theorem attempt_error_bind (e : Failure) (f : α → Logged β) :
    attempt (.error e) >>= f = throw e := rfl

@[simp] theorem result_pure (a : α) : (pure a : Logged α).result = .ok a := rfl

@[simp] theorem entries_pure (a : α) : (pure a : Logged α).entries = [] := rfl

@[simp] theorem result_attempt (x : Attempt α) : (attempt x).result = x := by
  simp only [result, run_attempt]

@[simp] theorem entries_attempt (x : Attempt α) : (attempt x).entries = [] := by
  simp only [entries, run_attempt]

@[simp] theorem result_note (e : Entry) : (note e).result = .ok () := rfl

@[simp] theorem entries_note (e : Entry) : (note e).entries = [e] := rfl

theorem result_bind {x : Logged α} {f : α → Logged β} (hf : ∀ a, Adds Q (f a)) :
    (x >>= f).result = match x.result with
      | .ok a => (f a).result
      | .error e => .error e := by
  simp only [result, run_bind]
  rcases x.run [] with ⟨r | a, k⟩
  · rfl
  · simp only [(hf a).run k]
    rfl

theorem entries_bind {x : Logged α} {f : α → Logged β} (hf : ∀ a, Adds Q (f a)) :
    (x >>= f).entries = match x.result with
      | .ok a => x.entries ++ (f a).entries
      | .error _ => x.entries := by
  simp only [entries, result, run_bind]
  rcases x.run [] with ⟨r | a, k⟩
  · rfl
  · simp only [(hf a).run k]
    rfl

namespace Adds

theorem mono {x : Logged α} (hx : Adds P x) (h : ∀ e, P e → Q e) : Adds Q x :=
  ⟨hx.run, fun e he => h e (hx.sort e he)⟩

theorem pure (a : α) : Adds P (Pure.pure a : Logged α) := by
  refine ⟨fun j => ?_, by simp⟩
  simp

theorem throw (e : Failure) : Adds P (MonadExcept.throw e : Logged α) := by
  refine ⟨fun j => ?_, ?_⟩
  · simp [result, entries]
  · simp [entries]

theorem attempt (x : Attempt α) : Adds P (Logged.attempt x) := by
  refine ⟨fun j => ?_, by simp⟩
  simp

theorem note {e : Entry} (h : P e) : Adds P (Logged.note e) := by
  refine ⟨fun j => by simp, ?_⟩
  intro d hd
  rw [entries_note, List.mem_singleton] at hd
  exact hd ▸ h

theorem bind {x : Logged α} {f : α → Logged β} (hx : Adds P x) (hf : ∀ a, Adds P (f a)) :
    Adds P (x >>= f) := by
  constructor
  · intro j
    rw [run_bind, hx.run, result_bind hf, entries_bind hf]
    cases x.result with
    | ok a => simp only [(hf a).run, List.append_assoc]
    | error e => rfl
  · rw [entries_bind hf]
    cases x.result with
    | ok a =>
        intro e he
        exact (List.mem_append.mp he).elim (hx.sort e) ((hf a).sort e)
    | error e => exact hx.sort

theorem mapM {f : α → Logged β} {xs : List α} (h : ∀ x ∈ xs, Adds P (f x)) :
    Adds P (xs.mapM f) := by
  induction xs with
  | nil => exact .pure []
  | cons x xs ih =>
      rw [List.mapM_cons]
      refine (h x (by simp)).bind fun y => ?_
      exact (ih fun z hz => h z (by simp [hz])).bind fun ys => .pure (y :: ys)

theorem foldlM {f : β → α → Logged β} (h : ∀ b a, Adds P (f b a)) (b : β) (xs : List α) :
    Adds P (xs.foldlM f b) := by
  induction xs generalizing b with
  | nil => exact .pure b
  | cons x xs ih =>
      rw [List.foldlM_cons]
      exact (h b x).bind ih

end Adds

/-- From every journal the step comes to a value, and to one of the given sort. -/
def Succeeds (R : α → Prop) (x : Logged α) : Prop := ∀ j, ∃ a k, x.run j = (.ok a, k) ∧ R a

namespace Succeeds

variable {R : α → Prop} {S : β → Prop}

theorem pure {a : α} (h : R a) : Succeeds R (Pure.pure a) := fun j => ⟨a, j, rfl, h⟩

theorem attempt {x : Attempt α} {a : α} (h : x = .ok a) :
    Succeeds (fun b => b = a) (Logged.attempt x) := by
  subst h
  exact fun j => ⟨a, j, rfl, rfl⟩

theorem note (e : Entry) : Succeeds (fun _ => True) (Logged.note e) :=
  fun j => ⟨(), j ++ [e], rfl, trivial⟩

theorem bind {x : Logged α} {f : α → Logged β} (hx : Succeeds R x)
    (hf : ∀ a, R a → Succeeds S (f a)) : Succeeds S (x >>= f) := by
  intro j
  obtain ⟨a, k, run, ha⟩ := hx j
  obtain ⟨b, l, rest, hb⟩ := hf a ha k
  exact ⟨b, l, by rw [run_bind, run]; exact rest, hb⟩

theorem mono {x : Logged α} {R' : α → Prop} (hx : Succeeds R x) (h : ∀ a, R a → R' a) :
    Succeeds R' x := by
  intro j
  obtain ⟨a, k, run, ha⟩ := hx j
  exact ⟨a, k, run, h a ha⟩

theorem mapM {f : α → Logged β} {T : α → β → Prop} {xs : List α}
    (h : ∀ x ∈ xs, Succeeds (T x) (f x)) : Succeeds (List.Forall₂ T xs) (xs.mapM f) := by
  induction xs with
  | nil => exact .pure .nil
  | cons x xs ih =>
      rw [List.mapM_cons]
      refine (h x (by simp)).bind fun y hy => ?_
      refine (ih fun z hz => h z (by simp [hz])).bind fun ys hys => ?_
      exact .pure (.cons hy hys)

theorem mapM_total {f : α → Logged β} {xs : List α}
    (h : ∀ x ∈ xs, Succeeds (fun _ => True) (f x)) : Succeeds (fun _ => True) (xs.mapM f) :=
  (mapM (T := fun _ _ => True) h).mono fun _ _ => trivial

/-- A fold comes to a value if its steps do, from values of which an invariant holds. -/
theorem foldlM {f : β → α → Logged β} {I : β → Prop} {xs : List α}
    (h : ∀ b, I b → ∀ x ∈ xs, Succeeds I (f b x)) {b : β} (start : I b) :
    Succeeds I (xs.foldlM f b) := by
  induction xs generalizing b with
  | nil => exact .pure start
  | cons x xs ih =>
      rw [List.foldlM_cons]
      exact (h b start x (by simp)).bind fun c hc =>
        ih (fun d hd z hz => h d hd z (by simp [hz])) hc

theorem foldlM_total {f : β → α → Logged β} {xs : List α}
    (h : ∀ b, ∀ x ∈ xs, Succeeds (fun _ => True) (f b x)) (b : β) :
    Succeeds (fun _ => True) (xs.foldlM f b) :=
  foldlM (I := fun _ => True) (fun b _ => h b) (b := b) trivial

theorem result {x : Logged α} (h : Succeeds R x) : ∃ a, x.result = .ok a ∧ R a := by
  obtain ⟨a, k, run, ha⟩ := h []
  exact ⟨a, by rw [Logged.result, run], ha⟩

theorem of_run {x : Logged α} (h : Succeeds R x) {j k : Journal} {a : α}
    (run : x.run j = (.ok a, k)) : R a := by
  obtain ⟨b, l, run', hb⟩ := h j
  cases run.symm.trans run'
  exact hb

theorem no_error {x : Logged α} (h : Succeeds R x) {e : Failure} (he : x.result = .error e) :
    False := by
  obtain ⟨a, ha, _⟩ := h.result
  cases he.symm.trans ha

end Succeeds

/-- Whatever value the step comes to is of the given sort. -/
def Yields (R : α → Prop) (x : Logged α) : Prop := ∀ j a k, x.run j = (.ok a, k) → R a

namespace Yields

variable {R : α → Prop} {S : β → Prop}

theorem pure {a : α} (h : R a) : Yields R (Pure.pure a) := by
  intro j b k run
  cases run
  exact h

theorem attempt {x : Attempt α} (h : ∀ a, x = .ok a → R a) : Yields R (Logged.attempt x) := by
  intro j a k run
  rw [run_attempt] at run
  exact h a (Prod.mk.inj run).1

theorem bind {x : Logged α} {f : α → Logged β} (hx : Yields R x)
    (hf : ∀ a, R a → Yields S (f a)) : Yields S (x >>= f) := by
  intro j b l run
  obtain ⟨a, k, first, rest⟩ := run_bind_ok run
  exact hf a (hx j a k first) k b l rest

theorem mono {Q : α → Prop} {x : Logged α} (hx : Yields R x) (h : ∀ a, R a → Q a) :
    Yields Q x := by
  intro j a k run
  exact h a (hx j a k run)

theorem next {x : Logged α} {f : α → Logged β} (hf : ∀ a, Yields S (f a)) : Yields S (x >>= f) :=
  bind (R := fun _ => True) (fun _ _ _ _ => trivial) fun a _ => hf a

theorem mapM {f : α → Logged β} {T : α → β → Prop} {xs : List α}
    (h : ∀ x ∈ xs, Yields (T x) (f x)) : Yields (List.Forall₂ T xs) (xs.mapM f) := by
  induction xs with
  | nil => exact .pure .nil
  | cons x xs ih =>
      rw [List.mapM_cons]
      refine (h x (by simp)).bind fun y hy => ?_
      refine (ih fun z hz => h z (by simp [hz])).bind fun ys hys => ?_
      exact .pure (.cons hy hys)

/-- A fold whose steps can only come to known values comes to the fold of these. -/
theorem foldlM {f : β → α → Logged β} {g : β → α → β} (h : ∀ b a, Yields (· = g b a) (f b a))
    (b : β) (xs : List α) : Yields (· = xs.foldl g b) (xs.foldlM f b) := by
  induction xs generalizing b with
  | nil => exact .pure rfl
  | cons x xs ih =>
      rw [List.foldlM_cons, List.foldl_cons]
      exact (h b x).bind fun c hc => hc ▸ ih (g b x)

theorem of_succeeds {x : Logged α} (hy : Yields R x) {Q : α → Prop} (hx : Succeeds Q x) :
    Succeeds R x := by
  intro j
  obtain ⟨a, k, run, _⟩ := hx j
  exact ⟨a, k, run, hy j a k run⟩

end Yields

/-- Whatever value the step comes to goes with the entries that it makes on the way. -/
def Tells (R : α → Journal → Prop) (x : Logged α) : Prop :=
  ∀ j a k, x.run j = (.ok a, k) → ∃ es, k = j ++ es ∧ R a es

namespace Tells

variable {R : α → Journal → Prop} {S : β → Journal → Prop}

theorem pure {a : α} (h : R a []) : Tells R (Pure.pure a) := by
  intro j b k run
  cases run
  exact ⟨[], (List.append_nil j).symm, h⟩

theorem attempt {x : Attempt α} (h : ∀ a, x = .ok a → R a []) : Tells R (Logged.attempt x) := by
  intro j a k run
  rw [run_attempt] at run
  obtain ⟨ha, rfl⟩ := Prod.mk.inj run
  exact ⟨[], (List.append_nil j).symm, h a ha⟩

theorem note {e : Entry} {R : Unit → Journal → Prop} (h : R () [e]) :
    Tells R (Logged.note e) := by
  intro j a k run
  cases run
  exact ⟨[e], rfl, h⟩

theorem bind {x : Logged α} {f : α → Logged β} (hx : Tells R x)
    (hf : ∀ a es, R a es → Tells (fun b fs => S b (es ++ fs)) (f a)) : Tells S (x >>= f) := by
  intro j b l run
  obtain ⟨a, k, first, rest⟩ := run_bind_ok run
  obtain ⟨es, rfl, ha⟩ := hx j a k first
  obtain ⟨fs, rfl, hb⟩ := hf a es ha _ b l rest
  exact ⟨es ++ fs, List.append_assoc j es fs, hb⟩

theorem mono {Q : α → Journal → Prop} {x : Logged α} (hx : Tells R x)
    (h : ∀ a es, R a es → Q a es) : Tells Q x := by
  intro j a k run
  obtain ⟨es, hk, ha⟩ := hx j a k run
  exact ⟨es, hk, h a es ha⟩

theorem of_adds {P : Entry → Prop} {x : Logged α} (hx : Adds P x) :
    Tells (fun a es => x.result = .ok a ∧ es = x.entries) x := by
  intro j a k run
  rw [hx.run] at run
  obtain ⟨ha, rfl⟩ := Prod.mk.inj run
  exact ⟨x.entries, rfl, ha, rfl⟩

/-- The entries of a traversal are those of its steps, one after the other. -/
theorem mapM {f : α → Logged β} {T : α → β → Journal → Prop} {xs : List α}
    (h : ∀ x ∈ xs, Tells (T x) (f x)) :
    Tells (fun ys es => ∃ made : List (β × Journal),
        List.Forall₂ (fun x m => T x m.1 m.2) xs made ∧
        ys = made.map Prod.fst ∧ es = made.flatMap Prod.snd) (xs.mapM f) := by
  induction xs with
  | nil => exact .pure ⟨[], .nil, rfl, rfl⟩
  | cons x xs ih =>
      rw [List.mapM_cons]
      refine (h x (by simp)).bind fun y es hy => ?_
      refine (ih fun z hz => h z (by simp [hz])).bind ?_
      rintro _ _ ⟨made, all, rfl, rfl⟩
      exact .pure ⟨(y, es) :: made, .cons hy all, rfl, by simp⟩

theorem foldlM {f : β → α → Logged β} {T : α → Journal → Prop}
    (h : ∀ b a, Tells (fun _ es => T a es) (f b a)) (b : β) (xs : List α) :
    Tells (fun _ es => ∃ parts, List.Forall₂ T xs parts ∧ es = parts.flatten)
      (xs.foldlM f b) := by
  induction xs generalizing b with
  | nil => exact .pure ⟨[], .nil, rfl⟩
  | cons x xs ih =>
      rw [List.foldlM_cons]
      refine (h b x).bind fun c es hx => (ih c).mono ?_
      rintro _ _ ⟨parts, all, rfl⟩
      exact ⟨es :: parts, .cons hx all, rfl⟩

theorem entries {x : Logged α} (hx : Tells R x) {a : α} (h : x.result = .ok a) :
    R a x.entries := by
  obtain ⟨es, hes, ha⟩ := hx [] a x.entries (Prod.ext h rfl)
  rw [hes]
  exact ha

end Tells
end Logged
end SdkBlueprint
