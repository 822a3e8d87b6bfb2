import SdkBlueprint.Journal

/-! Sorts of errors. What a step may fail with is known from what its parts may fail with. -/
namespace SdkBlueprint

/-- Whatever error the step ends in is of one sort. -/
def FailsAs {ε α : Type} (P : ε → Prop) (x : Except ε α) : Prop := ∀ e, x = .error e → P e

namespace FailsAs

variable {ε α β : Type} {P Q : ε → Prop}

theorem ok (a : α) : FailsAs P (.ok a : Except ε α) := fun _ h => nomatch h

theorem error {e : ε} (h : P e) : FailsAs P (.error e : Except ε α) := by
  rintro _ ⟨⟩
  exact h

theorem mono {x : Except ε α} (hx : FailsAs P x) (h : ∀ e, P e → Q e) : FailsAs Q x :=
  fun e he => h e (hx e he)

theorem bind {x : Except ε α} {f : α → Except ε β} (hx : FailsAs P x)
    (hf : ∀ a, x = .ok a → FailsAs P (f a)) : FailsAs P (x >>= f) := by
  cases x with
  | error e => exact error (hx e rfl)
  | ok a => exact hf a rfl

theorem map {x : Except ε α} (f : α → β) (hx : FailsAs P x) : FailsAs P (x.map f) := by
  cases x with
  | error e => exact error (hx e rfl)
  | ok a => exact ok (f a)

theorem mapM {f : α → Except ε β} {xs : List α} (h : ∀ x ∈ xs, FailsAs P (f x)) :
    FailsAs P (xs.mapM f) := by
  induction xs with
  | nil => exact ok []
  | cons x xs ih =>
      rw [List.mapM_cons]
      refine (h x (by simp)).bind fun y _ => ?_
      exact (ih fun z hz => h z (by simp [hz])).bind fun ys _ => ok (y :: ys)

theorem foldlM {f : β → α → Except ε β} {xs : List α} (h : ∀ b, ∀ x ∈ xs, FailsAs P (f b x))
    (b : β) : FailsAs P (xs.foldlM f b) := by
  induction xs generalizing b with
  | nil => exact ok b
  | cons x xs ih =>
      rw [List.foldlM_cons]
      exact (h b x (by simp)).bind fun c _ => ih (fun d z hz => h d z (by simp [hz])) c

end FailsAs

/-- Whatever error a step with a state ends in is of one sort, from every state. -/
def StepFails {σ α : Type} (P : Failure → Prop) (x : ExceptT Failure (StateM σ) α) : Prop :=
  ∀ s, FailsAs P (x.run s).1

namespace StepFails

variable {σ α β : Type} {P : Failure → Prop}

theorem run_bind (x : ExceptT Failure (StateM σ) α) (f : α → ExceptT Failure (StateM σ) β) (s : σ) :
    (x >>= f).run s = match x.run s with
      | (.ok a, s') => (f a).run s'
      | (.error e, s') => (.error e, s') := by
  simp only [ExceptT.run, bind, ExceptT.bind, ExceptT.mk, StateT.bind, ExceptT.bindCont]
  rcases x s with ⟨r | a, s'⟩ <;> rfl

theorem pure (a : α) : StepFails P (Pure.pure a : ExceptT Failure (StateM σ) α) := fun _ => .ok a

theorem throw {e : Failure} (h : P e) :
    StepFails P (MonadExcept.throw e : ExceptT Failure (StateM σ) α) := fun _ => .error h

theorem bind {x : ExceptT Failure (StateM σ) α} {f : α → ExceptT Failure (StateM σ) β}
    (hx : StepFails P x) (hf : ∀ a, StepFails P (f a)) : StepFails P (x >>= f) := by
  intro s
  rw [run_bind]
  rcases run : x.run s with ⟨e | a, s'⟩
  · exact .error (hx s e (by rw [run]))
  · exact hf a s'

/-- A step that is taken under a condition only, before the others. -/
theorem given {c : Prop} [Decidable c] {x : ExceptT Failure (StateM σ) Unit}
    {f : Unit → ExceptT Failure (StateM σ) β} (hx : StepFails P x) (hf : ∀ a, StepFails P (f a)) :
    StepFails P (if c then x >>= f else f ()) := by
  split
  · exact hx.bind hf
  · exact hf ()

theorem modify (f : σ → σ) : StepFails P (modify f : ExceptT Failure (StateM σ) Unit) :=
  fun _ => .ok ()

theorem mono {Q : Failure → Prop} {x : ExceptT Failure (StateM σ) α} (hx : StepFails P x)
    (h : ∀ e, P e → Q e) : StepFails Q x := fun s => (hx s).mono h

theorem mapM {f : α → ExceptT Failure (StateM σ) β} {xs : List α}
    (h : ∀ x ∈ xs, StepFails P (f x)) : StepFails P (xs.mapM f) := by
  induction xs with
  | nil => exact .pure []
  | cons x xs ih =>
      rw [List.mapM_cons]
      refine (h x (by simp)).bind fun y => ?_
      exact (ih fun z hz => h z (by simp [hz])).bind fun ys => .pure (y :: ys)

theorem foldlM {f : β → α → ExceptT Failure (StateM σ) β} (h : ∀ b a, StepFails P (f b a))
    (b : β) (xs : List α) : StepFails P (xs.foldlM f b) := by
  induction xs generalizing b with
  | nil => exact .pure b
  | cons x xs ih =>
      rw [List.foldlM_cons]
      exact (h b x).bind ih

theorem forM {f : α → ExceptT Failure (StateM σ) Unit} (h : ∀ a, StepFails P (f a)) (xs : List α) :
    StepFails P (xs.forM f) := by
  induction xs with
  | nil => exact .pure ()
  | cons x xs ih => exact (h x).bind fun _ => ih

theorem attempt {x : Attempt α} (h : FailsAs P x) : StepFails P (Logged.attempt x) := by
  cases x with
  | error e => exact .throw (h e rfl)
  | ok a => exact .pure a

theorem note (e : Entry) : StepFails P (Logged.note e) := .modify _

end StepFails

/-- No check expects the failure; it is no error that the program reports by itself. -/
def Failure.IsUnexpected (f : Failure) : Prop := f.category? = none

theorem misuse_fails {α : Type} (cause : Misuse) :
    FailsAs Failure.IsUnexpected (misuse cause : Attempt α) := .error rfl

theorem invalidField_fails {α : Type} (record : RecordKind) (field : String) :
    FailsAs Failure.IsUnexpected (invalidField record field : Attempt α) := .error rfl

end SdkBlueprint
