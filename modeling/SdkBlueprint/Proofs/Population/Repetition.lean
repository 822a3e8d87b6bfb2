import SdkBlueprint.Proofs.Population.Shapes

/-! Population repeated. Two workshops in which the same keys are finished, over records that are
alike, go through the same steps: what a step comes to depends on no more than that, and it
finishes the same keys in both, whether it succeeds or fails. -/
namespace SdkBlueprint.Population
open SdkBlueprint.Document SdkBlueprint.Schema

/-- Two workshops with the same finished records. The other records are as they were at first. -/
structure Twin (start start' : Table Model) (w w' : Workshop) : Prop where
  finished : w'.finished = w.finished
  same : ∀ key ∈ w.finished, w'.records.get? key = w.records.get? key
  left : ∀ key, key ∉ w.finished → w.records.get? key = start.get? key
  right : ∀ key, key ∉ w.finished → w'.records.get? key = start'.get? key

namespace Twin

variable {start start' : Table Model} {w w' : Workshop}

theorem initial (j k : Journal) : Twin start start' ⟨start, [], j⟩ ⟨start', [], k⟩ := by
  refine ⟨rfl, ?_, fun _ _ => rfl, fun _ _ => rfl⟩
  intro key hk
  cases hk

theorem congr (twin : Twin start start' w w') {v v' : Workshop} (records : v.records = w.records)
    (finished : v.finished = w.finished) (records' : v'.records = w'.records)
    (finished' : v'.finished = w'.finished) : Twin start start' v v' := by
  obtain ⟨_, _, j⟩ := v
  obtain ⟨_, _, k⟩ := v'
  cases records
  cases finished
  cases records'
  cases finished'
  exact ⟨twin.finished, twin.same, twin.left, twin.right⟩

theorem finish (twin : Twin start start' w w') (key : String) (m : Model) (j k : Journal) :
    Twin start start' ⟨w.records.put key m, w.finished ++ [key], j⟩
      ⟨w'.records.put key m, w'.finished ++ [key], k⟩ := by
  constructor
  case finished =>
    change w'.finished ++ [key] = w.finished ++ [key]
    rw [twin.finished]
  case same =>
    intro t ht
    change (w'.records.put key m).get? t = (w.records.put key m).get? t
    rw [Table.get?_put, Table.get?_put]
    split
    · rfl
    · next other =>
      apply twin.same t
      apply (List.mem_append.mp ht).resolve_right
      intro last
      exact other (List.mem_singleton.mp last).symm
  case left =>
    intro t ht
    change t ∉ w.finished ++ [key] at ht
    rw [List.mem_append, not_or, List.mem_singleton] at ht
    change (w.records.put key m).get? t = _
    rw [Table.get?_put, if_neg (Ne.symm ht.2), twin.left t ht.1]
  case right =>
    intro t ht
    change t ∉ w.finished ++ [key] at ht
    rw [List.mem_append, not_or, List.mem_singleton] at ht
    change (w'.records.put key m).get? t = _
    rw [Table.get?_put, if_neg (Ne.symm ht.2), twin.right t ht.1]

end Twin

namespace Build

variable {α β : Type} {start start' : Table Model} {P Q : List String → Prop}
variable {w w' : Workshop}

/-- Two steps, one in each of two workshops, come to the same and leave twins. Both add the same
to what is finished, of which `Q` holds if they succeed. -/
structure Repeats (start start' : Table Model) (Q : List String → Prop) (x y : Build α)
    (w w' : Workshop) : Prop where
  result : (y.run w').1 = (x.run w).1
  twin : Twin start start' (x.run w).2 (y.run w').2
  grown : ∃ more, (x.run w).2.finished = w.finished ++ more
  holds : ∀ a, (x.run w).1 = .ok a → Q (x.run w).2.finished

namespace Repeats

theorem pure (twin : Twin start start' w w') (h : Q w.finished) (a : α) :
    Repeats start start' Q (Pure.pure a) (Pure.pure a) w w' :=
  ⟨rfl, twin, ⟨[], (List.append_nil _).symm⟩, fun _ _ => h⟩

theorem throw (twin : Twin start start' w w') (e : Failure) :
    Repeats start start' Q (MonadExcept.throw e : Build α) (MonadExcept.throw e) w w' := by
  refine ⟨rfl, twin, ⟨[], (List.append_nil _).symm⟩, ?_⟩
  intro a failed
  cases failed

theorem attempt (twin : Twin start start' w w') (h : Q w.finished) (x : Attempt α) :
    Repeats start start' Q (Build.attempt x) (Build.attempt x) w w' := by
  cases x with
  | error e => exact .throw twin e
  | ok a => exact .pure twin h a

theorem logged {R : Entry → Prop} {step : Logged α} (adds : Logged.Adds R step)
    (twin : Twin start start' w w') (h : Q w.finished) :
    Repeats start start' Q (Build.logged step) (Build.logged step) w w' := by
  refine ⟨?_, ?_, ⟨[], (List.append_nil _).symm⟩, fun _ _ => h⟩
  · change (step.run w'.journal).1 = (step.run w.journal).1
    rw [adds.run, adds.run]
  · exact twin.congr rfl rfl rfl rfl

theorem bind {x y : Build α} {f g : α → Build β} (first : Repeats start start' P x y w w')
    (rest : ∀ a v v', Twin start start' v v' → P v.finished →
      Repeats start start' Q (f a) (g a) v v') :
    Repeats start start' Q (x >>= f) (y >>= g) w w' := by
  obtain ⟨result, twin, ⟨more, grown⟩, holds⟩ := first
  rcases hx : x.run w with ⟨r, v⟩
  rcases hy : y.run w' with ⟨r', v'⟩
  rw [hx, hy] at result twin
  rw [hx] at grown holds
  cases result
  have left := run_bind x f w
  have right := run_bind y g w'
  rw [hx] at left
  rw [hy] at right
  cases r with
  | error e =>
      constructor
      case result => rw [left, right]
      case twin =>
        rw [left, right]
        exact twin
      case grown =>
        rw [left]
        exact ⟨more, grown⟩
      case holds =>
        intro b failed
        rw [left] at failed
        cases failed
  | ok a =>
      obtain ⟨result', twin', ⟨more', grown'⟩, holds'⟩ := rest a v v' twin (holds a rfl)
      constructor
      case result =>
        rw [left, right]
        exact result'
      case twin =>
        rw [left, right]
        exact twin'
      case grown =>
        refine ⟨more ++ more', ?_⟩
        rw [left, ← List.append_assoc, ← show v.finished = w.finished ++ more from grown]
        exact grown'
      case holds =>
        intro b
        rw [left]
        exact holds' b

theorem mono {x y : Build α} (h : Repeats start start' P x y w w')
    (weaker : ∀ finished, P finished → Q finished) : Repeats start start' Q x y w w' :=
  ⟨h.result, h.twin, h.grown, fun a ha => weaker _ (h.holds a ha)⟩

theorem record?_bind {key : String} {f g : Option Model → Build α}
    (h : Repeats start start' Q (f (w.records.get? key)) (g (w'.records.get? key)) w w') :
    Repeats start start' Q (record? key >>= f) (record? key >>= g) w w' :=
  ⟨h.result, h.twin, h.grown, h.holds⟩

theorem isFinished_bind {key : String} {f g : Bool → Build α}
    (h : Repeats start start' Q (f (w.finished.contains key)) (g (w'.finished.contains key)) w w') :
    Repeats start start' Q (isFinished key >>= f) (isFinished key >>= g) w w' :=
  ⟨h.result, h.twin, h.grown, h.holds⟩

end Repeats
end Build
open Build

section Steps

variable {schemas : Table Value} (nameOf : String → String) {start start' : Table Model}
variable {chain : List String} {ensure : Ensure schemas chain} {w w' : Workshop}

/-- Parts can be populated again, and are finished then. -/
def Repeatable (start start' : Table Model) (ensure : Ensure schemas chain) : Prop :=
  ∀ t ht hc w w', Twin start start' w w' →
    Repeats start start' (fun finished => t ∈ finished) (ensure t ht hc) (ensure t ht hc) w w'

theorem addReference_repeats (ensured : Repeatable start start' ensure) (current : String)
    (isFirst : Bool) (f : Flattening) (ref : Value) (twin : Twin start start' w w') :
    Repeats start start' (fun _ => True)
      (addReference schemas current chain ensure isFirst f ref)
      (addReference schemas current chain ensure isFirst f ref) w w' := by
  unfold addReference
  refine (Repeats.attempt (Q := fun _ => True) twin trivial _).bind ?_
  intro target v v' twin _
  split
  · exact .throw twin _
  · split
    · next outside registered =>
      refine (ensured target registered outside v v' twin).bind ?_
      intro _ u u' twin finished
      apply Repeats.record?_bind
      rw [twin.same target finished]
      cases u.records.get? target with
      | none => exact .pure twin trivial f
      | some model =>
          cases isFirst with
          | true => exact .pure twin trivial _
          | false => exact .logged (Flattening.addProperties_adds _ _ _ _) twin trivial
    · refine (Repeats.logged (R := ofModels) (Q := fun _ => True) (.note (.inr rfl)) twin
        trivial).bind ?_
      intro _ u u' twin _
      exact .pure twin trivial f

theorem addMember_repeats (ensured : Repeatable start start' ensure) (current : String)
    (isFirst : Bool) (f : Flattening) (member : Value) (twin : Twin start start' w w') :
    Repeats start start' (fun _ => True)
      (addMember schemas nameOf current chain ensure isFirst f member)
      (addMember schemas nameOf current chain ensure isFirst f member) w w' := by
  unfold addMember
  split
  · exact addReference_repeats ensured current isFirst f _ twin
  · split
    · exact .logged (Flattening.addInline_adds nameOf _ _ _) twin trivial
    · exact .pure twin trivial f

theorem addMembers_repeats (ensured : Repeatable start start' ensure) (current : String)
    (isFirst : Bool) (f : Flattening) (members : List Value) (twin : Twin start start' w w') :
    Repeats start start' (fun _ => True)
      (addMembers schemas nameOf current chain ensure isFirst f members)
      (addMembers schemas nameOf current chain ensure isFirst f members) w w' := by
  induction members generalizing isFirst f w w' with
  | nil => exact .pure twin trivial f
  | cons member rest ih =>
      refine (addMember_repeats nameOf ensured current isFirst f member twin).bind ?_
      intro g v v' twin _
      exact ih false g twin

theorem flatten_repeats (ensured : Repeatable start start' ensure) (current : String)
    (allOf : Value) (twin : Twin start start' w w') :
    Repeats start start' (fun _ => True) (flatten schemas nameOf current chain ensure allOf)
      (flatten schemas nameOf current chain ensure allOf) w w' := by
  unfold flatten
  refine (Repeats.attempt (Q := fun _ => True) twin trivial _).bind ?_
  intro members v v' twin _
  refine (addMembers_repeats nameOf ensured current true .empty members twin).bind ?_
  intro f u u' twin _
  exact .pure twin trivial f.withRequired

theorem finishedClass_repeats (ensured : Repeatable start start' ensure) (model : Model)
    (schema : Value) (shape : Shape) (twin : Twin start start' w w') :
    Repeats start start' (fun _ => True)
      (finishedClass schemas nameOf model schema shape chain ensure)
      (finishedClass schemas nameOf model schema shape chain ensure) w w' := by
  have declares : ∀ (make : List Property → Model) {v v' : Workshop}, Twin start start' v v' →
      Repeats start start' (fun _ => True)
        (Build.logged (ownProperties nameOf schema model.key) >>= fun own => Pure.pure (make own))
        (Build.logged (ownProperties nameOf schema model.key) >>= fun own => Pure.pure (make own))
        v v' := by
    intro make v v' twin
    refine (Repeats.logged (Q := fun _ => True) (ownProperties_adds nameOf _ _) twin
      trivial).bind ?_
    intro own u u' twin _
    exact .pure twin trivial _
  unfold finishedClass
  simp only []
  split
  · refine (flatten_repeats nameOf ensured model.key _ twin).bind ?_
    intro f v v' twin _
    exact declares _ twin
  · refine (Repeats.pure (Q := fun _ => True) twin trivial Flattening.empty).bind ?_
    intro f v v' twin _
    exact declares _ twin

theorem finishedModel_repeats (ensured : Repeatable start start' ensure) (model : Model)
    (schema : Value) (twin : Twin start start' w w') :
    Repeats start start' (fun _ => True)
      (finishedModel schemas nameOf model schema chain ensure)
      (finishedModel schemas nameOf model schema chain ensure) w w' := by
  unfold finishedModel
  split
  · exact .attempt twin trivial _
  · exact .logged (finishedUnion_adds nameOf _ _) twin trivial
  · exact finishedClass_repeats nameOf ensured model schema _ twin

end Steps

section Runs

variable {schemas : Table Value} (nameOf : String → String) {start start' : Table Model}

/-- Population of a key comes to the same over like records, and leaves the key finished. -/
theorem populate_repeats (alike : Alike schemas start start') (complete : start.names = schemas.names)
    (key : String) (visited : List String) {w w' : Workshop} (twin : Twin start start' w w') :
    Repeats start start' (fun finished => key ∈ schemas.names → key ∈ finished)
      (populate schemas nameOf key visited) (populate schemas nameOf key visited) w w' := by
  rw [populate]
  apply Repeats.isFinished_bind
  rw [twin.finished]
  by_cases finished : key ∈ w.finished
  · rw [if_pos (List.contains_iff_mem.mpr finished)]
    exact .pure twin (fun _ => finished) ()
  · rw [if_neg (mt List.contains_iff_mem.mp finished)]
    apply Repeats.record?_bind
    rw [twin.left key finished, twin.right key finished]
    cases declared : start.get? key with
    | none =>
        have unknown : key ∉ schemas.names := by
          rw [← complete, ← Table.get?_eq_none_iff]
          exact declared
        have unknown' : start'.get? key = none := by
          rw [Table.get?_eq_none_iff, ← alike.names, complete]
          exact unknown
        rw [unknown']
        exact .pure twin (fun known => absurd known unknown) ()
    | some model =>
        obtain ⟨model', declared', same⟩ := alike.partner declared
        have fits := alike.left key model declared
        have fits' := alike.right key model' declared'
        rw [declared']
        change Repeats _ _ _ (finishedModel schemas nameOf model (schemaAt schemas key) _ _ >>= _)
          (finishedModel schemas nameOf model' (schemaAt schemas key) _ _ >>= _) w w'
        rw [← finishedModel_alike _ fits fits' same]
        -- Parts are populated with the key among those visited, which leaves fewer to visit.
        refine (finishedModel_repeats nameOf (fun t ht hc v v' twin => ?_) model _ twin).bind ?_
        · exact (populate_repeats alike complete t (key :: visited) twin).mono fun _ h => h ht
        · intro built v v' twin _
          refine ⟨rfl, twin.finish key built _ _, ⟨[key], rfl⟩, fun _ _ _ => ?_⟩
          exact List.mem_append_right _ (List.mem_singleton.mpr rfl)
termination_by (schemas.names.filter fun k => k ∉ key :: visited).length
decreasing_by exact outside_lt ht hc

theorem populateEach_repeats (alike : Alike schemas start start')
    (complete : start.names = schemas.names) (keys : List String) {w w' : Workshop}
    (twin : Twin start start' w w') :
    Repeats start start' (fun _ => True) (populateEach schemas nameOf keys)
      (populateEach schemas nameOf keys) w w' := by
  induction keys generalizing w w' with
  | nil => exact .pure twin trivial ()
  | cons key keys ih =>
      refine (populate_repeats nameOf alike complete key [] twin).bind ?_
      intro _ v v' twin _
      exact ih twin

end Runs
end SdkBlueprint.Population
