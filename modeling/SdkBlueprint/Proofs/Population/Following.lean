import SdkBlueprint.Proofs.Population.Workshop

/-! Population follows the reading of the schemas. A step that builds what it needs on
demand comes to what is read off the finished records, and what it notes apart from the
products on the way is what the reading notes. It fails when the reading does, or when a
composition leads back to where it came from. -/
namespace SdkBlueprint.Population
open SdkBlueprint.Document SdkBlueprint.Schema

/-- What can be read in a workshop are the records of the finished keys. -/
def Shows (w : Workshop) (look : String → Model) : Prop :=
  ∀ t ∈ w.finished, w.records.get? t = some (look t)

section

variable (schemas : Table Value) (nameOf : String → String) (start : Table Model)
variable (scope : String → Prop) (E : Failure → Workshop → Prop)

/-- The step has stored products whose keys are in scope, and it came to a value of which `Q`
holds or to an expected failure. -/
def Passes {α : Type} (w : Workshop) (Q : α → List Product → Workshop → Prop)
    (r : Attempt α) (w' : Workshop) : Prop :=
  ∃ ps, Moves schemas nameOf start w w' ps ∧ (∀ p ∈ ps, scope p.key) ∧
    match r with
    | .ok a => Q a ps w'
    | .error e => E e w'

/-- The step leaves the target finished and notes nothing but what its products note. -/
def Prepares (target : String) (x : Build Unit) : Prop :=
  ∀ w, Sound schemas nameOf start w →
    Build.Ends x w (Passes schemas nameOf start scope E w fun _ ps w' =>
      target ∈ w'.finished ∧ w'.journal.Perm (w.journal ++ notesOf ps))

/-- The failure is an expected one, or the reading comes to it. -/
def Fails {α : Type} (y : (String → Model) → Logged α) (e : Failure) (w : Workshop) : Prop :=
  E e w ∨ ∀ look, Shows w look → (y look).result = .error e

/-- The step comes to what the reading comes to, with the keys in `T` finished. -/
structure Follows {α : Type} (T : String → Prop) (x : Build α)
    (y : (String → Model) → Logged α) : Prop where
  adds : ∀ look, Logged.Adds ofModels (y look)
  run : ∀ w, Sound schemas nameOf start w →
    Build.Ends x w (Passes schemas nameOf start scope (Fails E y) w fun a ps w' =>
      (∀ t, T t → t ∈ w'.finished) ∧
      ∃ notes, w'.journal.Perm (w.journal ++ notesOf ps ++ notes) ∧
        ∀ look, Shows w' look → (y look).run [] = (.ok a, notes))

end

variable {schemas : Table Value} {nameOf : String → String} {start : Table Model}
variable {scope : String → Prop} {E : Failure → Workshop → Prop} {α β : Type}

theorem Shows.before {w w' : Workshop} {ps : List Product} {look : String → Model}
    (h : Shows w' look) (step : Moves schemas nameOf start w w' ps) : Shows w look := by
  intro t ht
  rw [← step.record_of_finished ht]
  exact h t (step.finished_subset t ht)

theorem Sound.shows {w : Workshop} (h : Sound schemas nameOf start w) : ∃ look, Shows w look := by
  classical
  refine ⟨fun t => (w.records.get? t).getD (.skeleton t t t false none), fun t ht => ?_⟩
  obtain ⟨p, _, _, hr⟩ := h.product ht
  simp only [hr, Option.getD_some]

theorem perm_of_two {j j' j'' ns ns' k k' : Journal} (first : j'.Perm (j ++ ns ++ k))
    (second : j''.Perm (j' ++ ns' ++ k')) : j''.Perm (j ++ (ns ++ ns') ++ (k ++ k')) := by
  refine second.trans (((first.append_right ns').append_right k').trans ?_)
  simp only [List.append_assoc]
  refine (List.Perm.append_left _ (List.Perm.append_left _ ?_))
  simp only [← List.append_assoc]
  exact List.perm_append_comm.append_right _

namespace Fails

variable {y : (String → Model) → Logged α} {g : α → (String → Model) → Logged β} {e : Failure}
variable {w : Workshop}

/-- Where the first of two readings fails, so does the reading that joins them. -/
theorem bind_left {P : Entry → Prop} (adds : ∀ a look, Logged.Adds P (g a look))
    (h : Fails E y e w) : Fails E (fun look => y look >>= fun a => g a look) e w := by
  refine h.imp_right fun failed look shown => ?_
  rw [Logged.result_bind fun a => adds a look, failed look shown]

theorem bind_right {P : Entry → Prop} (adds : ∀ a look, Logged.Adds P (g a look)) {a : α}
    (came : ∀ look, Shows w look → (y look).result = .ok a) (h : Fails E (g a) e w) :
    Fails E (fun look => y look >>= fun a => g a look) e w := by
  refine h.imp_right fun failed look shown => ?_
  rw [Logged.result_bind fun a => adds a look, came look shown]
  exact failed look shown

end Fails

namespace Passes

variable {w : Workshop} {Q : α → List Product → Workshop → Prop}

theorem still {r : Attempt α} {w' : Workshop} (records : w'.records = w.records)
    (finished : w'.finished = w.finished)
    (h : match r with
      | .ok a => Q a [] w'
      | .error e => E e w') : Passes schemas nameOf start scope E w Q r w' := by
  refine ⟨[], ⟨records, ?_, .nil⟩, by simp, h⟩
  rw [finished, List.map_nil, List.append_nil]

theorem weaken {scope' : String → Prop} {F : Failure → Workshop → Prop} {r : Attempt α}
    {w' : Workshop} (h : Passes schemas nameOf start scope E w Q r w')
    (wider : ∀ k, scope k → scope' k)
    (expected : ∀ e ps, Moves schemas nameOf start w w' ps → E e w' → F e w') :
    Passes schemas nameOf start scope' F w Q r w' := by
  obtain ⟨ps, moves, within, q⟩ := h
  refine ⟨ps, moves, fun p hp => wider _ (within p hp), ?_⟩
  cases r with
  | ok a => exact q
  | error e => exact expected e ps moves q

theorem imp {Q' : α → List Product → Workshop → Prop} {r : Attempt α} {w' : Workshop}
    (h : Passes schemas nameOf start scope E w Q r w')
    (weaker : ∀ a ps, Moves schemas nameOf start w w' ps → Q a ps w' → Q' a ps w') :
    Passes schemas nameOf start scope E w Q' r w' := by
  obtain ⟨ps, moves, within, q⟩ := h
  refine ⟨ps, moves, within, ?_⟩
  cases r with
  | ok a => exact weaker a ps moves q
  | error e => exact q

theorem bind {x : Build α} {f : α → Build β} {S : β → List Product → Workshop → Prop}
    (h : Build.Ends x w (Passes schemas nameOf start scope E w Q))
    (next : ∀ a ps w', Moves schemas nameOf start w w' ps → Q a ps w' →
      Build.Ends (f a) w' (Passes schemas nameOf start scope E w' fun b qs w'' =>
        S b (ps ++ qs) w'')) :
    Build.Ends (x >>= f) w (Passes schemas nameOf start scope E w S) := by
  refine h.bind (fun a w' ⟨ps, moves, within, q⟩ => ?_) fun e w' ⟨ps, moves, within, he⟩ =>
    ⟨ps, moves, within, he⟩
  refine (next a ps w' moves q).mono fun r w'' ⟨qs, moves', within', s⟩ => ?_
  refine ⟨ps ++ qs, moves.trans moves', fun p hp => ?_, ?_⟩
  · exact (List.mem_append.mp hp).elim (within p) (within' p)
  · cases r with
    | ok b => exact s
    | error e => exact s

end Passes

namespace Follows

variable {T T' : String → Prop}

theorem mono {x : Build α} {y : (String → Model) → Logged α}
    (h : Follows schemas nameOf start scope E T x y) (fewer : ∀ t, T' t → T t) :
    Follows schemas nameOf start scope E T' x y := by
  refine ⟨h.adds, fun w hw => (h.run w hw).mono fun r w' passes => passes.imp ?_⟩
  exact fun a ps _ q => ⟨fun t ht => q.1 t (fewer t ht), q.2⟩

theorem logged {step : Logged α} (adds : Logged.Adds ofModels step) :
    Follows schemas nameOf start scope E (fun _ => False) (Build.logged step) fun _ => step := by
  refine ⟨fun _ => adds, fun w _ => Build.ends_logged adds (.still rfl rfl ?_)⟩
  cases hr : step.result with
  | error e => exact .inr fun _ _ => hr
  | ok a =>
      refine ⟨fun t ht => ht.elim, step.entries, ?_, fun look _ => ?_⟩
      · simp [notesOf]
      · rw [adds.run, hr, List.nil_append]

theorem attempt (x : Attempt α) :
    Follows schemas nameOf start scope E (fun _ => False) (Build.attempt x)
      fun _ => Logged.attempt x := by
  refine ⟨fun _ => .attempt x, fun w _ => Build.ends_attempt (.still rfl rfl ?_)⟩
  cases x with
  | error e => exact .inr fun _ _ => rfl
  | ok a => exact ⟨fun t ht => ht.elim, [], by simp [notesOf], fun look _ => rfl⟩

theorem pure (a : α) :
    Follows schemas nameOf start scope E (fun _ => False) (Pure.pure a)
      fun _ => (Pure.pure a : Logged α) := by
  refine ⟨fun _ => .pure a, fun w _ => Build.ends_pure (.still rfl rfl ?_)⟩
  exact ⟨fun t ht => ht.elim, [], by simp [notesOf], fun look _ => rfl⟩

theorem throw {e : Failure} {y : (String → Model) → Logged α}
    (adds : ∀ look, Logged.Adds ofModels (y look)) (expected : ∀ w, Fails E y e w) :
    Follows schemas nameOf start scope E T (MonadExcept.throw e) y :=
  ⟨adds, fun w _ => Build.ends_throw (.still rfl rfl (expected w))⟩

theorem bind {x : Build α} {y : (String → Model) → Logged α} {f : α → Build β}
    {g : α → (String → Model) → Logged β} (h : Follows schemas nameOf start scope E T x y)
    (next : ∀ a, Follows schemas nameOf start scope E T' (f a) (g a)) :
    Follows schemas nameOf start scope E (fun t => T t ∨ T' t) (x >>= f)
      fun look => y look >>= fun a => g a look := by
  refine ⟨fun look => (h.adds look).bind fun a => (next a).adds look, fun w hw => ?_⟩
  have adds := fun a => (next a).adds
  have first := (h.run w hw).mono fun r w' passes =>
    passes.weaken (fun _ hk => hk) fun e _ _ he => he.bind_left adds
  refine Passes.bind first fun a ps w' moves ⟨ready, notes, noted, reads⟩ => ?_
  have second := ((next a).run w' (hw.moves moves)).mono fun r w'' passes =>
    passes.weaken (fun _ hk => hk) fun e _ moves' he => he.bind_right adds fun look shown =>
      congrArg Prod.fst (reads look (shown.before moves'))
  refine second.mono fun r w'' passes => passes.imp ?_
  rintro b qs moves' ⟨ready', notes', noted', reads'⟩
  refine ⟨fun t ht => ?_, notes ++ notes', ?_, fun look shown => ?_⟩
  · exact ht.elim (fun ht => moves'.finished_subset t (ready t ht)) (ready' t)
  · rw [notesOf_append]
    exact perm_of_two noted noted'
  · -- What can be read in the end could be read after the first step.
    rw [Logged.run_bind, reads look (shown.before moves')]
    have rest := reads' look shown
    rw [((next a).adds look).run, List.nil_append] at rest
    obtain ⟨result, entries⟩ := Prod.mk.inj rest
    simp only [((next a).adds look).run, result, entries]

/-- A target is prepared and then its record is read. -/
theorem prepared {target : String} {x : Build Unit} {f : Option Model → Build α}
    {g : Model → Logged α} (h : Prepares schemas nameOf start scope E target x)
    (next : ∀ m, Follows schemas nameOf start scope E (fun _ => False) (f (some m))
      fun _ => g m) :
    Follows schemas nameOf start scope E (fun t => t = target)
      (x >>= fun _ => Build.record? target >>= f) fun look => g (look target) := by
  refine ⟨fun look => (next (look target)).adds look, fun w hw => ?_⟩
  have first := (h w hw).mono fun r w' passes => passes.weaken (fun _ hk => hk)
    (F := Fails E fun look => g (look target)) fun e _ _ he => .inl he
  refine Passes.bind first fun _ ps w' moves ⟨ready, noted⟩ => ?_
  have sound := hw.moves moves
  obtain ⟨p, _, _, hr⟩ := sound.product ready
  refine Build.ends_record?_bind (hr ▸ ?_)
  have shows : ∀ {w'' qs look}, Moves schemas nameOf start w' w'' qs → Shows w'' look →
      look target = p.model := by
    intro w'' qs look moves' shown
    have read := shown.before moves' target ready
    rw [hr, Option.some.injEq] at read
    exact read.symm
  have second := ((next p.model).run w' sound).mono fun r w'' passes =>
    passes.weaken (fun _ hk => hk) (F := Fails E fun look => g (look target))
      fun e _ moves' he => he.imp_right fun failed look shown => by
        simp only [shows moves' shown]
        exact failed look shown
  refine second.mono fun r w'' passes => passes.imp ?_
  rintro b qs moves' ⟨_, notes, noted', reads⟩
  refine ⟨fun t ht => ?_, notes, ?_, fun look shown => ?_⟩
  · exact ht ▸ moves'.finished_subset target ready
  · rw [notesOf_append]
    have first : w'.journal.Perm (w.journal ++ notesOf ps ++ []) := by simpa using noted
    simpa using perm_of_two first noted'
  · exact (shows moves' shown).symm ▸ reads look shown

end Follows
end SdkBlueprint.Population
