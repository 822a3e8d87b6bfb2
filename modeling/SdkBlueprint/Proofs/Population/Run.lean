import SdkBlueprint.Proofs.Population.Reading
import SdkBlueprint.Proofs.Population.Following

/-! A run of population. Every schema is built once its parts are, and over well-typed
schemas a run fails for one reason only: a composition that leads back to itself. -/
namespace SdkBlueprint.Population
open SdkBlueprint.Document SdkBlueprint.Schema Relation

section Following

variable {schemas : Table Value} {nameOf : String → String} {start : Table Model}

section Raised

variable (schemas nameOf start) (e : Failure) (w : Workshop)

/-- The chain on which a failure was raised, from a key down to the schema that was being
built. That refers back to the chain or to a key visited before, or it cannot be read.
Nothing on the chain is finished. -/
inductive RaisedOn : String → List String → List String → Prop
  | back {key visited t} (waiting : key ∉ w.finished) (refers : Refers schemas key t)
      (closed : t ∈ key :: visited) (reported : e = .circular key t) :
      RaisedOn key visited [key]
  | reading {key visited skeleton} (waiting : key ∉ w.finished)
      (declared : start.get? key = some skeleton)
      (failed : ∀ look, Shows w look →
        (readModel schemas nameOf look skeleton (schemaAt schemas key)).result = .error e) :
      RaisedOn key visited [key]
  | part {key visited t chain} (waiting : key ∉ w.finished) (edge : Composes schemas key t)
      (inner : RaisedOn t (key :: visited) chain) : RaisedOn key visited (key :: chain)

end Raised

/-- While a key was built, a reference led back to the chain or a part could not be built. -/
def Interrupted (schemas : Table Value) (nameOf : String → String) (start : Table Model)
    (key : String) (visited : List String) (e : Failure) (w : Workshop) : Prop :=
  (∃ t, Refers schemas key t ∧ t ∈ key :: visited ∧ e = .circular key t) ∨
    ∃ t chain, Composes schemas key t ∧
      RaisedOn schemas nameOf start e w t (key :: visited) chain

/-- What the build of a key may store before it stores the key: keys that it leads to, and
none that is visited. -/
def Below (schemas : Table Value) (key : String) (visited : List String) (k : String) : Prop :=
  ReflTransGen (Composes schemas) key k ∧ k ∉ key :: visited

/-- What a call for a key may store: keys that it leads to, and of those visited only itself. -/
def Within (schemas : Table Value) (key : String) (visited : List String) (k : String) : Prop :=
  ReflTransGen (Composes schemas) key k ∧ (k ∈ visited → k = key)

theorem Below.within {key : String} {visited : List String} {k : String}
    (h : Below schemas key visited k) : Within schemas key visited k :=
  ⟨h.1, fun hv => absurd (List.mem_cons_of_mem _ hv) h.2⟩

/-- The parts of a key are prepared on demand, with the key among those visited. -/
def Ensured (schemas : Table Value) (nameOf : String → String) (start : Table Model)
    (key : String) (visited : List String) (ensure : Ensure schemas (key :: visited)) : Prop :=
  ∀ t ht hc, Composes schemas key t → Prepares schemas nameOf start (Below schemas key visited)
    (Interrupted schemas nameOf start key visited) t (ensure t ht hc)

variable {key : String} {visited : List String} {ensure : Ensure schemas (key :: visited)}

theorem takeUp_follows {scope : String → Prop} {E : Failure → Workshop → Prop}
    {current : String} (isFirst : Bool) (f : Flattening) (model : Model) :
    Follows schemas nameOf start scope E (fun _ => False)
      (if isFirst then return { f with parent := some model.name }
      else
        Build.logged <| Flattening.addProperties current model.name
          { f with mixins := f.mixins ++ [model.name] } model.properties)
      fun _ => takeUp current isFirst f model := by
  unfold takeUp
  cases isFirst with
  | true => exact .pure _
  | false => exact .logged (Flattening.addProperties_adds _ _ _ _)

theorem addReference_follows (ensured : Ensured schemas nameOf start key visited ensure)
    {m ref : Value} (hm : m ∈ composedMembers (schemaAt schemas key)) (hr : ref? m = some ref)
    (isFirst : Bool) (f : Flattening) :
    Follows schemas nameOf start (Below schemas key visited)
      (Interrupted schemas nameOf start key visited)
      (fun t => t ∈ schemas.names ∧ targetKey ref = .ok t)
      (addReference schemas key (key :: visited) ensure isFirst f ref)
      fun look => readReference schemas look key isFirst f ref := by
  have adds := fun look => readReference_adds schemas look key isFirst f ref
  cases ht : targetKey ref with
  | error e =>
      rw [addReference, ht, Build.attempt_error_bind]
      refine .throw adds fun w => .inr fun look _ => ?_
      simp only [readReference, ht, Logged.attempt_error_bind]
      rfl
  | ok target =>
      have refers : Refers schemas key target := ⟨m, hm, ref, hr, ht⟩
      simp only [addReference, readReference, ht, Logged.attempt_ok_bind] at adds ⊢
      rw [Build.attempt_ok_bind]
      by_cases onChain : target ∈ key :: visited
      · rw [dif_pos onChain]
        exact .throw adds fun w => .inl (.inl ⟨target, refers, onChain, rfl⟩)
      · rw [dif_neg onChain]
        by_cases known : target ∈ schemas.names
        · simp only [dif_pos known, if_pos known]
          refine Follows.mono (Follows.prepared (g := takeUp key isFirst f)
            (ensured target known onChain ⟨known, refers⟩) fun model => ?_) ?_
          · exact takeUp_follows isFirst f model
          · exact fun t same => (Except.ok.inj same.2).symm
        · simp only [dif_neg known, if_neg known]
          refine Follows.mono (Follows.bind (.logged (.note (.inr rfl))) fun _ => .pure f) ?_
          rintro t ⟨ht', same⟩
          exact absurd (Except.ok.inj same ▸ ht') known

theorem addMember_follows (ensured : Ensured schemas nameOf start key visited ensure)
    {m : Value} (hm : m.isMap → m ∈ composedMembers (schemaAt schemas key))
    (isFirst : Bool) (f : Flattening) :
    Follows schemas nameOf start (Below schemas key visited)
      (Interrupted schemas nameOf start key visited)
      (fun t => ∃ ref, ref? m = some ref ∧ t ∈ schemas.names ∧ targetKey ref = .ok t)
      (addMember schemas nameOf key (key :: visited) ensure isFirst f m)
      fun look => readMember schemas nameOf look key isFirst f m := by
  unfold addMember readMember
  cases hr : ref? m with
  | some ref =>
      refine (addReference_follows ensured (hm (isMap_of_ref? hr)) hr isFirst f).mono ?_
      rintro t ⟨_, hs, ht⟩
      exact Option.some.inj hs ▸ ht
  | none =>
      refine Follows.mono (T := fun _ => False) ?_ (by simp)
      by_cases hmap : m.isMap = true
      · simp only [if_pos hmap]
        exact .logged (Flattening.addInline_adds nameOf _ _ _)
      · simp only [if_neg hmap]
        exact .pure f

theorem addMembers_follows (ensured : Ensured schemas nameOf start key visited ensure)
    {members : List Value}
    (hm : ∀ m ∈ members, m.isMap → m ∈ composedMembers (schemaAt schemas key))
    (isFirst : Bool) (f : Flattening) :
    Follows schemas nameOf start (Below schemas key visited)
      (Interrupted schemas nameOf start key visited)
      (fun t => ∃ m ∈ members, ∃ ref, ref? m = some ref ∧ t ∈ schemas.names ∧
        targetKey ref = .ok t)
      (addMembers schemas nameOf key (key :: visited) ensure isFirst f members)
      fun look => readMembers schemas nameOf look key isFirst f members := by
  induction members generalizing isFirst f with
  | nil => exact (Follows.pure f).mono (by simp)
  | cons m rest ih =>
      refine Follows.mono (Follows.bind
        (addMember_follows ensured (hm m (by simp)) isFirst f)
        fun g => ih (fun n hn => hm n (by simp [hn])) false g) ?_
      rintro t ⟨n, hn, ht⟩
      rcases List.mem_cons.mp hn with rfl | hn
      · exact .inl ht
      · exact .inr ⟨n, hn, ht⟩

theorem flatten_follows (ensured : Ensured schemas nameOf start key visited ensure)
    (composed : classify (schemaAt schemas key) = .composed) :
    Follows schemas nameOf start (Below schemas key visited)
      (Interrupted schemas nameOf start key visited)
      (Composes schemas key)
      (flatten schemas nameOf key (key :: visited) ensure ((schemaAt schemas key).field "allOf"))
      fun look => readAllOf schemas nameOf look key ((schemaAt schemas key).field "allOf") := by
  have listed : composedMembers (schemaAt schemas key) =
      itemsOf ((schemaAt schemas key).field "allOf") := if_pos composed
  unfold flatten readAllOf
  cases hi : iterate ((schemaAt schemas key).field "allOf") with
  | error e =>
      simp only [Build.attempt_error_bind, Logged.attempt_error_bind]
      exact .throw (fun _ => .throw e) fun _ => .inr fun _ _ => rfl
  | ok members =>
      simp only [Build.attempt_ok_bind, Logged.attempt_ok_bind]
      have inside : ∀ m ∈ members, m.isMap → m ∈ composedMembers (schemaAt schemas key) :=
        fun m hm hmap => listed ▸ mem_itemsOf_of_isMap hi hm hmap
      refine Follows.mono (Follows.bind
        (addMembers_follows ensured inside true Flattening.empty)
        fun f => .pure f.withRequired) ?_
      rintro t ⟨ht, m, hm, ref, hr, hk⟩
      exact .inl ⟨m, mem_of_mem_itemsOf hi (listed ▸ hm), ref, hr, ht, hk⟩

theorem finishedClass_follows (ensured : Ensured schemas nameOf start key visited ensure)
    {model : Model} (keyed : model.key = key) {shape : Shape}
    (hc : classify (schemaAt schemas key) = shape) :
    Follows schemas nameOf start (Below schemas key visited)
      (Interrupted schemas nameOf start key visited)
      (Composes schemas key)
      (finishedClass schemas nameOf model (schemaAt schemas key) shape (key :: visited) ensure)
      fun look => readClass schemas nameOf look model (schemaAt schemas key) shape := by
  subst hc
  unfold finishedClass readClass
  rw [keyed]
  by_cases composed : classify (schemaAt schemas key) = .composed
  · have isComposed : (classify (schemaAt schemas key) == .composed) = true :=
      beq_iff_eq.mpr composed
    simp only [isComposed, if_true]
    refine Follows.mono (Follows.bind (flatten_follows ensured composed) fun f =>
      Follows.bind (.logged (ownProperties_adds nameOf _ _)) fun own => .pure _) ?_
    exact fun t ht => .inl ht
  · have plain : (classify (schemaAt schemas key) == .composed) = false :=
      beq_eq_false_iff_ne.mpr composed
    simp only [plain, Bool.false_eq_true, if_false]
    refine Follows.mono (Follows.bind (.pure Flattening.empty) fun f =>
      Follows.bind (.logged (ownProperties_adds nameOf _ _)) fun own => .pure _) ?_
    rintro t ⟨_, m, hm, _⟩
    rw [composedMembers, if_neg composed] at hm
    cases hm

theorem finishedModel_follows (ensured : Ensured schemas nameOf start key visited ensure)
    {model : Model} (keyed : model.key = key) :
    Follows schemas nameOf start (Below schemas key visited)
      (Interrupted schemas nameOf start key visited)
      (Composes schemas key)
      (finishedModel schemas nameOf model (schemaAt schemas key) (key :: visited) ensure)
      fun look => readModel schemas nameOf look model (schemaAt schemas key) := by
  have parts : ∀ t, Composes schemas key t → classify (schemaAt schemas key) = .composed := by
    rintro t ⟨_, m, hm, _⟩
    unfold composedMembers at hm
    split at hm
    · assumption
    · cases hm
  cases hc : classify (schemaAt schemas key) with
  | enumeration =>
      simp only [finishedModel, readModel, hc]
      refine Follows.mono (.attempt _) fun t ht => ?_
      cases hc.symm.trans (parts t ht)
  | union =>
      simp only [finishedModel, readModel, hc]
      refine Follows.mono (.logged (finishedUnion_adds nameOf _ _)) fun t ht => ?_
      cases hc.symm.trans (parts t ht)
  | composed =>
      simp only [finishedModel, readModel, hc]
      exact finishedClass_follows ensured keyed hc
  | object =>
      simp only [finishedModel, readModel, hc]
      exact finishedClass_follows ensured keyed hc

/-- Records to start from: one for each schema, under the key that it bears. -/
structure Initial (schemas : Table Value) (start : Table Model) : Prop where
  names : start.names = schemas.names
  keyed : start.Keyed Model.key

/-- What is read once all parts are finished is a product. -/
theorem Sound.made {w : Workshop} (sound : Sound schemas nameOf start w) {skeleton built : Model}
    {notes : Journal} (declared : start.get? key = some skeleton)
    (ready : ∀ t, Composes schemas key t → t ∈ w.finished)
    (reads : ∀ look, Shows w look →
      (readModel schemas nameOf look skeleton (schemaAt schemas key)).run [] = (.ok built, notes)) :
    Built schemas nameOf start ⟨key, built, notes ++ [populatedRemark built]⟩ := by
  -- A key that is not finished may have any product, since none but finished ones are read.
  have parts : ∀ t, ∃ p : Product, t ∈ w.finished →
      Built schemas nameOf start p ∧ p.key = t ∧ w.records.get? t = some p.model := by
    intro t
    by_cases ht : t ∈ w.finished
    · obtain ⟨p, hp⟩ := sound.product ht
      exact ⟨p, fun _ => hp⟩
    · exact ⟨⟨t, built, []⟩, fun h => absurd h ht⟩
  choose part hpart using parts
  refine .intro part declared (fun t ht => (hpart t (ready t ht)).2.1)
    (fun t ht => (hpart t (ready t ht)).1) ?_ rfl
  exact reads _ fun t ht => (hpart t ht).2.2

/-- No part builds the key itself, since it is among those visited. -/
theorem Moves.unfinished {w w' : Workshop} {ps : List Product}
    (moves : Moves schemas nameOf start w w' ps) (below : ∀ p ∈ ps, Below schemas key visited p.key)
    (waiting : key ∉ w.finished) : key ∉ w'.finished := by
  intro finished
  rw [moves.finished, List.mem_append, List.mem_map] at finished
  rcases finished with before | ⟨p, hp, rfl⟩
  · exact waiting before
  · exact (below p hp).2 List.mem_cons_self

theorem Moves.single {w : Workshop} {model : Model} {notes : Journal}
    (registered : key ∈ schemas.names) (fresh : key ∉ w.finished)
    (ready : ∀ t, Composes schemas key t → t ∈ w.finished)
    (built : Built schemas nameOf start ⟨key, model, notes⟩) (j : Journal) :
    Moves schemas nameOf start w
      ⟨w.records.put key model, w.finished ++ [key], j⟩ [⟨key, model, notes⟩] :=
  ⟨rfl, rfl, .single registered fresh ready built⟩

/-- The end of a build: the model is stored and remarked upon. -/
theorem ends_finish {w : Workshop} {built : Model} {Q : Attempt Unit → Workshop → Prop}
    (h : Q (.ok ()) ⟨w.records.put key built, w.finished ++ [key],
      w.journal ++ [populatedRemark built]⟩) :
    Build.Ends (do
      Build.finish key built
      Build.logged (Logged.remark .population .debug (populatedMessage built))) w Q := h

/-- Population of a key leaves it finished. The other keys visited before are left alone. -/
theorem populate_prepares (nameOf : String → String) (initial : Initial schemas start)
    (key : String) (visited : List String) (registered : key ∈ schemas.names) :
    Prepares schemas nameOf start (Within schemas key visited)
      (fun e w => ∃ chain, RaisedOn schemas nameOf start e w key visited chain) key
      (populate schemas nameOf key visited) := by
  intro w sound
  rw [populate]
  refine Build.ends_isFinished_bind ?_
  by_cases finished : key ∈ w.finished
  · rw [if_pos (List.contains_iff_mem.mpr finished)]
    exact Build.ends_pure (.still rfl rfl ⟨finished, by simp [notesOf]⟩)
  · rw [if_neg (mt List.contains_iff_mem.mp finished)]
    obtain ⟨skeleton, declared⟩ := Table.mem_names.mp (initial.names ▸ registered)
    refine Build.ends_record?_bind ?_
    rw [sound.record_of_waiting finished, declared]
    -- Parts are populated with the key among those visited, which leaves fewer to visit.
    have follows : Follows schemas nameOf start (Below schemas key visited)
        (Interrupted schemas nameOf start key visited) (Composes schemas key)
        (finishedModel schemas nameOf skeleton (schemaAt schemas key) (key :: visited)
          fun target _ _ => populate schemas nameOf target (key :: visited))
        fun look => readModel schemas nameOf look skeleton (schemaAt schemas key) := by
      refine finishedModel_follows (fun t ht hc edge w' sound' => ?_)
        (Table.keyed_iff.mp initial.keyed key skeleton declared)
      refine (populate_prepares nameOf initial t (key :: visited) ht w' sound').mono
        fun r w'' passes => passes.weaken (fun k hk => ?_) ?_
      · exact ⟨.head edge hk.1, fun hv => hc (hk.2 hv ▸ hv)⟩
      · rintro e _ _ ⟨chain, raised⟩
        exact .inr ⟨t, chain, edge, raised⟩
    refine (follows.run w sound).bind ?_ ?_
    · rintro built w' ⟨ps, moves, below, ready, notes, noted, reads⟩
      have waiting := moves.unfinished below finished
      have product := (sound.moves moves).made declared ready reads
      refine ends_finish ⟨ps ++ [⟨key, built, notes ++ [populatedRemark built]⟩],
        moves.trans (.single registered waiting ready product _), ?_, ?_, ?_⟩
      · intro p hp
        rcases List.mem_append.mp hp with hp | hp
        · exact (below p hp).within
        · rw [List.mem_singleton.mp hp]
          exact ⟨.refl, fun _ => rfl⟩
      · exact List.mem_append_right _ (List.mem_singleton.mpr rfl)
      · have here : notesOf (ps ++ [⟨key, built, notes ++ [populatedRemark built]⟩]) =
            notesOf ps ++ notes ++ [populatedRemark built] := by simp [notesOf]
        rw [here, ← List.append_assoc, ← List.append_assoc]
        exact noted.append_right _
    · rintro e w' ⟨ps, moves, below, he⟩
      have waiting := moves.unfinished below finished
      refine ⟨ps, moves, fun p hp => (below p hp).within, ?_⟩
      rcases he with (⟨t, refers, closed, reported⟩ | ⟨t, chain, edge, inner⟩) | failed
      · exact ⟨_, .back waiting refers closed reported⟩
      · exact ⟨_, .part waiting edge inner⟩
      · exact ⟨_, .reading waiting declared failed⟩
termination_by (schemas.names.filter fun k => k ∉ key :: visited).length
decreasing_by exact outside_lt ht hc

/-- Records of enumerations without properties. -/
def Blank (schemas : Table Value) (start : Table Model) : Prop :=
  ∀ key m, start.get? key = some m → classify (schemaAt schemas key) = .enumeration →
    m.properties = []

section Short

variable (typed : TypedSchemas schemas) (initial : Initial schemas start)
  (blank : Blank schemas start)

include typed initial blank

/-- What is built from well-typed schemas can be written. The induction is on the build, since a
model takes its validators over from its parts. -/
theorem Built.short {p : Product} (built : Built schemas nameOf start p) : p.model.Short := by
  induction built with
  | intro part declared keys parts made noted ih =>
      have registered := initial.names ▸ Table.mem_names.mpr ⟨_, declared⟩
      refine (readModel_succeeds nameOf (typed_schemaAt typed registered) ?_
        (blank _ _ declared)).of_run made
      exact fun m hm ref hr t ht hk => ih t ⟨ht, m, hm, ref, hr, hk⟩

theorem Sound.shows_short {w : Workshop} (sound : Sound schemas nameOf start w) :
    ∃ look, Shows w look ∧ ∀ t, (look t).Short := by
  obtain ⟨look, shown⟩ := sound.shows
  classical
  refine ⟨fun t => if t ∈ w.finished then look t else .skeleton t t t false none, ?_, fun t => ?_⟩
  · intro t ht
    simp only [if_pos ht]
    exact shown t ht
  · simp only []
    split
    · next ht =>
      obtain ⟨p, built, _, stored⟩ := sound.product ht
      rw [Option.some.inj ((shown t ht).symm.trans stored)]
      exact built.short typed initial blank
    · rintro p ⟨⟩

end Short

/-- Over well-typed schemas the failure reports an edge that lies on a cycle. -/
def ReportsCycle (schemas : Table Value) (start : Table Model) (e : Failure) : Prop :=
  TypedSchemas schemas → Blank schemas start →
    ∃ s t, e = .circular s t ∧ Composes schemas s t ∧ ReflTransGen (Composes schemas) t s

theorem RaisedOn.reportsCycle {e : Failure} {w : Workshop} {chain : List String}
    (h : RaisedOn schemas nameOf start e w key visited chain) (initial : Initial schemas start)
    (sound : Sound schemas nameOf start w) (registered : key ∈ schemas.names)
    (above : ∀ v ∈ visited, v ∈ schemas.names ∧ ReflTransGen (Composes schemas) v key) :
    ReportsCycle schemas start e := by
  intro typed blank
  induction h with
  | back waiting refers closed reported =>
      rcases List.mem_cons.mp closed with rfl | hv
      · exact ⟨_, _, reported, ⟨registered, refers⟩, .refl⟩
      · exact ⟨_, _, reported, ⟨(above _ hv).1, refers⟩, (above _ hv).2⟩
  | reading waiting declared failed =>
      obtain ⟨look, shown, short⟩ := sound.shows_short typed initial blank
      exact ((readModel_succeeds nameOf (typed_schemaAt typed registered)
        (fun _ _ _ _ t _ _ => short t) (blank _ _ declared)).no_error (failed look shown)).elim
  | part waiting edge inner ih =>
      refine ih edge.1 fun v hv => ?_
      rcases List.mem_cons.mp hv with rfl | hv
      · exact ⟨registered, .single edge⟩
      · exact ⟨(above v hv).1, (above v hv).2.tail edge⟩

theorem populateEach_passes (initial : Initial schemas start) {keys : List String}
    (registered : ∀ k ∈ keys, k ∈ schemas.names) {w : Workshop}
    (sound : Sound schemas nameOf start w) :
    Build.Ends (populateEach schemas nameOf keys) w
      (Passes schemas nameOf start (fun _ => True) (fun e _ => ReportsCycle schemas start e) w
        fun _ ps w' =>
          (∀ k ∈ keys, k ∈ w'.finished) ∧ w'.journal.Perm (w.journal ++ notesOf ps)) := by
  induction keys generalizing w with
  | nil => exact Build.ends_pure (.still rfl rfl ⟨by simp, by simp [notesOf]⟩)
  | cons key keys ih =>
      have first := populate_prepares nameOf initial key [] (registered key (by simp)) w sound
      have reports : ∀ e ps {w'}, Moves schemas nameOf start w w' ps →
          (∃ chain, RaisedOn schemas nameOf start e w' key [] chain) →
          ReportsCycle schemas start e := by
        rintro e ps w' moves ⟨chain, raised⟩
        exact raised.reportsCycle initial (sound.moves moves) (registered key (by simp)) (by simp)
      refine Passes.bind (first.mono fun r w' passes =>
        passes.weaken (fun _ _ => trivial) fun e ps => reports e ps) ?_
      rintro _ ps w' moves ⟨finished, noted⟩
      refine (ih (fun k hk => registered k (by simp [hk])) (sound.moves moves)).mono
        fun r w'' passes => passes.imp ?_
      rintro _ qs moves' ⟨finished', noted'⟩
      refine ⟨fun k hk => ?_, ?_⟩
      · rcases List.mem_cons.mp hk with rfl | hk
        · exact moves'.finished_subset k finished
        · exact finished' k hk
      · rw [notesOf_append, ← List.append_assoc]
        exact noted'.trans (noted.append_right _)

/-- The history of a successful run: a product for every schema, each after the products
that it is composed of. -/
structure History (schemas : Table Value) (nameOf : String → String) (start : Table Model)
    (j : Journal) (ps : List Product) (w : Workshop) : Prop where
  moves : Moves schemas nameOf start ⟨start, [], j⟩ w ps
  complete : (ps.map Product.key).Perm schemas.names
  noted : w.journal.Perm (j ++ notesOf ps)

/-- A run tells its history, or it reports an edge on a cycle. -/
theorem populateEach_ends (nameOf : String → String) (initial : Initial schemas start)
    (j : Journal) :
    Build.Ends (populateEach schemas nameOf start.names) ⟨start, [], j⟩ fun r w =>
      (∃ ps, Moves schemas nameOf start ⟨start, [], j⟩ w ps) ∧
      match r with
      | .ok _ => ∃ ps, History schemas nameOf start j ps w
      | .error e => ReportsCycle schemas start e := by
  have registered : ∀ k ∈ start.names, k ∈ schemas.names := by simp [initial.names]
  refine (populateEach_passes initial registered (Sound.initial j)).mono ?_
  rintro r w ⟨ps, moves, _, q⟩
  refine ⟨⟨ps, moves⟩, ?_⟩
  cases r with
  | error e => exact q
  | ok _ =>
      obtain ⟨finished, noted⟩ := q
      refine ⟨ps, moves, ?_, noted⟩
      refine (List.perm_ext_iff_of_nodup moves.orderly.keys_nodup schemas.names_nodup).mpr
        fun k => ⟨fun hk => ?_, fun hk => ?_⟩
      · obtain ⟨p, hp, rfl⟩ := List.mem_map.mp hk
        exact moves.orderly.registered p hp
      · have := finished k (initial.names ▸ hk)
        rwa [moves.finished, List.nil_append] at this

end Following
end SdkBlueprint.Population
