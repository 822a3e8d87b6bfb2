import SdkBlueprint.Proofs.Population.Composed
import SdkBlueprint.Proofs.Population.Repetition

/-! Sessions with a registry: models are renamed and populated in any order, and builders are
started afresh. Whatever is done, a populated record keeps its shape; and as long as the names
stay, populating again finds every record as it left it. -/
namespace SdkBlueprint.Population
open SdkBlueprint.Document SdkBlueprint.Schema

/-- A registry at work. The present builder has populated the finished keys, and builders
before it the earlier ones. -/
structure Session where
  registry : Registry
  finished : List String
  earlier : List String
  journal : Journal

namespace Session

/-- A session with a registry that nobody has worked on. -/
def opened (reg : Registry) (j : Journal) : Session := ⟨reg, [], [], j⟩

def populated (s : Session) : List String := s.earlier ++ s.finished

def workshop (s : Session) : Workshop := ⟨s.registry.records, s.finished, s.journal⟩

/-- A step of the present builder. What it has done stays when it fails. -/
def build {α : Type} (s : Session) (x : Build α) : Attempt α × Session :=
  let (result, w) := x.run s.workshop
  (result,
    { s with
      registry := { s.registry with records := w.records }
      finished := w.finished
      journal := w.journal })

end Session

/-- What can be done with a registry. -/
inductive Step where
  | sanitize (settings : Settings)
  | rename (key name : String)
  | populate (key : String) (visited : List String)
  | populateAll
  | freshBuilder

namespace Step

def run (s : Session) : Step → Attempt Unit × Session
  | .sanitize settings =>
    let (result, j) := (s.registry.sanitizeLogged settings).run s.journal
    match result with
    | .ok (reg, _) => (.ok (), { s with registry := reg, journal := j })
    | .error e => (.error e, { s with journal := j })
  | .rename key name =>
    let model := (s.registry.get? key).getD (.skeleton key "" "" false none)
    match s.registry.replace key (model.withName name) with
    | .ok reg => (.ok (), { s with registry := reg })
    | .error e => (.error e, s)
  | .populate key visited =>
    s.build (Population.populate s.registry.schemas s.registry.nameOf key visited)
  | .populateAll => s.build (populateEach s.registry.schemas s.registry.nameOf s.registry.keys)
  | .freshBuilder => (.ok (), { s with finished := [], earlier := s.populated })

/-- The step may change names. -/
def renames : Step → Bool
  | .sanitize _ => true
  | .rename _ _ => true
  | _ => false

end Step

namespace Session

/-- The session after steps, whatever became of each of them. -/
def after (s : Session) (steps : List Step) : Session :=
  steps.foldl (fun s step => (step.run s).2) s

/-- The names stay as they are through all of the steps. -/
def Steady (s : Session) (steps : List Step) : Prop :=
  ∀ before, before <+: steps → (s.after before).registry.nameOf = s.registry.nameOf

theorem workshop_of_fresh {s : Session} (fresh : s.finished = []) :
    s.workshop = ⟨s.registry.records, [], s.journal⟩ := by
  rw [workshop, fresh]

theorem populated_freshBuilder (s : Session) :
    (Step.freshBuilder.run s).2.populated = s.populated := List.append_nil _

theorem after_append (s : Session) (steps later : List Step) :
    s.after (steps ++ later) = (s.after steps).after later := List.foldl_append

theorem Steady.cons {s : Session} {step : Step} {steps : List Step}
    (h : s.Steady (step :: steps)) :
    (step.run s).2.registry.nameOf = s.registry.nameOf ∧ (step.run s).2.Steady steps := by
  have first : (step.run s).2.registry.nameOf = s.registry.nameOf :=
    h [step] (List.prefix_append [step] steps)
  refine ⟨first, ?_⟩
  intro before inside
  have both := h (step :: before) (List.cons_prefix_cons.mpr ⟨rfl, inside⟩)
  exact both.trans first.symm

theorem Steady.left {s : Session} {steps later : List Step} (h : s.Steady (steps ++ later)) :
    s.Steady steps := by
  intro before inside
  exact h before (inside.trans (List.prefix_append steps later))

theorem Steady.right {s : Session} {steps later : List Step} (h : s.Steady (steps ++ later)) :
    (s.after steps).Steady later := by
  intro before inside
  have whole := h (steps ++ before) ((List.prefix_append_right_inj steps).mpr inside)
  have part := h steps (List.prefix_append steps later)
  rw [after_append] at whole
  exact whole.trans part.symm

end Session

theorem Fits.withName {schema : Value} {m : Model} (h : Fits schema m) (name : String) :
    Fits schema (m.withName name) := ⟨h.enumValues, h.properties, h.parent, h.union⟩

theorem Shaped.withName {schema : Value} {m : Model} (h : Shaped schema m) (name : String) :
    Shaped schema (m.withName name) :=
  ⟨h.shape, h.isEnum, h.enumValues, h.properties, h.parent, h.union, h.names, h.validators⟩

/-- What a session keeps of the registry that it was opened with. -/
structure Kept (reg : Registry) (s : Session) : Prop where
  schemas : s.registry.schemas = reg.schemas
  initial : Initial reg.schemas s.registry.records
  fitting : Fitting reg.schemas s.registry.records
  shaped : ∀ key ∈ s.populated, ∃ m, s.registry.records.get? key = some m ∧
    Shaped (schemaAt reg.schemas key) m

theorem Kept.initial_here {reg : Registry} {s : Session} (kept : Kept reg s) :
    Initial s.registry.schemas s.registry.records := kept.schemas ▸ kept.initial

theorem Kept.fitting_here {reg : Registry} {s : Session} (kept : Kept reg s) :
    Fitting s.registry.schemas s.registry.records := kept.schemas ▸ kept.fitting

/-- The records of one table are those of another under other names. -/
structure Renamed (records renamed : Table Model) : Prop where
  names : renamed.names = records.names
  same : ∀ key m', renamed.get? key = some m' →
    ∃ m, records.get? key = some m ∧ ∃ name, m' = m.withName name

theorem renamed_sanitize (settings : Settings) (reg : Registry) :
    Renamed reg.records (reg.sanitize settings).records := by
  refine ⟨Table.names_map _ _, ?_⟩
  intro key m' stored
  rw [Registry.sanitize, Table.get?_map] at stored
  obtain ⟨m, hm, rfl⟩ := Option.map_eq_some_iff.mp stored
  exact ⟨m, hm, _, rfl⟩

theorem replace_ok {reg next : Registry} {key name : String}
    (h : reg.replace key (((reg.get? key).getD (.skeleton key "" "" false none)).withName name) =
      .ok next) :
    ∃ m, reg.records.get? key = some m ∧
      next = { reg with records := reg.records.put key (m.withName name) } := by
  unfold Registry.replace at h
  split at h
  · next known =>
    obtain ⟨m, hm⟩ := Table.mem_names.mp ((Table.contains_iff _ _).mp known)
    rw [Registry.get?, hm] at h
    exact ⟨m, hm, (Except.ok.inj h).symm⟩
  · cases h

theorem renamed_put {records : Table Model} {key : String} {m : Model}
    (stored : records.get? key = some m) (name : String) :
    Renamed records (records.put key (m.withName name)) := by
  have registered : key ∈ records.names := Table.mem_names.mpr ⟨m, stored⟩
  refine ⟨by rw [Table.names_put, if_pos registered], ?_⟩
  intro k m' stored'
  rw [Table.get?_put] at stored'
  split at stored'
  · next same => exact ⟨m, same ▸ stored, name, (Option.some.inj stored').symm⟩
  · exact ⟨m', stored', m'.name, rfl⟩

/-- Records that are renamed to the names that they have are the same. -/
theorem Renamed.eq {records renamed : Table Model} (h : Renamed records renamed)
    (names : Registry.nameIn renamed = Registry.nameIn records) : renamed = records := by
  apply Table.ext_get? h.names
  intro key
  cases stored : renamed.get? key with
  | none =>
      rw [Table.get?_eq_none_iff, h.names, ← Table.get?_eq_none_iff] at stored
      exact stored.symm
  | some m' =>
      obtain ⟨m, stored', name, rfl⟩ := h.same key m' stored
      have same := congrFun names key
      rw [Registry.nameIn, Registry.nameIn, stored, stored'] at same
      have unnamed : m.withName name = m := by
        change { m with name := name } = m
        rw [show name = m.name from same]
      rw [stored', unnamed]

/-- A step that may change names, but changes none, changes no more than the journal. -/
theorem Step.still {s : Session} {step : Step} (renames : step.renames = true)
    (steady : (step.run s).2.registry.nameOf = s.registry.nameOf) :
    (step.run s).2.registry = s.registry ∧ (step.run s).2.finished = s.finished ∧
      (step.run s).2.populated = s.populated := by
  cases step with
  | sanitize settings =>
      have records := (renamed_sanitize settings s.registry).eq steady
      exact ⟨congrArg (Registry.mk s.registry.schemas) records, rfl, rfl⟩
  | rename key name =>
      simp only [Step.run] at steady ⊢
      split
      · next reg replaced =>
        rw [replaced] at steady
        obtain ⟨m, stored, rfl⟩ := replace_ok replaced
        have records := (renamed_put stored name).eq steady
        exact ⟨congrArg (Registry.mk s.registry.schemas) records, rfl, rfl⟩
      · exact ⟨rfl, rfl, rfl⟩
  | populate key visited => cases renames
  | populateAll => cases renames
  | freshBuilder => cases renames

theorem Renamed.kept {reg : Registry} {s : Session} (kept : Kept reg s) {records : Table Model}
    (h : Renamed s.registry.records records) (j : Journal) :
    Kept reg { s with registry := { s.registry with records := records }, journal := j } := by
  refine ⟨kept.schemas, ⟨h.names.trans kept.initial.names, ?_⟩, ?_, ?_⟩
  · rw [Table.keyed_iff]
    intro key m' stored
    obtain ⟨m, stored', name, rfl⟩ := h.same key m' stored
    exact Table.keyed_iff.mp kept.initial.keyed key m stored'
  · intro key m' stored
    obtain ⟨m, stored', name, rfl⟩ := h.same key m' stored
    exact (kept.fitting key m stored').withName name
  · intro key hk
    obtain ⟨m, stored, shaped⟩ := kept.shaped key hk
    obtain ⟨m', stored'⟩ := Table.mem_names.mp (h.names ▸ Table.mem_names.mpr ⟨m, stored⟩)
    obtain ⟨n, stored'', name, rfl⟩ := h.same key m' stored'
    cases stored.symm.trans stored''
    exact ⟨_, stored', shaped.withName name⟩

theorem Kept.stands {reg : Registry} {s : Session} (kept : Kept reg s) {α : Type} {x : Build α}
    (keeps : Build.Keeps (Standing reg.schemas s.registry.records s.earlier) (fun _ => True) x) :
    Standing reg.schemas s.registry.records s.earlier (s.build x).2.registry.records
      (s.build x).2.finished := by
  have before : Standing reg.schemas s.registry.records s.earlier s.registry.records s.finished :=
    ⟨.refl kept.fitting, kept.shaped⟩
  exact (keeps s.workshop before).1

theorem Kept.build {reg : Registry} {s : Session} (kept : Kept reg s) {α : Type} {x : Build α}
    (keeps : Build.Keeps (Standing reg.schemas s.registry.records s.earlier) (fun _ => True) x) :
    Kept reg (s.build x).2 := by
  obtain ⟨alike, shaped⟩ := kept.stands keeps
  refine ⟨kept.schemas, ⟨alike.names.symm.trans kept.initial.names, ?_⟩, alike.right, shaped⟩
  rw [Table.keyed_iff]
  intro key m stored
  obtain ⟨m', stored', same⟩ := alike.symm.partner stored
  exact same.key.trans (Table.keyed_iff.mp kept.initial.keyed key m' stored')

theorem Kept.step {reg : Registry} {s : Session} (kept : Kept reg s) (step : Step) :
    Kept reg (step.run s).2 := by
  cases step with
  | sanitize settings => exact (renamed_sanitize settings s.registry).kept kept _
  | rename key name =>
      simp only [Step.run]
      split
      · next replaced =>
        obtain ⟨m, stored, rfl⟩ := replace_ok replaced
        exact (renamed_put stored name).kept kept s.journal
      · exact kept
  | populate key visited =>
      apply kept.build
      rw [kept.schemas]
      exact populate_keeps _ key visited
  | populateAll =>
      apply kept.build
      rw [kept.schemas]
      exact populateEach_keeps _ _
  | freshBuilder => exact ⟨kept.schemas, kept.initial, kept.fitting, by
      simpa [Step.run, Session.populated] using kept.shaped⟩

theorem Kept.after {reg : Registry} {s : Session} (kept : Kept reg s) (steps : List Step) :
    Kept reg (s.after steps) := by
  induction steps generalizing s with
  | nil => exact kept
  | cons step steps ih => exact ih (kept.step step)

/-- Population changes no name. -/
theorem Kept.step_nameOf {reg : Registry} {s : Session} (kept : Kept reg s) {step : Step}
    (populating : step.renames = false) :
    (step.run s).2.registry.nameOf = s.registry.nameOf := by
  cases step with
  | sanitize settings => cases populating
  | rename key name => cases populating
  | populate key visited =>
      have stands := kept.stands (populate_keeps s.registry.nameOf key visited)
      rw [← kept.schemas] at stands
      exact stands.alike.nameIn.symm
  | populateAll =>
      have stands := kept.stands (populateEach_keeps s.registry.nameOf s.registry.keys)
      rw [← kept.schemas] at stands
      exact stands.alike.nameIn.symm
  | freshBuilder => rfl

theorem Kept.steady {reg : Registry} {s : Session} (kept : Kept reg s) {steps : List Step}
    (populating : ∀ step ∈ steps, step.renames = false) : s.Steady steps := by
  intro before inside
  have plain : ∀ step ∈ before, step.renames = false := by
    intro step hs
    exact populating step (inside.subset hs)
  clear inside
  induction before generalizing s with
  | nil => rfl
  | cons step before ih =>
      have here := kept.step_nameOf (plain step (by simp))
      have rest := ih (kept.step step) fun step' hs => plain step' (List.mem_cons_of_mem step hs)
      exact rest.trans here

theorem kept_opened {schemas : Value} {reg : Registry}
    (discovered : Registry.discover schemas = .ok reg) (j : Journal) :
    Kept reg (Session.opened reg j) := by
  obtain ⟨es, _, rfl⟩ := Registry.discover_pairs discovered
  refine ⟨rfl, initial_discovered _, ?_, ?_⟩
  · intro key m stored
    change ((Table.ofEntries es).map Registry.skeletonOf).get? key = some m at stored
    rw [Table.get?_map] at stored
    obtain ⟨schema, _, rfl⟩ := Option.map_eq_some_iff.mp stored
    exact fits_skeletonOf key schema _
  · intro key hk
    cases hk

section Moving

variable {schemas : Table Value} {nameOf : String → String} {first : Table Model}
variable {w : Workshop}

theorem populate_moves (initial : Initial schemas first) (key : String) (visited : List String)
    (sound : Sound schemas nameOf first w) :
    Build.Ends (populate schemas nameOf key visited) w fun _ w' =>
      ∃ ps, Moves schemas nameOf first w w' ps := by
  by_cases registered : key ∈ schemas.names
  · refine (populate_prepares nameOf initial key visited registered w sound).mono ?_
    rintro r w' ⟨ps, moves, _⟩
    exact ⟨ps, moves⟩
  · have unknown : w.records.get? key = none := by
      rwa [Table.get?_eq_none_iff, sound.names initial.names]
    unfold Build.Ends
    rw [populate_unknown unknown]
    exact ⟨[], rfl, (List.append_nil _).symm, .nil⟩

theorem populateEach_moves (initial : Initial schemas first) (sound : Sound schemas nameOf first w) :
    Build.Ends (populateEach schemas nameOf w.records.names) w fun _ w' =>
      ∃ ps, Moves schemas nameOf first w w' ps := by
  have registered : ∀ key ∈ w.records.names, key ∈ schemas.names := by
    intro key hk
    rwa [sound.names initial.names] at hk
  refine (populateEach_passes initial registered sound).mono ?_
  rintro r w' ⟨ps, moves, _⟩
  exact ⟨ps, moves⟩

end Moving

/-- What holds of a session as long as the names stay. The keys in `since` are those populated
since the registry was as it is in `base`; their records are the finished ones of `base`, and
the other records are those of `base` itself. -/
structure Settled (base : Registry) (since : List String) (s : Session) : Prop where
  schemas : s.registry.schemas = base.schemas
  nameOf : s.registry.nameOf = base.nameOf
  standing : Standing base.schemas base.records [] s.registry.records s.finished
  present : ∀ key ∈ s.finished, key ∈ since
  finished : ∀ key ∈ since, ∃ m, FinishedRecord base key m ∧
    s.registry.records.get? key = some m
  waiting : ∀ key, key ∉ since → s.registry.records.get? key = base.records.get? key
  sound : ∃ first, Alike base.schemas first base.records ∧
    Sound base.schemas base.nameOf first s.workshop

theorem settled_fresh {s : Session} (fitting : Fitting s.registry.schemas s.registry.records)
    (fresh : s.finished = []) : Settled s.registry [] s := by
  refine ⟨rfl, rfl, ⟨.refl fitting, ?_⟩, ?_, ?_, fun _ _ => rfl, s.registry.records,
    .refl fitting, Session.workshop_of_fresh fresh ▸ .initial s.journal⟩
  · simp [fresh]
  · simp [fresh]
  · simp

namespace Settled

variable {base : Registry} {since : List String} {s : Session}

/-- A step that stores products over the first records leaves the session settled. -/
theorem build (settled : Settled base since s) (initial : Initial base.schemas base.records)
    {x : Build Unit}
    (keeps : Build.Keeps (Standing base.schemas base.records []) (fun _ => True) x)
    (moving : ∀ first, Initial base.schemas first → Sound base.schemas base.nameOf first s.workshop →
      Build.Ends x s.workshop fun _ w' => ∃ ps, Moves base.schemas base.nameOf first s.workshop w' ps) :
    ∃ more, (s.build x).2.populated = s.populated ++ more ∧
      Settled base (since ++ more) (s.build x).2 := by
  obtain ⟨first, alike, sound⟩ := settled.sound
  have started : Initial base.schemas first := by
    refine ⟨alike.names.trans initial.names, ?_⟩
    rw [Table.keyed_iff]
    intro key m stored
    obtain ⟨m', stored', same⟩ := alike.partner stored
    exact same.key.trans (Table.keyed_iff.mp initial.keyed key m' stored')
  obtain ⟨ps, moves⟩ := moving first started sound
  have standing := (keeps s.workshop settled.standing).1
  have now : Sound base.schemas base.nameOf first (s.build x).2.workshop := by
    obtain ⟨qs, past⟩ := sound.moves moves
    exact ⟨qs, past.records, past.finished, past.orderly⟩
  have grown : (s.build x).2.finished = s.finished ++ ps.map Product.key := moves.finished
  have untouched : ∀ key, key ∉ ps.map Product.key →
      (s.build x).2.registry.records.get? key = s.registry.records.get? key := by
    intro key hk
    change ((x.run s.workshop).2).records.get? key = _
    rw [moves.records]
    exact get?_store_of_not_mem hk _
  refine ⟨ps.map Product.key, ?_, settled.schemas, ?_, standing, ?_, ?_, ?_, first, alike, now⟩
  · change s.earlier ++ (s.build x).2.finished = _
    rw [grown, Session.populated, List.append_assoc]
  · exact standing.alike.nameIn.symm
  · intro key hk
    rw [grown] at hk
    rcases List.mem_append.mp hk with hk | hk
    · exact List.mem_append_left _ (settled.present key hk)
    · exact List.mem_append_right _ hk
  · intro key hk
    by_cases here : key ∈ (s.build x).2.finished
    · obtain ⟨p, built, rfl, stored⟩ := now.product here
      exact ⟨p.model, ⟨p, built.restart alike, rfl, rfl⟩, stored⟩
    · have before : key ∉ ps.map Product.key := by
        intro hp
        exact here (grown ▸ List.mem_append_right _ hp)
      rw [untouched key before]
      exact settled.finished key ((List.mem_append.mp hk).resolve_right before)
  · intro key hk
    rw [List.mem_append, not_or] at hk
    rw [untouched key hk.2]
    exact settled.waiting key hk.1

/-- A step that leaves the records alone, and the keys that are populated, leaves it settled. -/
theorem still (settled : Settled base since s) {t : Session} (registry : t.registry = s.registry)
    (finished : t.finished = s.finished) : Settled base since t := by
  obtain ⟨first, alike, sound⟩ := settled.sound
  refine ⟨by rw [registry, settled.schemas], by rw [registry, settled.nameOf], ?_, ?_, ?_, ?_,
    first, alike, ?_⟩
  · rw [registry, finished]
    exact settled.standing
  · rw [finished]
    exact settled.present
  · rw [registry]
    exact settled.finished
  · rw [registry]
    exact settled.waiting
  · obtain ⟨ps, past⟩ := sound
    refine ⟨ps, ?_, ?_, past.orderly⟩
    · exact (congrArg Registry.records registry).trans past.records
    · exact finished.trans past.finished

/-- A fresh builder has finished nothing; it starts from the records that are there. -/
theorem freshBuilder (settled : Settled base since s) :
    Settled base since (Step.freshBuilder.run s).2 := by
  refine ⟨settled.schemas, settled.nameOf, ⟨settled.standing.alike, ?_⟩, ?_, settled.finished,
    settled.waiting, s.registry.records, settled.standing.alike.symm, .initial s.journal⟩
  · simp [Step.run]
  · simp [Step.run]

theorem step (settled : Settled base since s) (initial : Initial base.schemas base.records)
    (step : Step) (steady : (step.run s).2.registry.nameOf = s.registry.nameOf) :
    ∃ more, (step.run s).2.populated = s.populated ++ more ∧
      Settled base (since ++ more) (step.run s).2 := by
  by_cases renames : step.renames = true
  · obtain ⟨registry, finished, populated⟩ := Step.still renames steady
    refine ⟨[], populated.trans (List.append_nil _).symm, ?_⟩
    rw [List.append_nil]
    exact settled.still registry finished
  · cases step with
    | sanitize settings => exact absurd rfl renames
    | rename key name => exact absurd rfl renames
    | populate key visited =>
        apply settled.build initial
        · rw [settled.schemas]
          exact populate_keeps _ key visited
        · intro first started sound
          rw [settled.schemas, settled.nameOf]
          exact populate_moves started key visited sound
    | populateAll =>
        apply settled.build initial
        · rw [settled.schemas]
          exact populateEach_keeps _ _
        · intro first started sound
          rw [settled.schemas, settled.nameOf]
          exact populateEach_moves started sound
    | freshBuilder =>
        refine ⟨[], ?_, ?_⟩
        · rw [Session.populated_freshBuilder, List.append_nil]
        · rw [List.append_nil]
          exact settled.freshBuilder

theorem after (settled : Settled base since s) (initial : Initial base.schemas base.records)
    {steps : List Step} (steady : s.Steady steps) :
    ∃ more, (s.after steps).populated = s.populated ++ more ∧
      Settled base (since ++ more) (s.after steps) := by
  induction steps generalizing s since with
  | nil => exact ⟨[], (List.append_nil _).symm, (List.append_nil since).symm ▸ settled⟩
  | cons step steps ih =>
      obtain ⟨here, rest⟩ := steady.cons
      obtain ⟨more, grown, now⟩ := settled.step initial step here
      obtain ⟨more', grown', then'⟩ := ih now rest
      refine ⟨more ++ more', ?_, ?_⟩
      · change ((step.run s).2.after steps).populated = _
        rw [grown', grown, List.append_assoc]
      · rw [← List.append_assoc]
        exact then'

/-- Two sessions that settle on one registry agree on what both have populated. -/
theorem agree {since' : List String} {t : Session} (settled : Settled base since s)
    (settled' : Settled base since' t) {key : String} (hk : key ∈ since) (hk' : key ∈ since') :
    s.registry.records.get? key = t.registry.records.get? key := by
  obtain ⟨m, made, stored⟩ := settled.finished key hk
  obtain ⟨m', made', stored'⟩ := settled'.finished key hk'
  rw [stored, stored', made.unique made']

/-- A session that has populated nothing new has left the registry as it was. -/
theorem registry_eq {more : List String} {t : Session} (settled : Settled base since s)
    (settled' : Settled base (since ++ more) t) (known : ∀ key ∈ more, key ∈ since) :
    t.registry = s.registry := by
  have names : t.registry.records.names = s.registry.records.names :=
    settled'.standing.alike.names.symm.trans settled.standing.alike.names
  have records : t.registry.records = s.registry.records := by
    apply Table.ext_get? names
    intro key
    by_cases hk : key ∈ since
    · exact settled'.agree settled (List.mem_append_left more hk) hk
    · have hm : key ∉ more := fun hm => hk (known key hm)
      have waits : key ∉ since ++ more := by
        rw [List.mem_append, not_or]
        exact ⟨hk, hm⟩
      rw [settled'.waiting key waits, settled.waiting key hk]
  have schemas : t.registry.schemas = s.registry.schemas :=
    settled'.schemas.trans settled.schemas.symm
  exact congrArg₂ Registry.mk schemas records

end Settled

/-- Two sessions with one registry. Their present builders have finished the same keys, and
their records are alike. -/
structure Mirrors (reg : Registry) (s t : Session) : Prop where
  left : Kept reg s
  right : Kept reg t
  alike : Alike reg.schemas s.registry.records t.registry.records
  twin : ∃ start start', Alike reg.schemas start start' ∧ start.names = reg.schemas.names ∧
    Twin start start' s.workshop t.workshop

namespace Mirrors

variable {reg : Registry} {s t : Session}

theorem nameOf (h : Mirrors reg s t) : t.registry.nameOf = s.registry.nameOf :=
  h.alike.nameIn.symm

/-- A step that is repeated finishes the same keys in both sessions. -/
theorem build (h : Mirrors reg s t) {x : Build Unit}
    (keeps : ∀ start earlier, Build.Keeps (Standing reg.schemas start earlier) (fun _ => True) x)
    (repeats : ∀ start start', Alike reg.schemas start start' → start.names = reg.schemas.names →
      Twin start start' s.workshop t.workshop →
      Build.Repeats start start' (fun _ => True) x x s.workshop t.workshop) :
    ∃ more, (s.build x).2.populated = s.populated ++ more ∧
      (t.build x).2.populated = t.populated ++ more ∧ Mirrors reg (s.build x).2 (t.build x).2 := by
  obtain ⟨start, start', alike, complete, twin⟩ := h.twin
  obtain ⟨_, twin', ⟨more, grown⟩, _⟩ := repeats start start' alike complete twin
  have grown' : (x.run t.workshop).2.finished = t.finished ++ more := by
    have before : t.finished = s.finished := twin.finished
    rw [before, twin'.finished]
    exact grown
  have first := h.left.stands (keeps _ _)
  have second := h.right.stands (keeps _ _)
  refine ⟨more, ?_, ?_, h.left.build (keeps _ _), h.right.build (keeps _ _), ?_, start, start',
    alike, complete, twin'⟩
  · change s.earlier ++ (x.run s.workshop).2.finished = s.earlier ++ s.finished ++ more
    rw [List.append_assoc]
    exact congrArg (s.earlier ++ ·) grown
  · change t.earlier ++ (x.run t.workshop).2.finished = t.earlier ++ t.finished ++ more
    rw [grown', List.append_assoc]
  · exact first.alike.symm.trans (h.alike.trans second.alike)

theorem step (h : Mirrors reg s t) (step : Step)
    (steady : (step.run s).2.registry.nameOf = s.registry.nameOf)
    (steady' : (step.run t).2.registry.nameOf = t.registry.nameOf) :
    ∃ more, (step.run s).2.populated = s.populated ++ more ∧
      (step.run t).2.populated = t.populated ++ more ∧
      Mirrors reg (step.run s).2 (step.run t).2 := by
  by_cases renames : step.renames = true
  · obtain ⟨registry, finished, populated⟩ := Step.still renames steady
    obtain ⟨registry', finished', populated'⟩ := Step.still renames steady'
    obtain ⟨start, start', alike, complete, twin⟩ := h.twin
    have twin' : Twin start start' (step.run s).2.workshop (step.run t).2.workshop :=
      twin.congr (congrArg Registry.records registry) finished
        (congrArg Registry.records registry') finished'
    refine ⟨[], populated.trans (List.append_nil _).symm, populated'.trans (List.append_nil _).symm,
      h.left.step step, h.right.step step, ?_, start, start', alike, complete, twin'⟩
    rw [registry, registry']
    exact h.alike
  · cases step with
    | sanitize settings => exact absurd rfl renames
    | rename key name => exact absurd rfl renames
    | populate key visited =>
        simp only [Step.run, h.nameOf, h.left.schemas, h.right.schemas]
        apply h.build
        · intro start earlier
          exact populate_keeps _ key visited
        · intro start start' alike complete twin
          exact (populate_repeats _ alike complete key visited twin).mono fun _ _ => trivial
    | populateAll =>
        have keys : t.registry.keys = s.registry.keys := h.alike.names.symm
        simp only [Step.run, h.nameOf, h.left.schemas, h.right.schemas, keys]
        apply h.build
        · intro start earlier
          exact populateEach_keeps _ _
        · intro start start' alike complete twin
          exact populateEach_repeats _ alike complete _ twin
    | freshBuilder =>
        refine ⟨[], ?_, ?_, h.left.step .freshBuilder, h.right.step .freshBuilder, h.alike,
          s.registry.records, t.registry.records, h.alike, h.left.initial.names, .initial _ _⟩
        · rw [Session.populated_freshBuilder, List.append_nil]
        · rw [Session.populated_freshBuilder, List.append_nil]

theorem after (h : Mirrors reg s t) {steps : List Step} (steady : s.Steady steps)
    (steady' : t.Steady steps) :
    ∃ more, (s.after steps).populated = s.populated ++ more ∧
      (t.after steps).populated = t.populated ++ more := by
  induction steps generalizing s t with
  | nil => exact ⟨[], (List.append_nil _).symm, (List.append_nil _).symm⟩
  | cons step steps ih =>
      obtain ⟨here, rest⟩ := steady.cons
      obtain ⟨here', rest'⟩ := steady'.cons
      obtain ⟨more, grown, grown', mirrors⟩ := h.step step here here'
      obtain ⟨later, grownLater, grownLater'⟩ := ih mirrors rest rest'
      refine ⟨more ++ later, ?_, ?_⟩
      · rw [← List.append_assoc, ← grown]
        exact grownLater
      · rw [← List.append_assoc, ← grown']
        exact grownLater'

end Mirrors

/-- What a fresh builder has done, another one that does it again leaves as it is, also where
the first one failed. -/
theorem Kept.repeated {reg : Registry} {s : Session} (kept : Kept reg s) (fresh : s.finished = [])
    {steps : List Step} (steady : s.Steady (steps ++ .freshBuilder :: steps)) :
    (s.after (steps ++ .freshBuilder :: steps)).registry = (s.after steps).registry := by
  have initial := kept.initial_here
  have settled := settled_fresh kept.fitting_here fresh
  obtain ⟨since, grown, middle⟩ := settled.after initial steady.left
  obtain ⟨more, grownMore, last⟩ := middle.after initial steady.right
  have there : Kept reg (s.after steps) := kept.after steps
  have alike : Alike reg.schemas s.registry.records (s.after steps).registry.records :=
    kept.schemas ▸ middle.standing.alike
  have mirrors : Mirrors reg s (Step.freshBuilder.run (s.after steps)).2 := by
    refine ⟨kept, there.step .freshBuilder, alike, s.registry.records,
      (s.after steps).registry.records, alike, kept.initial.names, ?_⟩
    rw [Session.workshop_of_fresh fresh]
    exact .initial _ _
  obtain ⟨both, first, second⟩ := mirrors.after steady.left steady.right.cons.2
  have sinceBoth : since = both := List.append_cancel_left (grown.symm.trans first)
  have moreBoth : more = both := by
    rw [Session.populated_freshBuilder] at second
    exact List.append_cancel_left (grownMore.symm.trans second)
  rw [Session.after_append]
  apply middle.registry_eq last
  intro key hk
  rw [sinceBoth, ← moreBoth]
  exact hk

/-- A fresh builder that populates all without a failure has finished every key. -/
theorem Kept.populateAll_finished {reg : Registry} {s t : Session} (kept : Kept reg s)
    (fresh : s.finished = []) (run : Step.populateAll.run s = (.ok (), t)) :
    ∀ key ∈ t.registry.records.names, key ∈ t.finished := by
  have initial := kept.initial_here
  have ends := populateEach_ends s.registry.nameOf initial s.journal
  unfold Build.Ends at ends
  simp only [Step.run, Session.build, Session.workshop_of_fresh fresh] at run
  generalize hr : (populateEach s.registry.schemas s.registry.nameOf s.registry.keys).run
    ⟨s.registry.records, [], s.journal⟩ = outcome at run
  rw [show (populateEach s.registry.schemas s.registry.nameOf s.registry.records.names).run
    ⟨s.registry.records, [], s.journal⟩ = outcome from hr] at ends
  obtain ⟨result, w⟩ := outcome
  cases run
  obtain ⟨_, ps, history⟩ := ends
  intro key hk
  have stored : key ∈ s.registry.schemas.names := by
    rwa [((Sound.initial s.journal).moves history.moves).names initial.names] at hk
  change key ∈ w.finished
  rw [history.moves.finished, List.nil_append]
  exact history.complete.mem_iff.mpr stored

theorem Kept.populateAll_succeeds {reg : Registry} {s : Session} (kept : Kept reg s)
    (fresh : s.finished = []) (typed : TypedSchemas reg.schemas)
    (acyclic : ¬ Cyclic reg.schemas) : ∃ t, Step.populateAll.run s = (.ok (), t) := by
  obtain ⟨ps, w, run, _⟩ :=
    populateEach_acyclic s.registry.nameOf kept.initial (fun key m stored enumerated =>
      (kept.fitting key m stored).properties (.inl enumerated)) typed acyclic s.journal
  have outcome : (Step.populateAll.run s).1 = .ok () := by
    simp only [Step.run, Session.build, Session.workshop, fresh, Registry.keys, kept.schemas, run]
  exact ⟨(Step.populateAll.run s).2, Prod.ext outcome rfl⟩

/-- However a discovered registry is renamed and populated, a populated record has the fields
that its schema calls for and no others. What a fresh builder does, another one that does it again
under the same names leaves as it is, record by record. What a fresh builder has populated stays
under the same names, whatever is populated later and by whatever builders; so the whole registry
stays once it is populated, to which nothing but a malformed schema or a cycle is an obstacle. -/
theorem sessions_keep_shapes {schemas : Value} {reg : Registry}
    (discovered : Registry.discover schemas = .ok reg) (j : Journal) (past : List Step)
    {s : Session} (reached : s = (Session.opened reg j).after past) :
    (∀ key ∈ s.populated, ∃ m, s.registry.records.get? key = some m ∧
      Shaped (schemaAt reg.schemas key) m) ∧
    (s.finished = [] → ∀ steps, s.Steady (steps ++ .freshBuilder :: steps) →
      (s.after (steps ++ .freshBuilder :: steps)).registry = (s.after steps).registry) ∧
    (s.finished = [] → ∀ steps later, s.Steady (steps ++ later) →
      ∃ since, (s.after steps).populated = s.populated ++ since ∧ ∀ key ∈ since,
        (s.after (steps ++ later)).registry.records.get? key =
          (s.after steps).registry.records.get? key) ∧
    (s.finished = [] → ∀ t, Step.populateAll.run s = (.ok (), t) → ∀ later, t.Steady later →
      (t.after later).registry = t.registry) ∧
    (s.finished = [] → TypedSchemas reg.schemas → ¬ Cyclic reg.schemas →
      ∃ t, Step.populateAll.run s = (.ok (), t)) := by
  have kept : Kept reg s := reached ▸ (kept_opened discovered j).after past
  have initial := kept.initial_here
  refine ⟨kept.shaped, fun fresh steps steady => kept.repeated fresh steady, ?_, ?_,
    kept.populateAll_succeeds⟩
  · intro fresh steps later steady
    obtain ⟨since, grown, middle⟩ := (settled_fresh kept.fitting_here fresh).after initial steady.left
    obtain ⟨more, _, last⟩ := middle.after initial steady.right
    rw [← Session.after_append] at last
    refine ⟨since, grown, ?_⟩
    intro key hk
    exact last.agree middle (List.mem_append_left more hk) hk
  · intro fresh t run later steady
    have here : t = (Step.populateAll.run s).2 := (congrArg Prod.snd run).symm
    obtain ⟨since, _, middle⟩ := (settled_fresh kept.fitting_here fresh).step initial .populateAll
      (kept.step_nameOf rfl)
    rw [← here] at middle
    obtain ⟨more, _, last⟩ := middle.after initial steady
    apply middle.registry_eq last
    intro key hk
    obtain ⟨m, _, stored⟩ := last.finished key (List.mem_append_right _ hk)
    have known : key ∈ t.registry.records.names := by
      have names := last.standing.alike.names.symm.trans middle.standing.alike.names
      rw [← names]
      exact Table.mem_names.mpr ⟨m, stored⟩
    exact middle.present key (kept.populateAll_finished fresh run key known)

/-- A renamed class is populated, and populated again. -/
theorem sessions_petSchemas :
    let reg : Registry := ⟨petSchemas, petSchemas.map Registry.skeletonOf⟩
    let s := (Session.opened reg []).after [.rename "Cat" "Tom"]
    Registry.discover (Registry.mappingOf petSchemas) = .ok reg ∧
      ∃ t, Step.populateAll.run s = (.ok (), t) ∧
        (∃ m, t.registry.records.get? "Cat" = some m ∧
          Shaped (schemaAt petSchemas "Cat") m) ∧
        (t.after [.freshBuilder, .populateAll]).registry = t.registry ∧
        (t.after [.freshBuilder, .populate "Cat" []]).registry = t.registry := by
  intro reg s
  have discovered : Registry.discover (Registry.mappingOf petSchemas) = .ok reg :=
    Registry.discover_ok typed_petSchemas
  have kept : Kept reg s := (kept_opened discovered []).after _
  have fresh : s.finished = [] := by
    change ((Step.rename "Cat" "Tom").run (Session.opened reg [])).2.finished = []
    simp only [Step.run]
    split <;> rfl
  obtain ⟨_, repeats, _, stays, succeeds⟩ :=
    sessions_keep_shapes discovered [] [.rename "Cat" "Tom"] (s := s) rfl
  obtain ⟨t, run⟩ := succeeds fresh typed_petSchemas acyclic_petSchemas
  have reached : t = (Session.opened reg []).after [.rename "Cat" "Tom", .populateAll] :=
    (congrArg Prod.snd run).symm
  obtain ⟨shaped, _⟩ := sessions_keep_shapes discovered [] _ reached
  have keptThere : Kept reg t := reached ▸ (kept_opened discovered []).after _
  have known : "Cat" ∈ t.registry.records.names := by
    rw [keptThere.initial.names]
    decide
  have done : "Cat" ∈ t.populated :=
    List.mem_append_right _ (kept.populateAll_finished fresh run "Cat" known)
  have again := repeats fresh [.populateAll] (kept.steady (by simp [Step.renames]))
  have twice : s.after ([.populateAll] ++ .freshBuilder :: [.populateAll]) =
      t.after [.freshBuilder, .populateAll] := by
    rw [show t = s.after [.populateAll] from (congrArg Prod.snd run).symm]
    rfl
  rw [twice, show s.after [.populateAll] = t from congrArg Prod.snd run] at again
  refine ⟨discovered, t, run, shaped "Cat" done, again, ?_⟩
  exact stays fresh t run _ (keptThere.steady (by simp [Step.renames]))

end SdkBlueprint.Population
