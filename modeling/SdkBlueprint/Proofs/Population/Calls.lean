import SdkBlueprint.Proofs.Population.Cycles

/-! Population on demand, by calls in any order. Some of the calls may fail, each with its own
keys taken for visited; what they store for a key is the same whatever came before. -/
namespace SdkBlueprint.Population
open SdkBlueprint.Document SdkBlueprint.Schema Relation

section Outcomes

variable {schemas : Table Value} {nameOf : String → String} {start : Table Model}
variable {key : String} {visited : List String} {w w' : Workshop}

theorem populate_finished (finished : key ∈ w.finished) :
    (populate schemas nameOf key visited).run w = (.ok (), w) := by
  have stays : Build.Ends (populate schemas nameOf key visited) w
      fun r w' => r = .ok () ∧ w' = w := by
    rw [populate]
    refine Build.ends_isFinished_bind ?_
    rw [if_pos (List.contains_iff_mem.mpr finished)]
    exact Build.ends_pure ⟨rfl, rfl⟩
  exact Prod.ext stays.1 stays.2

theorem populate_unknown (unknown : w.records.get? key = none) :
    (populate schemas nameOf key visited).run w = (.ok (), w) := by
  by_cases finished : key ∈ w.finished
  · exact populate_finished finished
  · have stays : Build.Ends (populate schemas nameOf key visited) w
        fun r w' => r = .ok () ∧ w' = w := by
      rw [populate]
      refine Build.ends_isFinished_bind ?_
      rw [if_neg (mt List.contains_iff_mem.mp finished)]
      refine Build.ends_record?_bind ?_
      rw [unknown]
      exact Build.ends_pure ⟨rfl, rfl⟩
    exact Prod.ext stays.1 stays.2

/-- A finished key has finished parts. -/
theorem Sound.closed (sound : Sound schemas nameOf start w) {k : String} (hk : k ∈ w.finished)
    {t : String} (edge : Composes schemas k t) : t ∈ w.finished := by
  obtain ⟨ps, past⟩ := sound
  rw [past.finished, List.nil_append] at hk ⊢
  obtain ⟨p, hp, rfl⟩ := List.mem_map.mp hk
  obtain ⟨before, after, split⟩ := List.append_of_mem hp
  rw [split, List.map_append]
  exact List.mem_append_left _ (by simpa using past.orderly.ready_before split t edge)

theorem Sound.reaches (sound : Sound schemas nameOf start w) {k t : String}
    (hk : k ∈ w.finished) (path : ReflTransGen (Composes schemas) k t) : t ∈ w.finished := by
  induction path with
  | refl => exact hk
  | tail _ edge ih => exact sound.closed ih edge

/-- What can be built is on no cycle. -/
theorem Built.accessible {p : Product} (built : Built schemas nameOf start p) :
    Acc (fun t k => Composes schemas k t) p.key := by
  induction built with
  | @intro p _ _ part _ keys _ _ _ ih =>
      exact .intro p.key fun t edge => keys t edge ▸ ih t edge

/-- Nothing on the chain of a failure is finished. -/
theorem RaisedOn.waiting {e : Failure} {chain : List String}
    (h : RaisedOn schemas nameOf start e w key visited chain) : ∀ k ∈ chain, k ∉ w.finished := by
  induction h with
  | back waiting => simpa using waiting
  | reading waiting => simpa using waiting
  | part waiting _ _ ih =>
      intro k hk
      rcases List.mem_cons.mp hk with rfl | hk
      · exact waiting
      · exact ih k hk

theorem RaisedOn.head {e : Failure} {chain : List String}
    (h : RaisedOn schemas nameOf start e w key visited chain) : key ∈ chain := by
  cases h <;> simp

end Outcomes

/-- The finished record of a key: what is built of its schema and its finished parts. -/
def FinishedRecord (registry : Registry) (key : String) (m : Model) : Prop :=
  ∃ p, Built registry.schemas registry.nameOf registry.records p ∧ p.key = key ∧ p.model = m

theorem FinishedRecord.unique {registry : Registry} {key : String} {m m' : Model}
    (h : FinishedRecord registry key m) (h' : FinishedRecord registry key m') : m = m' := by
  obtain ⟨p, built, rfl, rfl⟩ := h
  obtain ⟨q, built', same, rfl⟩ := h'
  rw [built'.unique built same]

/-- A call for a key, with the keys that count as visited. -/
structure Call where
  key : String
  visited : List String

namespace Call

def run (registry : Registry) (c : Call) (w : Workshop) : Attempt Unit × Workshop :=
  (populate registry.schemas registry.nameOf c.key c.visited).run w

/-- The workshop after calls, whatever became of each of them. -/
def after (registry : Registry) (calls : List Call) (w : Workshop) : Workshop :=
  calls.foldl (fun w c => (c.run registry w).2) w

end Call

/-- Every record is the skeleton of its key or its finished record. -/
structure Whole (registry : Registry) (w : Workshop) : Prop where
  names : w.records.names = registry.records.names
  waiting : ∀ k, k ∉ w.finished → w.records.get? k = registry.records.get? k
  finished : ∀ k ∈ w.finished, ∃ m, FinishedRecord registry k m ∧ w.records.get? k = some m

theorem Whole.records_unique {registry : Registry} {w w' : Workshop} (h : Whole registry w)
    (h' : Whole registry w') (same : ∀ k, k ∈ w.finished ↔ k ∈ w'.finished) :
    w.records = w'.records := by
  refine Table.ext_get? (h.names.trans h'.names.symm) fun k => ?_
  by_cases hk : k ∈ w.finished
  · obtain ⟨m, hm, stored⟩ := h.finished k hk
    obtain ⟨m', hm', stored'⟩ := h'.finished k ((same k).mp hk)
    rw [stored, stored', hm.unique hm']
  · rw [h.waiting k hk, h'.waiting k (mt (same k).mpr hk)]

section Calls

variable {registry : Registry} (initial : Initial registry.schemas registry.records)

/-- The workshops that calls lead to. -/
abbrev Reached (registry : Registry) (w : Workshop) : Prop :=
  Sound registry.schemas registry.nameOf registry.records w

include initial

theorem Reached.whole {w : Workshop} (reached : Reached registry w) : Whole registry w := by
  refine ⟨?_, fun k hk => reached.record_of_waiting hk, fun k hk => ?_⟩
  · rw [reached.names initial.names, initial.names]
  · obtain ⟨p, built, same, stored⟩ := reached.product hk
    exact ⟨p.model, ⟨p, built, same, rfl⟩, stored⟩

/-- A call stores products within its reach. It finishes its key, or it says on which chain it
failed. -/
theorem call_passes (c : Call) {w : Workshop} (reached : Reached registry w) :
    Build.Ends (populate registry.schemas registry.nameOf c.key c.visited) w
      (Passes registry.schemas registry.nameOf registry.records
        (Within registry.schemas c.key c.visited)
        (fun e w' => ∃ chain,
          RaisedOn registry.schemas registry.nameOf registry.records e w' c.key c.visited chain)
        w fun _ _ w' => c.key ∈ registry.schemas.names → c.key ∈ w'.finished) := by
  by_cases registered : c.key ∈ registry.schemas.names
  · exact (populate_prepares registry.nameOf initial c.key c.visited registered w reached).mono
      fun r w' passes => passes.imp fun _ _ _ q _ => q.1
  · have unknown : w.records.get? c.key = none := by
      rwa [Table.get?_eq_none_iff, reached.names initial.names]
    unfold Build.Ends
    rw [populate_unknown unknown]
    exact .still rfl rfl fun known => absurd known registered

theorem Reached.call (c : Call) {w : Workshop} (reached : Reached registry w) :
    Reached registry (c.run registry w).2 := by
  obtain ⟨ps, moves, _⟩ := call_passes initial c reached
  exact reached.moves moves

theorem reached_after (calls : List Call) {w : Workshop} (reached : Reached registry w) :
    Reached registry (Call.after registry calls w) := by
  induction calls generalizing w with
  | nil => exact reached
  | cons c calls ih => exact ih (reached.call initial c)

/-- A call that fails leaves alone what is on its chain and what it takes for visited. -/
theorem call_failed {c : Call} {w w' : Workshop} {e : Failure} (reached : Reached registry w)
    (failed : c.run registry w = (.error e, w')) :
    ∃ chain, RaisedOn registry.schemas registry.nameOf registry.records e w' c.key c.visited
        chain ∧ ∀ k ∈ chain ++ c.visited, w'.records.get? k = w.records.get? k := by
  have passes := call_passes initial c reached
  unfold Build.Ends at passes
  rw [show (populate registry.schemas registry.nameOf c.key c.visited).run w = (.error e, w')
    from failed] at passes
  obtain ⟨ps, moves, within, chain, raised⟩ := passes
  have untouched : ∀ k, k ∉ w'.finished → w'.records.get? k = w.records.get? k := by
    intro k hk
    rw [(reached.moves moves).record_of_waiting hk,
      reached.record_of_waiting fun h => hk (moves.finished_subset k h)]
  refine ⟨chain, raised, fun k hk => ?_⟩
  rcases List.mem_append.mp hk with hk | hk
  · exact untouched k (raised.waiting k hk)
  · by_cases same : k = c.key
    · exact untouched k (same ▸ raised.waiting c.key raised.head)
    · rw [moves.records]
      refine get?_store_of_not_mem (fun stored => ?_) _
      obtain ⟨p, hp, rfl⟩ := List.mem_map.mp stored
      exact same ((within p hp).2 hk)

/-- A call that succeeds finishes all that its key leads to, and nothing else. -/
theorem call_succeeded {c : Call} {w w' : Workshop} {u : Unit} (reached : Reached registry w)
    (succeeded : c.run registry w = (.ok u, w')) (k : String) :
    k ∈ w'.finished ↔ k ∈ w.finished ∨
      c.key ∈ registry.schemas.names ∧ ReflTransGen (Composes registry.schemas) c.key k := by
  have passes := call_passes initial c reached
  unfold Build.Ends at passes
  rw [show (populate registry.schemas registry.nameOf c.key c.visited).run w = (.ok u, w')
    from succeeded] at passes
  obtain ⟨ps, moves, within, finishes⟩ := passes
  have registered : ∀ p ∈ ps, c.key ∈ registry.schemas.names := by
    intro p hp
    rcases ReflTransGen.cases_head (within p hp).1 with same | ⟨t, edge, _⟩
    · exact same ▸ moves.orderly.registered p hp
    · exact edge.2.registered
  constructor
  · intro hk
    rw [moves.finished, List.mem_append, List.mem_map] at hk
    rcases hk with hk | ⟨p, hp, rfl⟩
    · exact .inl hk
    · exact .inr ⟨registered p hp, (within p hp).1⟩
  · rintro (hk | ⟨known, path⟩)
    · exact moves.finished_subset k hk
    · exact (reached.moves moves).reaches (finishes known) path

end Calls

/-- Whatever calls are made on a registry and whichever of them fail, every record is a skeleton
or finished, and a finished record does not depend on the calls. A failed call leaves the
records on its chain as they were, and a call for a finished key changes nothing. -/
theorem calls_confluent {schemas : Value} {reg registry : Registry}
    (discovered : Registry.discover schemas = .ok reg) (handed : Handed reg registry) :
    (∀ key m m', FinishedRecord registry key m → FinishedRecord registry key m' → m = m') ∧
    ∀ (calls : List Call) (j : Journal) (w : Workshop),
      w = Call.after registry calls ⟨registry.records, [], j⟩ →
      Whole registry w ∧
      (∀ c e w', Call.run registry c w = (.error e, w') → ∃ chain,
        RaisedOn registry.schemas registry.nameOf registry.records e w' c.key c.visited chain ∧
        (∀ k ∈ chain, k ∉ w'.finished) ∧
        ∀ k ∈ chain ++ c.visited, w'.records.get? k = w.records.get? k) ∧
      (∀ c : Call, c.key ∈ w.finished → Call.run registry c w = (.ok (), w)) ∧
      (∀ c w', Call.run registry c w = (.ok (), w') → ∀ k, k ∈ w'.finished ↔ k ∈ w.finished ∨
        c.key ∈ registry.schemas.names ∧ ReflTransGen (Composes registry.schemas) c.key k) ∧
      (∀ key visited visited' w₁ w₂, Call.run registry ⟨key, visited⟩ w = (.ok (), w₁) →
        Call.run registry ⟨key, visited'⟩ w = (.ok (), w₂) → w₁.records = w₂.records) ∧
      ∀ (calls' : List Call) (j' : Journal) (w' : Workshop),
        w' = Call.after registry calls' ⟨registry.records, [], j'⟩ →
        ∀ k, k ∈ w.finished → k ∈ w'.finished → w.records.get? k = w'.records.get? k := by
  obtain ⟨es, _, same⟩ := Registry.discover_pairs discovered
  subst same
  obtain ⟨known, initial⟩ := handed.initial
  rw [← known] at initial
  have reached : ∀ calls j,
      Reached registry (Call.after registry calls ⟨registry.records, [], j⟩) :=
    fun calls j => reached_after initial calls (.initial j)
  refine ⟨fun _ _ _ h h' => h.unique h', fun calls j w hw => ?_⟩
  have here : Reached registry w := hw ▸ reached calls j
  have whole := here.whole initial
  refine ⟨whole, fun c e w' failed => ?_, fun c => populate_finished,
    fun c w' succeeded k => call_succeeded initial here succeeded k,
    fun key visited visited' w₁ w₂ first second => ?_, fun calls' j' w' hw' k hk hk' => ?_⟩
  · obtain ⟨chain, raised, untouched⟩ := call_failed initial here failed
    exact ⟨chain, raised, raised.waiting, untouched⟩
  · have whole₁ := (here.call initial ⟨key, visited⟩).whole initial
    have whole₂ := (here.call initial ⟨key, visited'⟩).whole initial
    rw [first] at whole₁
    rw [second] at whole₂
    refine whole₁.records_unique whole₂ fun k => ?_
    rw [call_succeeded initial here first k, call_succeeded initial here second k]
  · obtain ⟨m, finished, stored⟩ := whole.finished k hk
    obtain ⟨m', finished', stored'⟩ := ((hw' ▸ reached calls' j').whole initial).finished k hk'
    rw [stored, stored', finished.unique finished']

/-- A call for one of two schemas that compose each other fails, and the record stays. -/
theorem calls_mutualSchemas :
    let reg : Registry := ⟨mutualSchemas, mutualSchemas.map Registry.skeletonOf⟩
    Registry.discover (Registry.mappingOf mutualSchemas) = .ok reg ∧ Handed reg reg ∧
      ∃ e w, Call.run reg ⟨"Cat", []⟩ ⟨reg.records, [], []⟩ = (.error e, w) ∧
        w.records.get? "Cat" = reg.records.get? "Cat" := by
  intro reg
  have discovered : Registry.discover (Registry.mappingOf mutualSchemas) = .ok reg :=
    Registry.discover_ok typed_mutualSchemas
  obtain ⟨_, outcomes⟩ := calls_confluent discovered (.inl rfl)
  obtain ⟨_, failed, _, succeeded, _⟩ := outcomes [] [] ⟨reg.records, [], []⟩ rfl
  refine ⟨discovered, .inl rfl, ?_⟩
  rcases run : Call.run reg ⟨"Cat", []⟩ ⟨reg.records, [], []⟩ with ⟨e | u, w⟩
  · obtain ⟨chain, raised, _, untouched⟩ := failed _ _ _ run
    exact ⟨e, w, rfl, untouched "Cat" (List.mem_append_left _ raised.head)⟩
  · have stored : "Cat" ∈ w.finished := (succeeded _ _ run "Cat").mpr (.inr ⟨by decide, .refl⟩)
    obtain ⟨whole, _⟩ := outcomes [⟨"Cat", []⟩] [] w (congrArg Prod.snd run).symm
    obtain ⟨_, ⟨p, built, same, _⟩, _⟩ := whole.finished _ stored
    exact absurd cycle_mutualSchemas (no_cycle_of_accessible (same ▸ built.accessible))

end SdkBlueprint.Population
