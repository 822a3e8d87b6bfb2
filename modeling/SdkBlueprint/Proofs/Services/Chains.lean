import Mathlib.Data.List.Perm.Subperm
import SdkBlueprint.Proofs.Services.Responses

/-! Chains of references through a table of components. From every node there is one chain, and
looking for what the node stands for goes along it to the end: it finds the object there, and
nothing if the chain breaks off, ends in a value that is no object, or comes back to a key. -/
namespace SdkBlueprint.Services
open SdkBlueprint.Document SdkBlueprint.Schema

/-- The references met from one node to another refer to entries of the table under the given
keys, one after the other. -/
inductive Chain (table : Value) : List String → Value → Value → Prop
  | start (node) : Chain table [] node node
  | step {node ref next last keys} (refers : ref? node = some ref)
      (found : table.field? (pointerKey ref.display) = some next)
      (rest : Chain table keys next last) :
      Chain table (pointerKey ref.display :: keys) node last

/-- The node refers to a key that the table does not have. -/
def Dangles (table node : Value) : Prop :=
  ∃ ref, ref? node = some ref ∧ table.field? (pointerKey ref.display) = none

/-- The chain from the node meets a missing key or a value that is no object, or it comes to
some key a second time. -/
inductive Strays (table node : Value) : Prop
  | dangling {keys last} (chain : Chain table keys node last) (missing : Dangles table last)
  | foreign {keys last} (chain : Chain table keys node last) (foreign : last.isMap = false)
  | looping {keys last} (chain : Chain table keys node last) (again : ¬ keys.Nodup)

theorem isMap_of_ref? {node ref : Value} (refers : ref? node = some ref) : node.isMap = true := by
  cases node with
  | map entries => rfl
  | _ => cases refers

theorem hasField_ref {node : Value} : node.hasField "$ref" = false ↔ ref? node = none := by
  rw [Value.hasField, ref?, Option.isSome_eq_false_iff, Option.isNone_iff_eq_none]

namespace Chain

variable {table node next last target : Value} {keys all : List String}

theorem trans (h : Chain table keys node next) {more : List String}
    (h' : Chain table more next last) : Chain table (keys ++ more) node last := by
  induction h with
  | start => exact h'
  | step refers found rest ih => exact .step refers found (ih h')

theorem to_leadsBy (h : Chain table keys node last) (object : last.isMap = true)
    (plain : ref? last = none) : LeadsBy table keys node last := by
  induction h with
  | start => exact .here object plain
  | step refers found rest ih => exact .there refers found (ih object plain)

theorem of_leadsBy (h : LeadsBy table keys node target) :
    Chain table keys node target ∧ target.isMap = true ∧ ref? target = none := by
  induction h with
  | here object plain => exact ⟨.start _, object, plain⟩
  | there refers found rest ih => exact ⟨.step refers found ih.1, ih.2⟩

/-- A chain that leads to an object runs through every node that the chain from its start comes
to. -/
theorem within (h : Chain table keys node last) (leads : LeadsBy table all node target) :
    ∃ rest, all = keys ++ rest ∧ LeadsBy table rest last target := by
  induction h generalizing all with
  | start => exact ⟨all, rfl, leads⟩
  | step refers found rest ih =>
      cases leads with
      | here _ plain => cases refers.symm.trans plain
      | there refers' found' leads =>
          cases refers.symm.trans refers'
          cases found.symm.trans found'
          obtain ⟨more, rfl, leads'⟩ := ih leads
          exact ⟨more, rfl, leads'⟩

/-- Every key of a chain is the key of an entry. -/
theorem found_of_mem (h : Chain table keys node last) {key : String} (member : key ∈ keys) :
    ∃ entry, table.field? key = some entry := by
  induction h with
  | start => cases member
  | step refers found rest ih =>
      rcases List.mem_cons.mp member with rfl | later
      · exact ⟨_, found⟩
      · exact ih later

/-- A chain that comes to no key twice is no longer than the table. -/
theorem length_le {entries : List (Scalar × Value)} (h : Chain (.map entries) keys node last)
    (distinct : keys.Nodup) : keys.length ≤ entries.length := by
  have inside : keys ⊆ textKeys entries := by
    intro key member
    obtain ⟨entry, found⟩ := h.found_of_mem member
    exact mem_textKeys found
  have few : (textKeys entries).length ≤ entries.length := by
    clear h inside
    induction entries with
    | nil => exact Nat.le_refl 0
    | cons e rest ih =>
        obtain ⟨key, value⟩ := e
        cases key with
        | text s => exact Nat.succ_le_succ ih
        | _ => exact Nat.le_succ_of_le ih
  exact Nat.le_trans (distinct.subperm inside).length_le few

end Chain

/-- A chain that goes astray leads to no object. -/
theorem Strays.not_leads {table node target : Value} (h : Strays table node) :
    ¬ Leads table node target := by
  rintro ⟨all, leads⟩
  cases h with
  | dangling chain missing =>
      obtain ⟨rest, -, further⟩ := chain.within leads
      obtain ⟨ref, refers, none⟩ := missing
      exact not_leads_of_dangling refers none target ⟨rest, further⟩
  | foreign chain foreign =>
      obtain ⟨rest, -, further⟩ := chain.within leads
      cases further with
      | here object => cases foreign.symm.trans object
      | there refers => cases foreign.symm.trans (isMap_of_ref? refers)
  | looping chain again =>
      obtain ⟨rest, rfl, -⟩ := chain.within leads
      exact again (List.nodup_append.mp leads.nodup).1

/-- Where following finds nothing, the chain from any earlier node goes astray, if the keys that
were seen are those met on the way from there. -/
theorem strays_of_follow {entries : List (Scalar × Value)} {seen : List String} {node : Value}
    (h : follow entries seen node = none) {start : Value} {met : List String}
    (way : Chain (.map entries) met start node) (known : ∀ key ∈ seen, key ∈ met) :
    Strays (.map entries) start := by
  fun_induction follow entries seen node generalizing met with
  | case1 => cases h
  | case2 seen node plain foreign => exact .foreign way (Bool.eq_false_iff.mpr foreign)
  | case3 seen node ref refers key again =>
      have before : key ∈ met := known key again
      obtain ⟨next, found⟩ := way.found_of_mem before
      refine .looping (way.trans (.step refers found (.start next))) fun distinct => ?_
      exact (List.nodup_append.mp distinct).2.2 key before key List.mem_cons_self rfl
  | case4 seen node ref refers key fresh missing => exact .dangling way ⟨ref, refers, missing⟩
  | case5 seen node ref refers key fresh next found ih =>
      refine ih h (way.trans (.step refers found (.start next))) fun k hk => ?_
      rcases List.mem_cons.mp hk with rfl | earlier
      · exact List.mem_append_right met List.mem_cons_self
      · exact List.mem_append_left _ (known k earlier)

theorem target_map (entries : List (Scalar × Value)) (node : Value) :
    Services.target (.map entries) node = .ok (follow entries [] node) := by
  unfold Services.target
  split
  · rfl
  · next plain =>
    have none : ref? node = none := by simpa [isReference] using plain
    rw [follow, none]

/-- Looking through a table for what a node stands for always comes to an end. It finds an object
if and only if that has no reference and the chain from the node comes to it, and nothing if and
only if the chain goes astray; no chain has to be followed for more keys than the table has. -/
theorem component_chains_followed (entries : List (Scalar × Value)) (node : Value) :
    ∃ found, Services.target (.map entries) node = .ok found ∧
      (∀ object, found = some object ↔
        ∃ keys, Chain (.map entries) keys node object ∧ object.isMap = true ∧
          object.hasField "$ref" = false) ∧
      (found = none ↔ Strays (.map entries) node) ∧
      ∀ keys last, Chain (.map entries) keys node last → keys.Nodup →
        keys.length ≤ entries.length := by
  have looked := target_map entries node
  refine ⟨follow entries [] node, looked, fun object => ?_, ⟨fun none => ?_, fun strays => ?_⟩,
    fun keys last chain => chain.length_le⟩
  · rw [target_eq_some_iff looked]
    constructor
    · rintro ⟨keys, leads⟩
      obtain ⟨chain, isMap, plain⟩ := Chain.of_leadsBy leads
      exact ⟨keys, chain, isMap, hasField_ref.mpr plain⟩
    · rintro ⟨keys, chain, isMap, plain⟩
      exact ⟨keys, chain.to_leadsBy isMap (hasField_ref.mp plain)⟩
  · exact strays_of_follow none (.start node) fun _ none => absurd none List.not_mem_nil
  · cases found : follow entries [] node with
    | none => rfl
    | some object =>
        exact absurd ((target_eq_some_iff looked object).mp found) strays.not_leads

end SdkBlueprint.Services
