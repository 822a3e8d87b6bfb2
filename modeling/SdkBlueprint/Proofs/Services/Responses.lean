import SdkBlueprint.Services.Variants

/-! How an operation replies: which of its responses is chosen, and where the references of
that lead. Following a chain of references finds the object at its end if there is one. -/
namespace SdkBlueprint.Services
open SdkBlueprint.Document SdkBlueprint.Schema

/-- The node refers to entries of the table under the given keys, one after the other, and
the last of them is an object. -/
inductive LeadsBy (table : Value) : List String → Value → Value → Prop
  | here {node} (object : node.isMap = true) (plain : ref? node = none) : LeadsBy table [] node node
  | there {node ref next target keys} (refers : ref? node = some ref)
      (found : table.field? (pointerKey ref.display) = some next)
      (rest : LeadsBy table keys next target) :
      LeadsBy table (pointerKey ref.display :: keys) node target

/-- The chain of references that starts at the node ends in the object. -/
def Leads (table node target : Value) : Prop := ∃ keys, LeadsBy table keys node target

namespace LeadsBy

variable {table node target : Value} {keys : List String}

theorem unique (h : LeadsBy table keys node target) {keys' : List String} {target' : Value}
    (h' : LeadsBy table keys' node target') : keys = keys' ∧ target = target' := by
  induction h generalizing keys' with
  | here object plain =>
      cases h' with
      | here => exact ⟨rfl, rfl⟩
      | there refers => cases plain.symm.trans refers
  | there refers found rest ih =>
      cases h' with
      | here object plain => cases plain.symm.trans refers
      | there refers' found' rest' =>
          cases refers.symm.trans refers'
          cases found.symm.trans found'
          obtain ⟨rfl, rfl⟩ := ih rest'
          exact ⟨rfl, rfl⟩

/-- From each key on, what is left of the chain starts at the entry under the key. -/
theorem from_key (h : LeadsBy table keys node target) {before after : List String} {key : String}
    (split : keys = before ++ key :: after) :
    ∃ next, table.field? key = some next ∧ LeadsBy table after next target := by
  induction h generalizing before with
  | here => simp at split
  | there refers found rest ih =>
      cases before with
      | nil =>
          obtain ⟨rfl, rfl⟩ := List.cons.inj split
          exact ⟨_, found, rest⟩
      | cons k before => exact ih (List.cons.inj split).2

/-- A chain with an end comes to no key twice. -/
theorem nodup (h : LeadsBy table keys node target) : keys.Nodup := by
  induction h with
  | here => exact .nil
  | @there _ ref _ _ keys refers found rest ih =>
      refine List.nodup_cons.mpr ⟨fun again => ?_, ih⟩
      obtain ⟨before, after, split⟩ := List.append_of_mem again
      obtain ⟨next, found', shorter⟩ := rest.from_key split
      cases found.symm.trans found'
      -- The chain from the key on would be as long as its own tail.
      have same := congrArg List.length (rest.unique shorter).1
      rw [split] at same
      simp at same
      omega

end LeadsBy

/-- A reference to itself leads nowhere. -/
theorem not_leads_of_loop {table node ref : Value} (refers : ref? node = some ref)
    (found : table.field? (pointerKey ref.display) = some node) (target : Value) :
    ¬ Leads table node target := by
  rintro ⟨keys, leads⟩
  have again : LeadsBy table (pointerKey ref.display :: keys) node target :=
    .there refers found leads
  have same := congrArg List.length (again.unique leads).1
  simp at same

theorem not_leads_of_dangling {table node ref : Value} (refers : ref? node = some ref)
    (missing : table.field? (pointerKey ref.display) = none) (target : Value) :
    ¬ Leads table node target := by
  rintro ⟨keys, leads⟩
  cases leads with
  | here _ plain => cases refers.symm.trans plain
  | there refers' found =>
      cases refers.symm.trans refers'
      cases missing.symm.trans found

theorem follow_of_leadsBy {entries : List (Scalar × Value)} {node target : Value}
    {keys : List String} (h : LeadsBy (.map entries) keys node target) {seen : List String}
    (fresh : ∀ k ∈ keys, k ∉ seen) : follow entries seen node = some target := by
  have distinct := h.nodup
  induction h generalizing seen with
  | here object plain =>
      rw [follow, plain]
      exact if_pos object
  | @there _ ref next _ keys refers found rest ih =>
      rw [List.nodup_cons] at distinct
      have found' : Value.member? (pointerKey ref.display) entries = some next := found
      have later : ∀ k ∈ keys, k ∉ pointerKey ref.display :: seen := by
        intro k hk
        rw [List.mem_cons, not_or]
        exact ⟨fun same => distinct.1 (same ▸ hk), fresh k (List.mem_cons_of_mem _ hk)⟩
      have further := ih later distinct.2
      rw [follow, refers]
      simp only [dif_neg (fresh _ List.mem_cons_self)]
      split
      · next none => cases found'.symm.trans none
      · next found'' =>
        cases found'.symm.trans found''
        exact further

theorem leads_of_follow {entries : List (Scalar × Value)} {seen : List String}
    {node target : Value} (h : follow entries seen node = some target) :
    Leads (.map entries) node target := by
  fun_induction follow entries seen node with
  | case1 seen node plain object =>
      cases h
      exact ⟨[], .here object plain⟩
  | case2 => cases h
  | case3 => cases h
  | case4 => cases h
  | case5 seen node ref refers key fresh next found ih =>
      obtain ⟨keys, rest⟩ := ih h
      exact ⟨_, .there refers found rest⟩

/-- Looking for the mapping that a node stands for finds the end of its chain. -/
theorem target_eq_some_iff {table node : Value} {found : Option Value}
    (h : Services.target table node = .ok found) (object : Value) :
    found = some object ↔ Leads table node object := by
  unfold Services.target at h
  split at h
  · cases table with
    | map entries =>
        cases h
        constructor
        · exact leads_of_follow
        · rintro ⟨keys, leads⟩
          exact follow_of_leadsBy leads fun _ _ => List.not_mem_nil
    | _ => cases h
  · next plain =>
    have none : ref? node = none := by simpa [isReference] using plain
    cases h
    constructor
    · intro same
      split at same
      · next isMap =>
        cases same
        exact ⟨[], .here isMap none⟩
      · cases same
    · rintro ⟨keys, leads⟩
      cases leads with
      | here isMap _ => exact if_pos isMap
      | there refers => cases none.symm.trans refers

/-- The first success response, else the default one. -/
inductive Selects (responses : List (Scalar × Value)) : String → Value → Prop
  | success {before status declared after}
      (split : responses = before ++ (status, declared) :: after)
      (first : ∀ r ∈ before, isSuccess r.1 = false) (here : isSuccess status = true) :
      Selects responses status.display declared
  | fallback {declared} (failures : ∀ r ∈ responses, isSuccess r.1 = false)
      (found : Value.member? "default" responses = some declared) :
      Selects responses "default" declared

theorem successResponse_eq_some_iff {responses : List (Scalar × Value)} {status : String}
    {declared : Value} :
    successResponse responses = some (status, declared) ↔ Selects responses status declared := by
  unfold successResponse
  constructor
  · intro h
    split at h
    · next found =>
      cases h
      obtain ⟨here, before, after, split, first⟩ := List.find?_eq_some_iff_append.mp found
      exact .success split (fun r hr => by simpa using first r hr) here
    · next none =>
      obtain ⟨declared', found, same⟩ := Option.map_eq_some_iff.mp h
      cases same
      exact .fallback (fun r hr => by simpa using List.find?_eq_none.mp none r hr) found
  · intro h
    cases h with
    | success split first here =>
        have found : responses.find? (fun e => isSuccess e.1) = some (_, declared) :=
          List.find?_eq_some_iff_append.mpr
            ⟨here, _, _, split, fun r hr => by simpa using first r hr⟩
        rw [found]
    | fallback failures found =>
        have none : responses.find? (fun e => isSuccess e.1) = none :=
          List.find?_eq_none.mpr fun r hr => by simpa using failures r hr
        rw [none, found]
        rfl

theorem member?_eq_none_iff {name : String} {entries : List (Scalar × Value)} :
    Value.member? name entries = none ↔ ∀ e ∈ entries, e.1 ≠ .text name := by
  induction entries with
  | nil => simp [Value.member?]
  | cons e rest ih =>
      obtain ⟨k, v⟩ := e
      cases k with
      | text s =>
          rw [Value.member?, List.forall_mem_cons]
          by_cases h : s = name
          · simp [h]
          · simp [h, ih]
      | _ => simp [Value.member?, ih]

theorem successResponse_eq_none_iff {responses : List (Scalar × Value)} :
    successResponse responses = none ↔
      ∀ r ∈ responses, isSuccess r.1 = false ∧ r.1 ≠ .text "default" := by
  unfold successResponse
  constructor
  · intro h
    split at h
    · cases h
    · next none =>
      have absent := member?_eq_none_iff.mp (Option.map_eq_none_iff.mp h)
      exact fun r hr => ⟨by simpa using List.find?_eq_none.mp none r hr, absent r hr⟩
  · intro h
    have none : responses.find? (fun e => isSuccess e.1) = none :=
      List.find?_eq_none.mpr fun r hr => by simpa using (h r hr).1
    rw [none, member?_eq_none_iff.mpr fun r hr => (h r hr).2]
    rfl

/-- The ways in which an operation replies. -/
inductive Reply where
  | missing
  | unresolved (status : String)
  | bare
  | content (status : String) (entries : List (Scalar × Value))

section Replies

variable (components : Components) (e : Endpoint)

/-- The response that an endpoint declares for the first success status, or by default. -/
def Declares (status : String) (declared : Value) : Prop :=
  ∃ responses, fieldsOf (orEmptyMap (e.operation.field "responses")) = .ok responses ∧
    Selects responses status declared

/-- An operation has no success response, or it has one that leads to no object, or to one
without content, or to one with content. -/
inductive Replies : Reply → Prop
  | missing {responses}
      (all : fieldsOf (orEmptyMap (e.operation.field "responses")) = .ok responses)
      (none : ∀ r ∈ responses, isSuccess r.1 = false ∧ r.1 ≠ .text "default") : Replies .missing
  | unresolved {status declared} (first : Declares e status declared)
      (nowhere : ∀ object, ¬ Leads components.responses declared object) :
      Replies (.unresolved status)
  | bare {status declared object} (first : Declares e status declared)
      (leads : Leads components.responses declared object)
      (empty : isSet object "content" = false) : Replies .bare
  | content {status declared object entries} (first : Declares e status declared)
      (leads : Leads components.responses declared object)
      (filled : object.field "content" = .map entries) (some : entries ≠ []) :
      Replies (.content status entries)

variable {components e}

theorem Declares.unique {status status' : String} {declared declared' : Value}
    (h : Declares e status declared) (h' : Declares e status' declared') :
    status = status' ∧ declared = declared' := by
  obtain ⟨responses, all, selects⟩ := h
  obtain ⟨responses', all', selects'⟩ := h'
  cases all.symm.trans all'
  rw [← successResponse_eq_some_iff] at selects selects'
  cases selects.symm.trans selects'
  exact ⟨rfl, rfl⟩

theorem Leads.unique {table node target target' : Value} (h : Leads table node target)
    (h' : Leads table node target') : target = target' := by
  obtain ⟨_, by_⟩ := h
  obtain ⟨_, by_'⟩ := h'
  exact (by_.unique by_').2

/-- Where a success response is missing, none is declared. -/
theorem not_declares {responses : List (Scalar × Value)}
    (all : fieldsOf (orEmptyMap (e.operation.field "responses")) = .ok responses)
    (none : ∀ r ∈ responses, isSuccess r.1 = false ∧ r.1 ≠ .text "default") {status : String}
    {declared : Value} : ¬ Declares e status declared := by
  rintro ⟨responses', all', selects⟩
  cases all.symm.trans all'
  rw [← successResponse_eq_some_iff, successResponse_eq_none_iff.mpr none] at selects
  cases selects

/-- An operation replies in one way. -/
theorem Replies.unique {r r' : Reply} (h : Replies components e r)
    (h' : Replies components e r') : r = r' := by
  have set : ∀ {object : Value} {entries}, object.field "content" = .map entries →
      entries ≠ [] → isSet object "content" = true := by
    intro object entries filled some
    rw [isSet, filled]
    simpa [Value.truthy] using some
  cases h with
  | missing all none =>
      cases h' with
      | missing => rfl
      | unresolved first => exact absurd first (not_declares all none)
      | bare first => exact absurd first (not_declares all none)
      | content first => exact absurd first (not_declares all none)
  | unresolved first nowhere =>
      cases h' with
      | missing all none => exact absurd first (not_declares all none)
      | unresolved first' => rw [(first.unique first').1]
      | bare first' leads =>
          obtain ⟨rfl, rfl⟩ := first.unique first'
          exact absurd leads (nowhere _)
      | content first' leads =>
          obtain ⟨rfl, rfl⟩ := first.unique first'
          exact absurd leads (nowhere _)
  | bare first leads empty =>
      cases h' with
      | missing all none => exact absurd first (not_declares all none)
      | unresolved first' nowhere =>
          obtain ⟨rfl, rfl⟩ := first.unique first'
          exact absurd leads (nowhere _)
      | bare => rfl
      | content first' leads' filled some =>
          obtain ⟨rfl, rfl⟩ := first.unique first'
          cases leads.unique leads'
          cases empty.symm.trans (set filled some)
  | content first leads filled some =>
      cases h' with
      | missing all none => exact absurd first (not_declares all none)
      | unresolved first' nowhere =>
          obtain ⟨rfl, rfl⟩ := first.unique first'
          exact absurd leads (nowhere _)
      | bare first' leads' empty =>
          obtain ⟨rfl, rfl⟩ := first.unique first'
          cases leads.unique leads'
          cases empty.symm.trans (set filled some)
      | content first' leads' filled' =>
          obtain ⟨rfl, rfl⟩ := first.unique first'
          cases leads.unique leads'
          cases filled.symm.trans filled'
          rfl

end Replies

end SdkBlueprint.Services
