import Mathlib.Algebra.BigOperators.Group.List.Basic
import SdkBlueprint.Proofs.Registry
import SdkBlueprint.Proofs.Services.Variants

/-! The books of a catalog. Every variant that a service takes in is stored at the end,
unchanged but for a number in its name, and every number is warned about. -/
namespace SdkBlueprint.Services
open SdkBlueprint.Document SdkBlueprint.Schema

/-- An operation as it comes and as it is stored: its name may have got a number. -/
structure Settles (v o : Operation) : Prop where
  rest : o = { v with methodName := o.methodName }
  name : o.methodName = v.methodName ∨ ∃ k, 2 ≤ k ∧ o.methodName = numbered v.methodName k

/-- A variant that a service took in, and what it stored. -/
structure Registration where
  service : String
  variant : Operation
  stored : Operation

namespace Registration

def request (r : Registration) : String × Operation := (r.service, r.variant)

def renamed (r : Registration) : Bool := r.stored.methodName != r.variant.methodName

/-- The registrations of one service. -/
def ofService (service : String) (rs : List Registration) : List Registration :=
  rs.filter fun r => r.service == service

end Registration

open Registration

theorem key_injective {o p : Operation} (ho : Colonless o.methodName) (hp : Colonless p.methodName)
    (h : o.key = p.key) : o.methodName = p.methodName := by
  have chars := congrArg String.toList h
  simp only [Operation.key, String.toList_append, List.append_assoc] at chars
  exact String.toList_inj.mp (colonless_suffix ho hp chars)

/-- What a table of operations holds of the registrations of its service. -/
structure Kept (rs : List Registration) (t : Table Operation) : Prop where
  values : t.values = rs.map stored
  keyed : t.Keyed Operation.key
  colonless : ∀ o ∈ t.values, Colonless o.methodName
  distinct : (methodNames t).Nodup

theorem kept_empty : Kept [] Table.empty :=
  ⟨rfl, Table.keyed_empty _, fun _ ho => absurd ho List.not_mem_nil, .nil⟩

theorem settled_settles (t : Table Operation) (v : Operation) : Settles v (settled t v) := by
  refine ⟨rfl, ?_⟩
  have named := (freeName_spec (methodNames t) v.methodName).2
  split at named
  · exact .inr named
  · exact .inl named

theorem settled_renamed (t : Table Operation) (v : Operation) :
    (settled t v).methodName ≠ v.methodName ↔ v.methodName ∈ methodNames t := by
  obtain ⟨free, named⟩ := freeName_spec (methodNames t) v.methodName
  constructor
  · intro h
    by_contra absent
    rw [if_neg absent] at named
    exact h named
  · intro taken same
    rw [← same] at taken
    exact free taken

theorem Kept.entered {rs : List Registration} {t : Table Operation} (h : Kept rs t)
    {r : Registration} (hv : Colonless r.variant.methodName)
    (hs : r.stored = settled t r.variant) : Kept (rs ++ [r]) (entered t r.variant) := by
  have free : (settled t r.variant).methodName ∉ methodNames t :=
    (freeName_spec (methodNames t) r.variant.methodName).1
  have plain : Colonless (settled t r.variant).methodName := by
    rcases (settled_settles t r.variant).name with name | ⟨k, _, name⟩ <;> rw [name]
    · exact hv
    · exact numbered_colonless hv k
  have new : (settled t r.variant).key ∉ t.names := by
    rw [← h.keyed.names]
    intro hk
    obtain ⟨o, ho, same⟩ := List.mem_map.mp hk
    have named := key_injective (h.colonless o ho) plain same
    exact free (named ▸ List.mem_map.mpr ⟨o, ho, rfl⟩)
  have values : (Services.entered t r.variant).values = t.values ++ [settled t r.variant] := by
    unfold Services.entered
    rw [Table.values, Table.entries_put_of_new new, List.map_append]
    rfl
  refine ⟨?_, h.keyed.put rfl, ?_, ?_⟩
  · rw [values, h.values, List.map_append, List.map_singleton, hs]
  · intro o ho
    rw [values, List.mem_append, List.mem_singleton] at ho
    exact ho.elim (h.colonless o) fun same => same ▸ plain
  · rw [methodNames, values, List.map_append, List.map_singleton]
    refine List.nodup_append.mpr ⟨h.distinct, by simp, fun a ha b hb same => free ?_⟩
    rw [List.mem_singleton] at hb
    rw [← hb, ← same]
    exact ha

/-- How many collisions a journal warns about. -/
def collisions (j : Journal) : Nat := (j.withCode .methodCollision).length

theorem collisions_append (i j : Journal) : collisions (i ++ j) = collisions i + collisions j := by
  simp only [collisions, Journal.withCode, Journal.findings_append, List.filter_append,
    List.length_append]

theorem collisions_ofReading {j : Journal} (h : ∀ e ∈ j, ofReading e) : collisions j = 0 := by
  unfold collisions Journal.withCode Journal.findings
  rw [List.length_eq_zero_iff, List.filter_eq_nil_iff]
  intro f hf
  obtain ⟨e, he, found⟩ := List.mem_filterMap.mp hf
  simpa using (h e he).2 f found

theorem collisions_of_option {α : Type} (found : Option α) (message : α → String)
    (subject : Option String) :
    collisions (found.map fun a => Entry.finding .services
      ⟨.methodCollision, .warning, message a, subject⟩).toList = found.toList.length := by
  cases found <;> rfl

theorem collisions_collision? (service : String) (t : Table Operation) (v : Operation) :
    collisions (collision? service t v).toList =
      if (settled t v).methodName != v.methodName then 1 else 0 := by
  have taken : v.methodName ∈ methodNames t ↔
      (t.values.find? fun h => h.methodName == v.methodName).isSome := by
    rw [List.find?_isSome, methodNames, List.mem_map]
    simp only [beq_iff_eq]
  rw [← settled_renamed] at taken
  rw [collision?, collisions_of_option]
  cases hf : t.values.find? fun h => h.methodName == v.methodName with
  | none =>
      rw [hf] at taken
      have same : (settled t v).methodName = v.methodName := by
        by_contra h
        cases taken.mp h
      rw [same, bne_self_eq_false]
      rfl
  | some holder =>
      rw [hf] at taken
      rw [if_pos (bne_iff_ne.mpr (taken.mpr rfl))]
      rfl

/-- What a catalog holds after registrations. -/
structure Books (c : Catalog) (rs : List Registration) : Prop where
  services : ∀ r ∈ rs, r.service ∈ c.names
  kept : ∀ s t, c.get? s = some t → Kept (ofService s rs) t
  settled : ∀ r ∈ rs, Settles r.variant r.stored

theorem books_empty : Books Table.empty [] := by
  refine ⟨by simp, fun s t ht => ?_, by simp⟩
  have none : (Table.empty : Catalog).get? s = none := rfl
  cases none.symm.trans ht

theorem Books.ensure {c : Catalog} {rs : List Registration} (h : Books c rs) (service : String) :
    Books (c.ensure service) rs := by
  unfold Catalog.ensure
  by_cases known : c.contains service = true
  · rw [if_pos known]
    exact h
  · rw [if_neg known]
    rw [Table.contains_iff] at known
    refine ⟨fun r hr => ?_, fun s t ht => ?_, h.settled⟩
    · rw [Table.names_put, if_neg known]
      exact List.mem_append_left _ (h.services r hr)
    · rw [Table.get?_put] at ht
      split at ht
      · next same =>
        have none : ofService s rs = [] := by
          refine List.filter_eq_nil_iff.mpr fun r hr here => known ?_
          rw [same, ← beq_iff_eq.mp here]
          exact h.services r hr
        rw [none, ← Option.some.inj ht]
        exact kept_empty
      · exact h.kept s t ht

/-- From one catalog and journal to another new registrations were made. -/
structure Registers (c : Catalog) (rs : List Registration) (j : Journal)
    (new : List Registration) (c' : Catalog) (k : Journal) : Prop where
  books : Books c' (rs ++ new)
  kept : ∀ s ∈ c.names, s ∈ c'.names
  warned : collisions k = collisions j + new.countP renamed

theorem Registers.refl {c : Catalog} {rs : List Registration} (h : Books c rs) (j : Journal) :
    Registers c rs j [] c j :=
  ⟨by rwa [List.append_nil], fun _ hs => hs, rfl⟩

theorem Registers.trans {c c' c'' : Catalog} {rs new new' : List Registration} {j k l : Journal}
    (first : Registers c rs j new c' k) (second : Registers c' (rs ++ new) k new' c'' l) :
    Registers c rs j (new ++ new') c'' l := by
  refine ⟨?_, fun s hs => second.kept s (first.kept s hs), ?_⟩
  · rw [← List.append_assoc]
    exact second.books
  · rw [second.warned, first.warned, List.countP_append, Nat.add_assoc]

theorem register_run (service : String) (c : Catalog) (o : Operation) (j : Journal) :
    (Catalog.register service c o).run j =
      (.ok (c.put service (entered (c.operations service) o)),
        j ++ (collision? service (c.operations service) o).toList) := rfl

theorem register_registers {c : Catalog} {rs : List Registration} (h : Books c rs)
    {service : String} (known : service ∈ c.names) {v : Operation} (hv : Colonless v.methodName)
    (j : Journal) : ∃ r c' k, (Catalog.register service c v).run j = (.ok c', k) ∧
      r.request = (service, v) ∧ Registers c rs j [r] c' k := by
  obtain ⟨t, ht⟩ := Table.mem_names.mp known
  have existing : c.operations service = t := by rw [Catalog.operations, ht, Option.getD_some]
  refine ⟨⟨service, v, settled t v⟩, c.put service (entered t v),
    j ++ (collision? service t v).toList, by rw [register_run, existing], rfl, ?_, ?_, ?_⟩
  · refine ⟨fun r hr => ?_, fun s u hu => ?_, fun r hr => ?_⟩
    · rw [Table.names_put, if_pos known]
      rcases List.mem_append.mp hr with hr | hr
      · exact h.services r hr
      · rw [List.mem_singleton.mp hr]
        exact known
    · rw [Table.get?_put] at hu
      rw [ofService, List.filter_append]
      split at hu
      · next same =>
        subst same
        rw [← Option.some.inj hu, List.filter_singleton]
        simp only [beq_self_eq_true]
        exact (h.kept service t ht).entered hv rfl
      · next other =>
        have none : [(⟨service, v, settled t v⟩ : Registration)].filter
            (fun r => r.service == s) = [] := by simp [other]
        rw [none, List.append_nil]
        exact h.kept s u hu
    · rcases List.mem_append.mp hr with hr | hr
      · exact h.settled r hr
      · rw [List.mem_singleton.mp hr]
        exact settled_settles t v
  · intro s hs
    rw [Table.names_put, if_pos known]
    exact hs
  · rw [collisions_append, collisions_collision?]
    simp [renamed]

theorem requests_registers {requests : List (String × Operation)} {c : Catalog}
    {rs : List Registration} (h : Books c rs) (known : ∀ q ∈ requests, q.1 ∈ c.names)
    (plain : ∀ q ∈ requests, Colonless q.2.methodName) (j : Journal) :
    ∃ new c' k, (requests.foldlM (fun c q => Catalog.register q.1 c q.2) c).run j = (.ok c', k) ∧
      new.map request = requests ∧ Registers c rs j new c' k := by
  induction requests generalizing c rs j with
  | nil => exact ⟨[], c, j, rfl, rfl, .refl h j⟩
  | cons q requests ih =>
      obtain ⟨r, c', k, run, hr, first⟩ :=
        register_registers h (known q (by simp)) (plain q (by simp)) j
      obtain ⟨new, c'', l, run', same, rest⟩ :=
        ih first.books (fun p hp => first.kept _ (known p (by simp [hp])))
          (fun p hp => plain p (by simp [hp])) k
      refine ⟨r :: new, c'', l, ?_, ?_, first.trans rest⟩
      · rw [List.foldlM_cons, Logged.run_bind, run]
        exact run'
      · rw [List.map_cons, hr, same]

/-- What one endpoint asks for: every variant once for each of its services. -/
def requestsOf (names : List String) (variants : List Operation) : List (String × Operation) :=
  names.flatMap fun s => variants.map (s, ·)

theorem registerAll_eq (names : List String) (vs : List Operation) (c : Catalog) :
    registerAll names vs c =
      (requestsOf names vs).foldlM (fun c q => Catalog.register q.1 c q.2) c := by
  induction names generalizing c with
  | nil => rfl
  | cons s names ih =>
      rw [registerAll, List.foldlM_cons, requestsOf, List.flatMap_cons, List.foldlM_append,
        List.foldlM_map]
      exact congrArg _ (funext ih)

theorem Books.ensureAll {c : Catalog} {rs : List Registration} (h : Books c rs)
    (names : List String) : Books (names.foldl Catalog.ensure c) rs ∧
      (∀ s ∈ c.names, s ∈ (names.foldl Catalog.ensure c).names) ∧
      ∀ s ∈ names, s ∈ (names.foldl Catalog.ensure c).names := by
  induction names generalizing c with
  | nil => exact ⟨h, fun _ hs => hs, by simp⟩
  | cons n names ih =>
      have here : n ∈ (c.ensure n).names ∧ ∀ s ∈ c.names, s ∈ (c.ensure n).names := by
        unfold Catalog.ensure
        split
        · next known => exact ⟨(c.contains_iff n).mp known, fun _ hs => hs⟩
        · rw [Table.names_put]
          split
          · next known => exact ⟨known, fun _ hs => hs⟩
          · simp +contextual
      obtain ⟨books, kept, added⟩ := ih (h.ensure n)
      refine ⟨books, fun s hs => kept s (here.2 s hs), fun s hs => ?_⟩
      rcases List.mem_cons.mp hs with rfl | hs
      · exact kept s here.1
      · exact added s hs

section Reading

variable (settings : Settings) (nameOf : String → String) (components : Components)

/-- The tags of an operation, the default one if there are none. -/
def tagsOf (operation : Value) : Value :=
  if (operation.field "tags").truthy then operation.field "tags"
  else .list [.text settings.defaultTag]

theorem serviceNames_ok {operation : Value} {names : List String}
    (h : serviceNames settings operation = .ok names) :
    names.Nodup ∧ ∃ tags, iterate (tagsOf settings operation) = .ok tags ∧
      ∀ s, s ∈ names ↔ ∃ tag ∈ tags, serviceName settings tag = s := by
  change (do return ((← iterate (tagsOf settings operation)).map
    (serviceName settings)).eraseDups) = _ at h
  cases hi : iterate (tagsOf settings operation) with
  | error f =>
      rw [hi] at h
      cases h
  | ok tags =>
      rw [hi] at h
      cases h
      refine ⟨nodup_eraseDups _, tags, rfl, fun s => ?_⟩
      rw [List.mem_eraseDups, List.mem_map]

/-- What is read of an endpoint: the services of its tags, and its variants. -/
structure Reads (e : Endpoint) (names : List String) (vs : List Operation) : Prop where
  distinct : names.Nodup
  services : ∃ tags, iterate (tagsOf settings e.operation) = .ok tags ∧
    ∀ s, s ∈ names ↔ ∃ tag ∈ tags, serviceName settings tag = s
  variants : (Services.variants nameOf components e).result = .ok vs
  each : ∀ o ∈ vs, VariantOf e o
  order : InOrder components e vs

theorem addEndpoint_registers {c c' : Catalog} {rs : List Registration} {e : Endpoint}
    {j k : Journal} (h : Books c rs)
    (run : (addEndpoint settings nameOf components c e).run j = (.ok c', k)) :
    ∃ names vs new, Reads settings nameOf components e names vs ∧ (∀ s ∈ names, s ∈ c'.names) ∧
      new.map request = requestsOf names vs ∧ Registers c rs j new c' k := by
  obtain ⟨names, j₁, run₁, run⟩ := Logged.run_bind_ok run
  obtain ⟨vs, j₂, run₂, run⟩ := Logged.run_bind_ok run
  rw [Logged.run_attempt] at run₁
  obtain ⟨hnames, rfl⟩ := Prod.mk.inj run₁
  obtain ⟨each, order⟩ := variants_yields nameOf components e j vs j₂ run₂
  have adds := variants_adds nameOf components e
  rw [adds.run] at run₂
  obtain ⟨hvs, rfl⟩ := Prod.mk.inj run₂
  obtain ⟨books, kept, added⟩ := h.ensureAll names
  have plain : ∀ q ∈ requestsOf names vs, q.1 ∈ (names.foldl Catalog.ensure c).names ∧
      Colonless q.2.methodName := by
    intro q hq
    obtain ⟨s, hs, hq⟩ := List.mem_flatMap.mp hq
    obtain ⟨o, ho, rfl⟩ := List.mem_map.mp hq
    exact ⟨added s hs, (each o ho).colonless⟩
  obtain ⟨new, c'', l, run', same, made⟩ :=
    requests_registers books (fun q hq => (plain q hq).1) (fun q hq => (plain q hq).2)
      (j ++ (variants nameOf components e).entries)
  rw [registerAll_eq, run'] at run
  cases run
  obtain ⟨distinct, tags⟩ := serviceNames_ok settings hnames
  refine ⟨names, vs, new, ⟨distinct, tags, hvs, each, order⟩, fun s hs => made.kept s (added s hs),
    same, made.books, fun s hs => made.kept s (kept s hs), ?_⟩
  rw [made.warned, collisions_append, collisions_ofReading adds.sort, Nat.add_zero]

theorem endpoints_register {endpoints : List Endpoint} {c c' : Catalog} {rs : List Registration}
    {j k : Journal} (h : Books c rs)
    (run : (endpoints.foldlM (addEndpoint settings nameOf components) c).run j = (.ok c', k)) :
    ∃ (readings : List (List String × List Operation)) (new : List Registration),
      List.Forall₂ (fun e r => Reads settings nameOf components e r.1 r.2) endpoints readings ∧
      (∀ r ∈ readings, ∀ s ∈ r.1, s ∈ c'.names) ∧
      new.map request = (readings.flatMap fun r => requestsOf r.1 r.2) ∧
      Registers c rs j new c' k := by
  induction endpoints generalizing c rs j with
  | nil =>
      cases run
      exact ⟨[], [], .nil, by simp, rfl, .refl h _⟩
  | cons e endpoints ih =>
      rw [List.foldlM_cons] at run
      obtain ⟨c₁, j₁, run₁, run⟩ := Logged.run_bind_ok run
      obtain ⟨names, vs, new, reads, added, same, first⟩ :=
        addEndpoint_registers settings nameOf components h run₁
      obtain ⟨readings, new', all, added', same', rest⟩ := ih first.books run
      refine ⟨(names, vs) :: readings, new ++ new', .cons reads all, ?_, ?_, first.trans rest⟩
      · intro r hr s hs
        rcases List.mem_cons.mp hr with rfl | hr
        · exact rest.kept s (added s hs)
        · exact added' r hr s hs
      · rw [List.map_append, same, same', List.flatMap_cons]

end Reading

section Entries

variable (settings : Settings) (nameOf : String → String)

theorem register_adds (service : String) (c : Catalog) (o : Operation) :
    Logged.Adds (fun _ => True) (Catalog.register service c o) := by
  refine ⟨fun j => ?_, fun _ _ => trivial⟩
  simp only [Logged.result, Logged.entries, register_run, List.nil_append]

theorem addEndpoint_adds (components : Components) (c : Catalog) (e : Endpoint) :
    Logged.Adds (fun _ => True) (addEndpoint settings nameOf components c e) := by
  unfold addEndpoint
  refine (Logged.Adds.attempt _).bind fun names => ?_
  refine ((variants_adds nameOf components e).mono fun _ _ => trivial).bind fun made => ?_
  rw [registerAll_eq]
  refine Logged.Adds.foldlM (fun c q => ?_) _ _
  exact register_adds q.1 c q.2

theorem services_adds (document : Value) :
    Logged.Adds (fun _ => True) (services settings nameOf document) := by
  unfold services catalog
  refine Logged.Adds.bind ?_ fun c => .pure _
  refine (Logged.Adds.attempt _).bind fun components => ?_
  refine (Logged.Adds.attempt _).bind fun endpoints => ?_
  refine Logged.Adds.foldlM (fun c e => ?_) _ _
  exact addEndpoint_adds settings nameOf components c e

end Entries
end SdkBlueprint.Services
