import SdkBlueprint.Proofs.Services.Completeness
import SdkBlueprint.Proofs.Services.Outcomes

/-! Operations and content types that are left out. The journal of a document tells all of
them, one operation after the other, and an operation that no service holds is among them. -/
namespace SdkBlueprint.Services
open SdkBlueprint.Document SdkBlueprint.Schema

section Registering

variable (settings : Settings) (nameOf : String → String) (components : Components)
variable {codes : List FindingCode} (other : .methodCollision ∉ codes)

include other

theorem about_collision? (service : String) (t : Table Operation) (o : Operation) :
    about codes (collision? service t o).toList = [] := by
  refine about_eq_nil fun e he f hf => ?_
  obtain ⟨holder, _, rfl⟩ := Option.map_eq_some_iff.mp (Option.mem_toList.mp he)
  cases hf
  exact other

theorem registerAll_tells (names : List String) (vs : List Operation) (c : Catalog) :
    Logged.Tells (fun _ es => about codes es = []) (registerAll names vs c) := by
  rw [registerAll_eq]
  refine (Logged.Tells.foldlM (T := fun _ es => about codes es = []) (fun c q => ?_) c _).mono ?_
  · intro j c' k run
    cases run
    exact ⟨_, rfl, about_collision? other _ _ _⟩
  · rintro _ _ ⟨parts, each, rfl⟩
    rw [about_flatten, List.flatMap_eq_nil_iff]
    exact forall₂_right each

theorem addEndpoint_tells (c : Catalog) (e : Endpoint) :
    Logged.Tells (fun _ es => about codes es = about codes (variants nameOf components e).entries)
      (addEndpoint settings nameOf components c e) := by
  unfold addEndpoint
  refine (Logged.Tells.attempt (R := fun _ es => es = []) fun _ _ => rfl).bind ?_
  rintro names es rfl
  refine (Logged.Tells.of_adds (variants_adds nameOf components e)).bind ?_
  rintro vs es ⟨_, rfl⟩
  refine (registerAll_tells other names vs _).mono fun c' fs none => ?_
  rw [List.nil_append, about_append, none, List.append_nil]

/-- Beside collisions, what is noted of the endpoints is what is noted of each, in order. -/
theorem endpoints_about (c : Catalog) (endpoints : List Endpoint) :
    Logged.Tells (fun _ es => about codes es =
        endpoints.flatMap fun e => about codes (variants nameOf components e).entries)
      (endpoints.foldlM (addEndpoint settings nameOf components) c) := by
  refine (Logged.Tells.foldlM
    (addEndpoint_tells settings nameOf components other) c endpoints).mono ?_
  rintro _ _ ⟨parts, each, rfl⟩
  rw [about_flatten]
  induction each with
  | nil => rfl
  | cons here _ ih => rw [List.flatMap_cons, List.flatMap_cons, here, ih]

omit other in
theorem endpoints_tell (c : Catalog) (endpoints : List Endpoint) :
    Logged.Tells (fun _ es => skips es =
        endpoints.flatMap fun e => skips (variants nameOf components e).entries)
      (endpoints.foldlM (addEndpoint settings nameOf components) c) :=
  endpoints_about settings nameOf components (by decide) c endpoints

end Registering

section Services

variable {settings : Settings} {nameOf : String → String} {document : Value}
variable {components : Components}

/-- Every variant that was read is stored in all services of its endpoint, and whatever is
stored was read. -/
structure Stores (ss : List Service) (readings : List (List String × List Operation)) : Prop where
  known : ∀ r ∈ readings, ∀ name ∈ r.1, ∃ s ∈ ss, s.name = name ∧
    ∀ v ∈ r.2, ∃ o ∈ s.operations.values, Settles v o
  read : ∀ s ∈ ss, ∀ o ∈ s.operations.values, ∃ r ∈ readings, s.name ∈ r.1 ∧
    ∃ v ∈ r.2, Settles v o

theorem Books.stores {c : Catalog} {readings : List (List String × List Operation)}
    {rs : List Registration} (books : Books c rs)
    (known : ∀ r ∈ readings, ∀ name ∈ r.1, name ∈ c.names)
    (same : rs.map Registration.request = readings.flatMap fun r => requestsOf r.1 r.2) :
    Stores (Catalog.services c) readings := by
  constructor
  · intro r hr name hn
    obtain ⟨t, ht⟩ := Table.mem_names.mp (known r hr name hn)
    refine ⟨⟨name, t⟩, List.mem_map.mpr ⟨(name, t), Table.get?_eq_some_iff.mp ht, rfl⟩, rfl, ?_⟩
    intro v hv
    have asked : (name, v) ∈ rs.map Registration.request := by
      rw [same]
      exact List.mem_flatMap.mpr ⟨r, hr, List.mem_flatMap.mpr ⟨name, hn, List.mem_map.mpr
        ⟨v, hv, rfl⟩⟩⟩
    obtain ⟨q, hq, asked⟩ := List.mem_map.mp asked
    obtain ⟨service, variant⟩ := Prod.mk.inj asked
    refine ⟨q.stored, ?_, variant ▸ books.settled q hq⟩
    rw [(books.kept name t ht).values]
    exact List.mem_map.mpr ⟨q, List.mem_filter.mpr ⟨hq, beq_iff_eq.mpr service⟩, rfl⟩
  · intro s hs o ho
    obtain ⟨e, he, rfl⟩ := List.mem_map.mp hs
    rw [(books.kept e.1 e.2 (Table.get?_eq_some_iff.mpr he)).values] at ho
    obtain ⟨q, hq, rfl⟩ := List.mem_map.mp ho
    obtain ⟨hq, service⟩ := List.mem_filter.mp hq
    have asked : q.request ∈ readings.flatMap fun r => requestsOf r.1 r.2 :=
      same ▸ List.mem_map.mpr ⟨q, hq, rfl⟩
    obtain ⟨r, hr, asked⟩ := List.mem_flatMap.mp asked
    obtain ⟨name, hn, asked⟩ := List.mem_flatMap.mp asked
    obtain ⟨v, hv, asked⟩ := List.mem_map.mp asked
    obtain ⟨named, variant⟩ := Prod.mk.inj asked
    refine ⟨r, hr, ?_, v, hv, variant ▸ books.settled q hq⟩
    rwa [← beq_iff_eq.mp service, ← named]

/-- Services store what is read of the endpoints, and the journal tells what is left out. -/
theorem services_read {j k : Journal} {ss : List Service}
    (run : (services settings nameOf document).run j = (.ok ss, k)) :
    ∃ components paths readings, Components.ofDocument document = .ok components ∧
      fieldsOf (orEmptyMap (document.field "paths")) = .ok paths ∧
      List.Forall₂ (fun e r => Reads settings nameOf components e r.1 r.2)
        (paths.flatMap fun p => Endpoint.ofItem p.1.display p.2) readings ∧
      Stores ss readings ∧
      skips k = skips j ++ (paths.flatMap fun p => Endpoint.ofItem p.1.display p.2).flatMap
        fun e => skips (variants nameOf components e).entries := by
  obtain ⟨c, l, run, last⟩ := Logged.run_bind_ok run
  cases last
  obtain ⟨components, j₁, run₁, run⟩ := Logged.run_bind_ok run
  obtain ⟨endpoints, j₂, run₂, run⟩ := Logged.run_bind_ok run
  rw [Logged.run_attempt] at run₁ run₂
  obtain ⟨hcomponents, rfl⟩ := Prod.mk.inj run₁
  obtain ⟨hendpoints, rfl⟩ := Prod.mk.inj run₂
  obtain ⟨paths, hpaths, rfl⟩ := endpoints_of_paths hendpoints
  obtain ⟨readings, new, reads, known, same, made⟩ :=
    endpoints_register settings nameOf components books_empty run
  obtain ⟨es, rfl, left⟩ := endpoints_tell settings nameOf components _ _ _ _ _ run
  have books : Books c new := made.books
  refine ⟨components, paths, readings, hcomponents, hpaths, reads, books.stores known same, ?_⟩
  rw [skips_append, left]

end Services

theorem tagsOf_truthy (settings : Settings) (operation : Value) :
    (tagsOf settings operation).truthy = true := by
  unfold tagsOf
  split
  · assumption
  · rfl

/-- What becomes of one operation: its services, its variants, and what is left out. -/
structure Account where
  id : String
  reply : Reply
  services : List String
  variants : List Operation
  skipped : List Finding

/-- The account of an endpoint. It replies in one way, which decides the rest. -/
structure Accounted (settings : Settings) (nameOf : String → String) (components : Components)
    (e : Endpoint) (a : Account) : Prop where
  id : e.id = .text a.id
  replies : ∀ reply, Replies components e reply ↔ reply = a.reply
  comes : Comes nameOf components e a.id a.reply a.variants a.skipped
  services : ∃ tags, iterate (tagsOf settings e.operation) = .ok tags ∧ tags ≠ [] ∧
    ∀ s, s ∈ a.services ↔ ∃ tag ∈ tags, serviceName settings tag = s

/-- The operation is a variant of the endpoint. -/
def Serves (e : Endpoint) (o : Operation) : Prop :=
  e.id = .text o.operationId ∧ o.path = e.path ∧ o.method = e.method

section Accounts

variable {settings : Settings} {nameOf : String → String} {components : Components}
variable {e : Endpoint}

theorem Reads.accounted {names : List String} {vs : List Operation}
    (h : Reads settings nameOf components e names vs) :
    ∃ id reply, Accounted settings nameOf components e
      ⟨id, reply, names, vs, skips (Services.variants nameOf components e).entries⟩ := by
  obtain ⟨id, reply, hid, replies, comes⟩ := (variants_tells nameOf components e).entries h.variants
  obtain ⟨tags, hi, named⟩ := h.services
  refine ⟨id, reply, hid, fun r => ⟨fun other => other.unique replies, ?_⟩, comes, tags, hi,
    iterate_ne_nil (tagsOf_truthy settings e.operation) hi, named⟩
  rintro rfl
  exact replies

theorem accounts_of_readings {endpoints : List Endpoint}
    {readings : List (List String × List Operation)}
    (h : List.Forall₂ (fun e r => Reads settings nameOf components e r.1 r.2) endpoints readings) :
    ∃ accounts, List.Forall₂ (Accounted settings nameOf components) endpoints accounts ∧
      (accounts.flatMap Account.skipped =
        endpoints.flatMap fun e => skips (variants nameOf components e).entries) ∧
      readings = accounts.map fun a => (a.services, a.variants) := by
  induction h with
  | nil => exact ⟨[], .nil, rfl, rfl⟩
  | cons reads _ ih =>
      obtain ⟨id, reply, accounted⟩ := reads.accounted
      obtain ⟨accounts, all, left, same⟩ := ih
      exact ⟨_ :: accounts, .cons accounted all, by rw [List.flatMap_cons, List.flatMap_cons, left],
        by rw [same, List.map_cons]⟩

/-- An operation that none of its services holds is warned about. -/
theorem Accounted.noticed {a : Account} (h : Accounted settings nameOf components e a)
    {ss : List Service}
    (stored : ∀ name ∈ a.services, ∃ s ∈ ss, s.name = name ∧
      ∀ v ∈ a.variants, ∃ o ∈ s.operations.values, Settles v o)
    (absent : ∀ s ∈ ss, s.name ∈ a.services → ∀ o ∈ s.operations.values, ¬ Serves e o) :
    a.skipped ≠ [] := by
  have replies := (h.replies a.reply).mpr rfl
  obtain ⟨tags, _, some, named⟩ := h.services
  obtain ⟨tag, ht⟩ := List.exists_mem_of_ne_nil tags some
  have here := (named _).mpr ⟨tag, ht, rfl⟩
  obtain ⟨s, hs, same, holds⟩ := stored _ here
  obtain ⟨id, reply, services, variants, skipped⟩ := a
  cases variants with
  | nil => exact h.comes.noticed replies
  | cons v vs =>
      obtain ⟨o, ho, settles⟩ := holds v (by simp)
      obtain ⟨body, shared⟩ := h.comes.shared
      have shares := shared v (by simp)
      refine absurd ?_ (absent s hs (same ▸ here) o ho)
      rw [settles.rest]
      exact ⟨h.id.trans (congrArg Value.text shares.id.symm), shares.path, shares.method⟩

end Accounts

/-- Every operation replies in exactly one way, and whatever it leaves out is warned about under
its id, in order. All of its services exist, and an operation that none of them holds has left
a warning. -/
theorem skipped_operations_recorded {settings : Settings} {nameOf : String → String}
    {document : Value} {j k : Journal} {ss : List Service}
    (run : (services settings nameOf document).run j = (.ok ss, k)) :
    ∃ components paths accounts,
      Components.ofDocument document = .ok components ∧
      fieldsOf (orEmptyMap (document.field "paths")) = .ok paths ∧
      List.Forall₂ (fun e a => Accounted settings nameOf components e a ∧
          (∀ f ∈ a.skipped, f.severity = .warning ∧ f.subject = some a.id) ∧
          (∀ status entries, a.reply = .content status entries →
            a.variants.length + a.skipped.length = entries.length) ∧
          (∃ body, ∀ o ∈ a.variants, Shares e a.id body o) ∧
          (∀ name ∈ a.services, ∃ s ∈ ss, s.name = name ∧
            ∀ v ∈ a.variants, ∃ o ∈ s.operations.values, Settles v o) ∧
          ((∀ s ∈ ss, s.name ∈ a.services → ∀ o ∈ s.operations.values, ¬ Serves e o) →
            ∃ f ∈ a.skipped, f ∈ k.warnings ∧ f.subject = some a.id))
        (paths.flatMap fun p => Endpoint.ofItem p.1.display p.2) accounts ∧
      skips k = skips j ++ accounts.flatMap Account.skipped := by
  obtain ⟨components, paths, readings, hcomponents, hpaths, reads, stores, left⟩ :=
    services_read run
  obtain ⟨accounts, all, gathered, same⟩ := accounts_of_readings reads
  rw [← gathered] at left
  have reported : ∀ a ∈ accounts, ∀ f ∈ a.skipped, f ∈ k.findings := by
    intro a ha f hf
    have skipped : f ∈ skips k := by
      rw [left]
      exact List.mem_append_right _ (List.mem_flatMap.mpr ⟨a, ha, hf⟩)
    exact (List.mem_filter.mp skipped).1
  have stored : ∀ a ∈ accounts, ∀ name ∈ a.services, ∃ s ∈ ss, s.name = name ∧
      ∀ v ∈ a.variants, ∃ o ∈ s.operations.values, Settles v o := by
    intro a ha
    refine stores.known (a.services, a.variants) ?_
    rw [same]
    exact List.mem_map.mpr ⟨a, ha, rfl⟩
  refine ⟨components, paths, accounts, hcomponents, hpaths, ?_, left⟩
  refine (forall₂_mem_right all).imp fun e a ⟨ha, accounted⟩ => ?_
  have warns := accounted.comes.warns
  refine ⟨accounted, warns, fun status entries reply => ?_, accounted.comes.shared, stored a ha,
    fun absent => ?_⟩
  · have comes := accounted.comes
    rw [reply] at comes
    exact comes.counts
  · obtain ⟨f, hf⟩ := List.exists_mem_of_ne_nil _ (accounted.noticed (stored a ha) absent)
    refine ⟨f, hf, List.mem_filter.mpr ⟨reported a ha f hf, ?_⟩, (warns f hf).2⟩
    rw [(warns f hf).1]
    rfl

/-- One path with an operation for every way of replying. -/
def replying : Value :=
  let responses (status : String) (response : Value) : Value :=
    .map [(.text "responses", .map [(.text status, response)])]
  let content : Value := .map [(.text "content", .map [(.text "text/html", .map [])])]
  .map [(.text "paths", .map [(.text "/cats", .map [
    (.text "get", responses "404" (.map [])),
    (.text "post", responses "200" (.text "gone")),
    (.text "put", responses "204" (.map [])),
    (.text "delete", responses "default" content)])])]

theorem skipped_operations_replying : ∃ ss k,
    (services .defaults id replying).run [] = (.ok ss, k) ∧
    (skips k).map Finding.code =
      [.missingSuccessResponse, .unresolvedResponse, .missingResponseSchema] ∧
    ∃ accounts : List Account, accounts.flatMap Account.skipped = skips k ∧
      (∀ a ∈ accounts, ∀ f ∈ a.skipped, f.subject = some a.id) := by
  obtain ⟨ss, k, run, codes⟩ : ∃ ss k, (services .defaults id replying).run [] = (.ok ss, k) ∧
      (skips k).map Finding.code =
        [.missingSuccessResponse, .unresolvedResponse, .missingResponseSchema] :=
    ⟨_, _, rfl, by decide⟩
  obtain ⟨_, _, accounts, _, _, all, left⟩ := skipped_operations_recorded run
  refine ⟨ss, k, run, codes, accounts, left.symm, ?_⟩
  exact forall₂_right (all.imp fun _ _ h f hf => (h.2.1 f hf).2)

end SdkBlueprint.Services
