import SdkBlueprint.Proofs.Services.Completeness

/-! Services beside each other. Endpoints are read without a look at the catalog, and the
books of one service take note of the endpoints of that service alone. -/
namespace SdkBlueprint.Services
open SdkBlueprint.Document SdkBlueprint.Schema

/-- Enters one variant into one service. -/
def enter (c : Catalog) (request : String × Operation) : Catalog :=
  c.put request.1 (entered (c.operations request.1) request.2)

/-- Takes what was read of an endpoint into the catalog. -/
def record (c : Catalog) (r : List String × List Operation) : Catalog :=
  (requestsOf r.1 r.2).foldl enter (r.1.foldl Catalog.ensure c)

section Reading

variable (settings : Settings) (nameOf : String → String) (components : Components)

/-- The services of an endpoint and its variants. -/
def reading (e : Endpoint) : Attempt (List String × List Operation) := do
  let names ← serviceNames settings e.operation
  let made ← (variants nameOf components e).result
  return (names, made)

theorem registerAll_succeeds (names : List String) (vs : List Operation) (c : Catalog) :
    Logged.Succeeds (· = (requestsOf names vs).foldl enter c) (registerAll names vs c) := by
  have each : ∀ (c : Catalog) (q : String × Operation),
      Logged.Yields (· = enter c q) (Catalog.register q.1 c q.2) := by
    intro c q j d k run
    cases (register_run q.1 c q.2 j).symm.trans run
    rfl
  rw [registerAll_eq]
  exact (Logged.Yields.foldlM each c (requestsOf names vs)).of_succeeds
    (.foldlM_total (fun c q _ j => ⟨_, _, register_run q.1 c q.2 j, trivial⟩) c)

theorem addEndpoint_ok {c c' : Catalog} {e : Endpoint} {j k : Journal}
    (run : (addEndpoint settings nameOf components c e).run j = (.ok c', k)) :
    ∃ r, reading settings nameOf components e = .ok r ∧ c' = record c r := by
  obtain ⟨names, j₁, run₁, run⟩ := Logged.run_bind_ok run
  obtain ⟨vs, j₂, run₂, run⟩ := Logged.run_bind_ok run
  rw [Logged.run_attempt] at run₁
  rw [(variants_adds nameOf components e).run] at run₂
  refine ⟨(names, vs), ?_, (registerAll_succeeds names vs _).of_run run⟩
  rw [reading, (Prod.mk.inj run₁).1, (Prod.mk.inj run₂).1]
  rfl

theorem addEndpoint_of_reading {e : Endpoint} {r : List String × List Operation}
    (h : reading settings nameOf components e = .ok r) (c : Catalog) :
    Logged.Succeeds (· = record c r) (addEndpoint settings nameOf components c e) := by
  obtain ⟨names, hnames, h⟩ := attempt_bind_ok h
  obtain ⟨vs, hvs, h⟩ := attempt_bind_ok h
  cases h
  intro j
  obtain ⟨made, k, run, rfl⟩ :=
    registerAll_succeeds names vs (names.foldl Catalog.ensure c)
      (j ++ (variants nameOf components e).entries)
  refine ⟨_, k, ?_, rfl⟩
  rw [addEndpoint, hnames, Logged.attempt_ok_bind, Logged.run_bind,
    (variants_adds nameOf components e).run, hvs]
  exact run

/-- The readings of endpoints, one for each in order. -/
def Readings (endpoints : List Endpoint) (rs : List (List String × List Operation)) : Prop :=
  List.Forall₂ (fun e r => reading settings nameOf components e = .ok r) endpoints rs

theorem endpoints_ok {endpoints : List Endpoint} {c c' : Catalog} {j k : Journal}
    (run : (endpoints.foldlM (addEndpoint settings nameOf components) c).run j = (.ok c', k)) :
    ∃ rs, Readings settings nameOf components endpoints rs ∧ c' = rs.foldl record c := by
  induction endpoints generalizing c j with
  | nil =>
      cases run
      exact ⟨[], .nil, rfl⟩
  | cons e rest ih =>
      rw [List.foldlM_cons] at run
      obtain ⟨c₁, j₁, first, run⟩ := Logged.run_bind_ok run
      obtain ⟨r, hr, rfl⟩ := addEndpoint_ok settings nameOf components first
      obtain ⟨rs, hrs, rfl⟩ := ih run
      exact ⟨r :: rs, .cons hr hrs, rfl⟩

theorem endpoints_of_readings {endpoints : List Endpoint} {rs : List (List String × List Operation)}
    (h : Readings settings nameOf components endpoints rs) (c : Catalog) :
    Logged.Succeeds (· = rs.foldl record c)
      (endpoints.foldlM (addEndpoint settings nameOf components) c) := by
  induction h generalizing c with
  | nil => exact .pure rfl
  | cons here _ ih =>
      rw [List.foldlM_cons]
      refine (addEndpoint_of_reading settings nameOf components here c).bind fun c' same => ?_
      subst same
      exact ih _

end Reading

/-- What the services of a document come from: its endpoints, taken in one after the other. -/
theorem services_ok {settings : Settings} {nameOf : String → String} {document : Value}
    {ss : List Service} {j k : Journal}
    (run : (services settings nameOf document).run j = (.ok ss, k)) :
    ∃ components endpoints c, Components.ofDocument document = .ok components ∧
      Endpoint.ofDocument document = .ok endpoints ∧
      (endpoints.foldlM (addEndpoint settings nameOf components) Table.empty).run j = (.ok c, k) ∧
      ss = Catalog.services c := by
  obtain ⟨c, l, run, last⟩ := Logged.run_bind_ok run
  cases last
  obtain ⟨components, j₁, run₁, run⟩ := Logged.run_bind_ok run
  obtain ⟨endpoints, j₂, run₂, run⟩ := Logged.run_bind_ok run
  rw [Logged.run_attempt] at run₁ run₂
  obtain ⟨hcomponents, rfl⟩ := Prod.mk.inj run₁
  obtain ⟨hendpoints, rfl⟩ := Prod.mk.inj run₂
  exact ⟨components, endpoints, c, hcomponents, hendpoints, run, rfl⟩

theorem services_of_readings {settings : Settings} {nameOf : String → String} {document : Value}
    {components : Components} {endpoints : List Endpoint}
    {rs : List (List String × List Operation)}
    (hcomponents : Components.ofDocument document = .ok components)
    (hendpoints : Endpoint.ofDocument document = .ok endpoints)
    (reads : Readings settings nameOf components endpoints rs) :
    Logged.Succeeds (· = Catalog.services (rs.foldl record Table.empty))
      (services settings nameOf document) := by
  unfold services catalog
  rw [hcomponents, hendpoints, Logged.attempt_ok_bind, Logged.attempt_ok_bind]
  refine (endpoints_of_readings settings nameOf components reads _).bind fun c same => ?_
  exact .pure (congrArg Catalog.services same)

section Books

variable {c d : Catalog} {service : String}

theorem operations_of_get? {t : Table Operation} (h : c.get? service = some t) :
    c.operations service = t := by
  rw [Catalog.operations, h, Option.getD_some]

theorem ensure_get? (c : Catalog) (name service : String) : (c.ensure name).get? service =
    if name = service then some (c.operations service) else c.get? service := by
  unfold Catalog.ensure
  by_cases known : c.contains name = true
  · obtain ⟨t, ht⟩ := Table.mem_names.mp ((c.contains_iff name).mp known)
    rw [if_pos known]
    split
    · next same => rw [← same, operations_of_get? ht, ht]
    · rfl
  · rw [if_neg known, Table.get?_put]
    refine ite_congr rfl (fun same => ?_) fun _ => rfl
    have absent := (c.get?_eq_none_iff name).mpr fun h => known ((c.contains_iff name).mpr h)
    rw [Catalog.operations, ← same, absent, Option.getD_none]

theorem ensureAll_get? (names : List String) (c : Catalog) (service : String) :
    (names.foldl Catalog.ensure c).get? service =
      if service ∈ names then some (c.operations service) else c.get? service := by
  induction names generalizing c with
  | nil => rfl
  | cons n names ih =>
      have kept : (c.ensure n).operations service = c.operations service := by
        rw [Catalog.operations, ensure_get?]
        split <;> rfl
      rw [List.foldl_cons, ih, kept, ensure_get?]
      by_cases here : n = service
      · simp [here]
      · simp [here, Ne.symm here]

theorem requests_get? (requests : List (String × Operation)) {t : Table Operation}
    (h : c.get? service = some t) : (requests.foldl enter c).get? service =
      some (((requests.filter fun q => q.1 == service).map Prod.snd).foldl entered t) := by
  induction requests generalizing c t with
  | nil => exact h
  | cons q rest ih =>
      rw [List.foldl_cons, List.filter_cons]
      by_cases here : q.1 = service
      · have stored : (enter c q).get? service = some (entered t q.2) := by
          rw [enter, Table.get?_put, if_pos here, here, operations_of_get? h]
        rw [ih stored, if_pos (beq_iff_eq.mpr here)]
        rfl
      · have kept : (enter c q).get? service = some t := by
          rw [enter, Table.get?_put, if_neg here, h]
        rw [ih kept, if_neg (by simpa using here)]

theorem requests_get?_of_apart {requests : List (String × Operation)}
    (apart : ∀ q ∈ requests, q.1 ≠ service) (c : Catalog) :
    (requests.foldl enter c).get? service = c.get? service := by
  induction requests generalizing c with
  | nil => rfl
  | cons q rest ih =>
      rw [List.foldl_cons, ih (fun p hp => apart p (by simp [hp])), enter, Table.get?_put,
        if_neg (apart q (by simp))]

/-- A service takes in the variants of an endpoint that it is a service of, and no other. -/
theorem record_get? {r : List String × List Operation} (distinct : r.1.Nodup) (c : Catalog)
    (service : String) : (record c r).get? service =
      if service ∈ r.1 then some (r.2.foldl entered (c.operations service))
      else c.get? service := by
  unfold record
  by_cases member : service ∈ r.1
  · have known := ensureAll_get? r.1 c service
    rw [if_pos member] at known
    rw [requests_get? _ known, requestsOf_filter distinct, if_pos member, if_pos member]
  · have apart : ∀ q ∈ requestsOf r.1 r.2, q.1 ≠ service := by
      intro q hq same
      obtain ⟨s, hs, hq⟩ := List.mem_flatMap.mp hq
      obtain ⟨o, _, rfl⟩ := List.mem_map.mp hq
      exact member (same ▸ hs)
    rw [requests_get?_of_apart apart, ensureAll_get?, if_neg member, if_neg member]

/-- The books of a service come from the readings for it alone. -/
theorem records_get? {rs : List (List String × List Operation)} (distinct : ∀ r ∈ rs, r.1.Nodup)
    (same : c.get? service = d.get? service) : (rs.foldl record c).get? service =
      ((rs.filter fun r => service ∈ r.1).foldl record d).get? service := by
  induction rs generalizing c d with
  | nil => exact same
  | cons r rest ih =>
      have rest' := fun {c d : Catalog} =>
        ih (c := c) (d := d) fun s hs => distinct s (by simp [hs])
      have here := record_get? (distinct r (by simp))
      rw [List.foldl_cons, List.filter_cons]
      by_cases member : service ∈ r.1
      · rw [if_pos (by simpa using member), List.foldl_cons]
        refine rest' ?_
        rw [here, here, if_pos member, if_pos member, Catalog.operations, Catalog.operations, same]
      · rw [if_neg (by simpa using member)]
        refine rest' ?_
        rw [here, if_neg member, same]

theorem services_find? (c : Catalog) (service : String) :
    (Catalog.services c).find? (fun s => s.name == service) =
      (c.get? service).map fun t => ⟨service, t⟩ := by
  obtain ⟨entries, distinct⟩ := c
  simp only [Catalog.services, Table.get?]
  clear distinct
  induction entries with
  | nil => rfl
  | cons e rest ih =>
      rw [List.map_cons, List.find?_cons, lookup, ih]
      by_cases here : e.1 = service
      · rw [if_pos here, beq_iff_eq.mpr here, ← here]
        rfl
      · rw [if_neg here, beq_eq_false_iff_ne.mpr here]

end Books

section Dropping

/-- The endpoints are read alike: only the parameters of a path item are looked at beside
the operation. -/
structure Alike (e e' : Endpoint) : Prop where
  path : e'.path = e.path
  method : e'.method = e.method
  operation : e'.operation = e.operation
  parameters : e'.item.field "parameters" = e.item.field "parameters"

variable (settings : Settings) (nameOf : String → String) (components : Components)

theorem reading_of_alike {e e' : Endpoint} (h : Alike e e') :
    reading settings nameOf components e' = reading settings nameOf components e := by
  obtain ⟨path, method, item, operation⟩ := e
  obtain ⟨path', method', item', operation'⟩ := e'
  obtain ⟨rfl, rfl, rfl, parameters⟩ := h
  have same : variants nameOf components ⟨path', method', item', operation'⟩ =
      variants nameOf components ⟨path', method', item, operation'⟩ := by
    simp only [variants, operationParameters]
    simp only [parameters]
    rfl
  unfold reading
  rw [same]

/-- No tag of the operation names the service. -/
def ForeignTo (service : String) (operation : Value) : Prop :=
  ∀ tags, iterate (tagsOf settings operation) = .ok tags →
    ∀ tag ∈ tags, serviceName settings tag ≠ service

/-- The second list has the endpoints of the first, but for some of other services. -/
inductive Drops (service : String) : List Endpoint → List Endpoint → Prop
  | nil : Drops service [] []
  | keep {e e' es es'} (alike : Alike e e') (rest : Drops service es es') :
      Drops service (e :: es) (e' :: es')
  | drop {e es es'} (foreign : ForeignTo settings service e.operation)
      (rest : Drops service es es') : Drops service (e :: es) es'

variable {settings}

theorem Drops.append {service : String} {es es' fs fs' : List Endpoint}
    (first : Drops settings service es es') (second : Drops settings service fs fs') :
    Drops settings service (es ++ fs) (es' ++ fs') := by
  induction first with
  | nil => exact second
  | keep alike _ ih => exact .keep alike ih
  | drop foreign _ ih => exact .drop foreign ih

theorem reading_foreign {service : String} {e : Endpoint} {r : List String × List Operation}
    (h : reading settings nameOf components e = .ok r)
    (foreign : ForeignTo settings service e.operation) : service ∉ r.1 := by
  obtain ⟨names, hnames, h⟩ := attempt_bind_ok h
  obtain ⟨vs, _, h⟩ := attempt_bind_ok h
  cases h
  obtain ⟨_, tags, htags, members⟩ := serviceNames_ok settings hnames
  intro member
  obtain ⟨tag, htag, same⟩ := (members service).mp member
  exact foreign tags htags tag htag same

theorem readings_distinct {endpoints : List Endpoint} {rs : List (List String × List Operation)}
    (h : Readings settings nameOf components endpoints rs) : ∀ r ∈ rs, r.1.Nodup := by
  refine forall₂_right (h.imp fun e r hr => ?_)
  obtain ⟨names, hnames, hr⟩ := attempt_bind_ok hr
  obtain ⟨vs, _, hr⟩ := attempt_bind_ok hr
  cases hr
  exact (serviceNames_ok settings hnames).1

theorem Drops.readings {service : String} {es es' : List Endpoint}
    (drops : Drops settings service es es') {rs : List (List String × List Operation)}
    (h : Readings settings nameOf components es rs) :
    ∃ rs', Readings settings nameOf components es' rs' ∧
      rs'.filter (fun r => service ∈ r.1) = rs.filter fun r => service ∈ r.1 := by
  induction drops generalizing rs with
  | nil => exact ⟨rs, h, rfl⟩
  | keep alike _ ih =>
      cases h with
      | cons here rest =>
          obtain ⟨rs', reads, same⟩ := ih rest
          refine ⟨_ :: rs', .cons ((reading_of_alike settings nameOf components alike).trans here)
            reads, ?_⟩
          rw [List.filter_cons, List.filter_cons, same]
  | drop foreign _ ih =>
      cases h with
      | cons here rest =>
          obtain ⟨rs', reads, same⟩ := ih rest
          have apart := reading_foreign nameOf components here foreign
          exact ⟨rs', reads, by rw [List.filter_cons, if_neg (by simpa using apart), same]⟩

end Dropping

end SdkBlueprint.Services
