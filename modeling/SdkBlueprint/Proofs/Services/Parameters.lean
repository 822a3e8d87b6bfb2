import SdkBlueprint.Proofs.Services.Isolation
import SdkBlueprint.Proofs.Services.Merging
import SdkBlueprint.Proofs.Typed

/-! Parameters of operations. An operation whose response is known has what its path and itself
list, merged and placed, with one more at the end if its body has a schema. Each one that is
left out is warned about once. -/
namespace SdkBlueprint.Services
open SdkBlueprint.Document SdkBlueprint.Schema SdkBlueprint.Population

/-- How the parameters of one operation come about. -/
structure Merging where
  operation : String
  ofPath : List Value
  ofOperation : List Value
  lostOfPath : List Finding
  lostOfOperation : List Finding
  placed : List Parameter
  body : Option Parameter

namespace Merging

variable (m : Merging)

def declared : List Value := merged m.ofPath m.ofOperation

def parameters : List Parameter := m.placed ++ m.body.toList

/-- The warnings about what leads nowhere, then those about what is placed elsewhere. -/
def warnings : List Finding :=
  m.lostOfPath ++ m.lostOfOperation ++
    (m.declared.filter fun param => !isLocated param).map (unsupportedParameter m.operation)

end Merging

/-- The parameters of an endpoint come about in this way. -/
structure Merges (nameOf : String → String) (components : Components) (e : Endpoint)
    (m : Merging) : Prop where
  id : e.id = .text m.operation
  path : Followed components.parameters m.operation (itemsOf (e.item.field "parameters"))
    m.ofPath m.lostOfPath
  own : Followed components.parameters m.operation (itemsOf (e.operation.field "parameters"))
    m.ofOperation m.lostOfOperation
  placed : List.Forall₂ (Describes nameOf) (m.declared.filter isLocated) m.placed
  body : BodyOf nameOf components.requestBodies (e.operation.field "requestBody") m.body

/-- The success response of the endpoint leads to an object. -/
def Resolves (components : Components) (e : Endpoint) : Prop :=
  ∃ status declared object, Declares e status declared ∧
    Leads components.responses declared object

/-- Where the success response is known, the parameters are merged and every variant has them. -/
inductive Fate (nameOf : String → String) (components : Components) (e : Endpoint) :
    Option Merging → List Operation → Prop
  | read {m vs} (resolves : Resolves components e) (merges : Merges nameOf components e m)
      (same : ∀ o ∈ vs, o.parameters = m.parameters) : Fate nameOf components e (some m) vs
  | left (unresolved : ¬ Resolves components e) : Fate nameOf components e none []

/-- A name, where there is one, is a text. A null would be told apart from the text that it is
shown as. -/
def TypedName (param : Value) : Prop :=
  ∀ name, param.field? "name" = some name → name.textOf?.isSome

section Merging

variable {nameOf : String → String} {components : Components} {e : Endpoint} {m : Merging}

theorem Followed.typed {table holder : Value} {operation : String} {found : List Value}
    {lost : List Finding} (typed : TypedParameters table holder)
    (h : Followed table operation (itemsOf (holder.field "parameters")) found lost) :
    ∀ param ∈ found, param.isMap ∧ TypedParameter param := by
  intro param hparam
  obtain ⟨item, hitem, leads⟩ := h.leads param hparam
  exact ⟨leads.isMap, typed.each item hitem param leads⟩

theorem Merges.required (h : Merges nameOf components e m) :
    ∀ p ∈ m.parameters, p.place = .path → p.isRequired = true := by
  intro p hp place
  rcases List.mem_append.mp hp with hp | hp
  · obtain ⟨param, _, describes⟩ := forall₂_exists_left h.placed p hp
    rw [describes.required, place]
    exact Bool.or_true _
  · obtain ⟨_, _, _, _, _, placed, body⟩ := m
    cases h.body with
    | none => cases hp
    | some _ describes =>
        cases List.mem_singleton.mp hp
        cases place.symm.trans describes.place

theorem Describes.pair {param : Value} {p : Parameter} (h : Describes nameOf param p)
    (named : TypedName param) : pairOf param = (some p.name, some p.place.label) := by
  have name : partOf param "name" = some p.name := by
    rw [h.name, partOf]
    cases hf : param.field? "name" with
    | none => rfl
    | some v =>
        obtain ⟨s, rfl⟩ := text_of_isSome (named v hf)
        exact congrArg some (display_text s).symm
  have place : partOf param "in" = some p.place.label := by
    have declared := h.place
    rw [partOf]
    rw [Value.field] at declared
    cases hf : param.field? "in" with
    | none =>
        rw [hf] at declared
        cases declared
    | some v =>
        rw [hf] at declared
        exact congrArg Value.textOf? declared
  rw [pairOf, name, place]

theorem described_pairs {params : List Value} {ps : List Parameter}
    (h : List.Forall₂ (Describes nameOf) params ps) (named : ∀ param ∈ params, TypedName param) :
    params.map pairOf = ps.map fun p => (some p.name, some p.place.label) := by
  induction h with
  | nil => rfl
  | cons here _ ih =>
      rw [List.forall_mem_cons] at named
      rw [List.map_cons, List.map_cons, ih named.2, here.pair named.1]

/-- Where neither list repeats a pair, no two parameters have name and place in common. -/
theorem Merges.distinct (h : Merges nameOf components e m)
    (named : ∀ param ∈ m.ofPath ++ m.ofOperation, TypedName param)
    (path : (m.ofPath.map pairOf).Nodup) (own : (m.ofOperation.map pairOf).Nodup) :
    (m.parameters.map fun p => (p.name, p.place)).Nodup := by
  have placed : (m.placed.map fun p => (p.name, p.place)).Nodup := by
    have pairs := described_pairs h.placed fun param hparam =>
      named param (List.mem_append.mpr (merged_mem param (List.mem_filter.mp hparam).1))
    have apart := (merged_nodup path own).sublist
      ((List.filter_sublist (p := isLocated)).map pairOf)
    rw [Merging.declared] at pairs
    rw [pairs] at apart
    exact .of_map (fun q => (some q.1, some q.2.label)) (by rwa [List.map_map])
  have elsewhere : ∀ p ∈ m.placed, p.place ≠ .body := by
    intro p hp
    obtain ⟨param, _, describes⟩ := forall₂_exists_left h.placed p hp
    exact describes.declared
  have body := h.body
  rw [Merging.parameters]
  generalize m.body = last at body ⊢
  cases body with
  | none => simpa using placed
  | some _ describes =>
      rw [Option.toList_some, List.map_append, List.nodup_append]
      refine ⟨placed, List.nodup_singleton _, ?_⟩
      intro q hq q' hq' same
      obtain ⟨p, hp, rfl⟩ := List.mem_map.mp hq
      cases List.mem_singleton.mp hq'
      exact elsewhere p hp ((Prod.mk.inj same).2.trans describes.place)

end Merging

section Reading

variable {nameOf : String → String} {components : Components} {e : Endpoint}

theorem about_lost {operation : String} {table : Value} {items found : List Value}
    {lost : List Finding} (h : Followed table operation items found lost) :
    about lossCodes (lost.map (Entry.finding .services)) = lost :=
  about_findings fun f hf => by
    rw [h.unresolved f hf]
    decide

theorem about_unsupported (operation : String) (params : List Value) :
    about lossCodes ((params.map (unsupportedParameter operation)).map
      (Entry.finding .services)) = params.map (unsupportedParameter operation) := by
  refine about_findings fun f hf => ?_
  obtain ⟨param, _, rfl⟩ := List.mem_map.mp hf
  exact List.mem_cons_of_mem FindingCode.unresolvedParameter List.mem_cons_self

/-- The parameters of a well-typed operation are merged, and all that is lost is told. -/
theorem operationParameters_tells (typed : TypedEndpoint components e) {id : String}
    (hid : e.id = .text id) :
    Logged.Tells (fun body es => ∃ m, Merges nameOf components e m ∧
        body.parameters = m.parameters ∧ about lossCodes es = m.warnings)
      (operationParameters nameOf components e.item e.operation (.text id)) := by
  unfold operationParameters
  refine (knownParameters_tells _ id _).bind ?_
  rintro ofPath _ ⟨_, lostOfPath, listed, path, rfl⟩
  cases (iterate_orEmptyList typed.shared.list).symm.trans listed
  refine (knownParameters_tells _ id _).bind ?_
  rintro ofOperation _ ⟨_, lostOfOperation, listed, own, rfl⟩
  cases (iterate_orEmptyList typed.own.list).symm.trans listed
  have combined := combinedParameters_merged
    (fun param hparam => (path.typed typed.shared param hparam).elim identity_keyOf)
    (fun param hparam => (own.typed typed.own param hparam).elim identity_keyOf)
  rw [combined, Logged.attempt_ok_bind]
  refine (placedParameters_tells id _).bind ?_
  rintro placed _ ⟨described, rfl⟩
  refine (requestBody_tells (.text id) typed.body).bind ?_
  rintro made es ⟨⟨body, same, bodyOf⟩, quiet⟩
  refine .pure ⟨⟨id, ofPath, ofOperation, lostOfPath, lostOfOperation, placed, body⟩,
    ⟨hid, path, own, described, bodyOf⟩, congrArg (placed ++ ·) same, ?_⟩
  simp only [about_append, about_lost path, about_lost own, about_unsupported, quiet,
    List.append_nil, Merging.warnings, Merging.declared, List.append_assoc]

theorem ofResponse.quiet {j : Journal} (h : ∀ e ∈ j, ofResponse e) : about lossCodes j = [] := by
  refine about_eq_nil fun e he f hf => ?_
  rw [(h e he).2 f hf]
  decide

theorem Comes.parameters {id : String} {reply : Reply} {body : RequestBody} {vs : List Operation}
    {fs : List Finding} (h : Comes nameOf components e id reply vs fs)
    (read : (operationParameters nameOf components e.item e.operation (.text id)).result =
      .ok body) : ∀ o ∈ vs, o.parameters = body.parameters := by
  cases h with
  | missing => exact fun o ho => absurd ho List.not_mem_nil
  | unresolved => exact fun o ho => absurd ho List.not_mem_nil
  | bare read' shared =>
      cases read'.symm.trans read
      exact fun o ho => List.mem_singleton.mp ho ▸ shared.parameters
  | content read' shared =>
      cases read'.symm.trans read
      exact fun o ho => (shared o ho).parameters

/-- Reading a well-typed operation merges its parameters if its response is known. -/
theorem Course.fate {vs : List Operation} {es : Journal} (typed : TypedEndpoint components e)
    (h : Course nameOf components e vs es) :
    ∃ merging, Fate nameOf components e merging vs ∧
      about lossCodes es = merging.elim [] Merging.warnings := by
  cases h with
  | missing _ all none =>
      refine ⟨_, .left ?_, rfl⟩
      rintro ⟨status, declared, _, first, _⟩
      exact not_declares all none first
  | unresolved _ first nowhere =>
      refine ⟨_, .left ?_, rfl⟩
      rintro ⟨_, _, object, first', leads⟩
      obtain ⟨rfl, rfl⟩ := first.unique first'
      exact nowhere object leads
  | answered known first leads read made =>
      obtain ⟨m, merges, parameters, lost⟩ :=
        (operationParameters_tells typed known).entries read
      obtain ⟨_, _, comes⟩ := (responseVariants_tells nameOf components read first leads).entries made
      refine ⟨some m, .read ⟨_, _, _, first, leads⟩ merges fun o ho => ?_, ?_⟩
      · exact (comes.parameters read o ho).trans parameters
      · rw [about_append, lost, ofResponse.quiet (responseVariants_adds nameOf _ _ _).sort]
        exact List.append_nil _

end Reading

/-- What becomes of one endpoint: its services, its variants, and its parameters. -/
structure Treatment where
  services : List String
  variants : List Operation
  merging : Option Merging

def Treatment.warnings (t : Treatment) : List Finding := t.merging.elim [] Merging.warnings

section Services

variable {settings : Settings} {nameOf : String → String} {document : Value}
variable {components : Components} {endpoints : List Endpoint}

/-- Beside collisions, the journal of a document tells what reading each endpoint tells. -/
theorem services_about {codes : List FindingCode} (other : .methodCollision ∉ codes)
    {j k : Journal} {ss : List Service}
    (run : (services settings nameOf document).run j = (.ok ss, k))
    (declared : Components.ofDocument document = .ok components)
    (listed : Endpoint.ofDocument document = .ok endpoints) :
    about codes k = about codes j ++
      endpoints.flatMap fun e => about codes (variants nameOf components e).entries := by
  obtain ⟨_, _, c, declared', listed', run, rfl⟩ := services_ok run
  cases declared.symm.trans declared'
  cases listed.symm.trans listed'
  obtain ⟨es, rfl, told⟩ := endpoints_about settings nameOf components other _ _ _ _ _ run
  rw [about_append, told]

theorem treatments_of_readings (typed : ∀ e ∈ endpoints, TypedEndpoint components e)
    {readings : List (List String × List Operation)}
    (h : List.Forall₂ (fun e r => Reads settings nameOf components e r.1 r.2) endpoints readings) :
    ∃ treatments : List Treatment,
      List.Forall₂ (fun e t => Reads settings nameOf components e t.services t.variants ∧
        Fate nameOf components e t.merging t.variants) endpoints treatments ∧
      (treatments.flatMap Treatment.warnings =
        endpoints.flatMap fun e => about lossCodes (variants nameOf components e).entries) ∧
      readings = treatments.map fun t => (t.services, t.variants) := by
  induction h with
  | nil => exact ⟨[], .nil, rfl, rfl⟩
  | @cons e r _ _ reads _ ih =>
      rw [List.forall_mem_cons] at typed
      obtain ⟨merging, fate, told⟩ :=
        ((variants_course nameOf components e).entries reads.variants).fate typed.1
      obtain ⟨treatments, all, left, same⟩ := ih typed.2
      refine ⟨⟨r.1, r.2, merging⟩ :: treatments, .cons ⟨reads, fate⟩ all, ?_, ?_⟩
      · rw [List.flatMap_cons, List.flatMap_cons, left, told]
        rfl
      · rw [same, List.map_cons]

theorem Fate.of_variant {e : Endpoint} {merging : Option Merging} {vs : List Operation}
    (h : Fate nameOf components e merging vs) {v : Operation} (hv : v ∈ vs) :
    ∃ m, merging = some m ∧ Merges nameOf components e m ∧ v.parameters = m.parameters := by
  cases h with
  | read _ merges same => exact ⟨_, rfl, merges, same v hv⟩
  | left => cases hv

end Services

/-- The parameters of every operation are what its path and itself list, merged in order, and one
for its body. Each parameter that leads nowhere or is placed elsewhere is warned about once, the
operations one after the other. -/
theorem parameters_merged {document : Value} (typed : TypedDocument document)
    (settings : Settings) (nameOf : String → String) (j : Journal) :
    ∃ (endpoints : List Endpoint) (treatments : List Treatment) (ss : List Service) (k : Journal),
      Endpoint.ofDocument document = .ok endpoints ∧
      (services settings nameOf document).run j = (.ok ss, k) ∧
      List.Forall₂ (fun e t =>
          Reads settings nameOf (tablesOf document) e t.services t.variants ∧
          Fate nameOf (tablesOf document) e t.merging t.variants ∧
          (∀ name ∈ t.services, ∃ s ∈ ss, s.name = name ∧
            ∀ v ∈ t.variants, ∃ o ∈ s.operations.values, Settles v o) ∧
          ∀ m ∈ t.merging, (∀ p ∈ m.parameters, p.place = .path → p.isRequired = true) ∧
            ((∀ param ∈ m.ofPath ++ m.ofOperation, TypedName param) →
              (m.ofPath.map pairOf).Nodup → (m.ofOperation.map pairOf).Nodup →
              (m.parameters.map fun p => (p.name, p.place)).Nodup)) endpoints treatments ∧
      (∀ s ∈ ss, ∀ o ∈ s.operations.values, ∃ e ∈ endpoints, ∃ m, Serves e o ∧
        Merges nameOf (tablesOf document) e m ∧ o.parameters = m.parameters) ∧
      about lossCodes k = about lossCodes j ++ treatments.flatMap Treatment.warnings := by
  obtain ⟨declared, tables⟩ := typed.tables_ok
  obtain ⟨endpoints, listed, each⟩ := typed.endpoints_ok
  obtain ⟨ss, k, run, _⟩ := services_succeed settings nameOf declared listed tables each j
  obtain ⟨_, paths, readings, declared', hpaths, reads, stores, _⟩ := services_read run
  cases declared.symm.trans declared'
  obtain ⟨paths', hpaths', same⟩ := endpoints_of_paths listed
  cases hpaths.symm.trans hpaths'
  rw [← same] at reads
  obtain ⟨treatments, all, told, same⟩ := treatments_of_readings each reads
  refine ⟨endpoints, treatments, ss, k, listed, run, (forall₂_mem_right all).imp ?_, ?_, ?_⟩
  · rintro e ⟨names, vs, merging⟩ ⟨ht, reads, fate⟩
    refine ⟨reads, fate, ?_, fun m hm => ?_⟩
    · refine stores.known (names, vs) ?_
      rw [same]
      exact List.mem_map.mpr ⟨_, ht, rfl⟩
    · cases fate with
      | read _ merges _ =>
          cases hm
          exact ⟨merges.required, merges.distinct⟩
      | left => cases hm
  · intro s hs o ho
    obtain ⟨r, hr, _, v, hv, settles⟩ := stores.read s hs o ho
    rw [same] at hr
    obtain ⟨t, ht, rfl⟩ := List.mem_map.mp hr
    obtain ⟨e, he, reads, fate⟩ := forall₂_exists_left all t ht
    obtain ⟨m, _, merges, parameters⟩ := fate.of_variant hv
    have variant := reads.each v hv
    refine ⟨e, he, m, ?_, merges, ?_⟩
    · rw [settles.rest]
      exact ⟨variant.id, variant.path, variant.method⟩
    · rw [settles.rest]
      exact parameters
  · rw [services_about (by decide) run declared listed, told]

def parameterAt (name place : String) (required : Bool) : Value :=
  .map [(.text "name", .text name), (.text "in", .text place),
    (.text "required", .scalar (.bool required))]

theorem typed_parameterAt (name place : String) (required : Bool) :
    TypedParameter (parameterAt name place required) := ⟨rfl, rfl, .other rfl, rfl⟩

/-- The operation replaces a parameter that its path has by two references. -/
def sharingOperation : Value :=
  .map [(.text "parameters", .list [parameterAt "limit" "query" true,
      referenceTo "#/components/parameters/Loop"]),
    (.text "requestBody", anyResponse),
    (.text "responses", .map [(.text "204", .map [])])]

def sharingItem : Value :=
  .map [(.text "parameters", .list [parameterAt "id" "path" false,
      referenceTo "#/components/parameters/Page", parameterAt "token" "cookie" false]),
    (.text "put", sharingOperation)]

def sharing : Value :=
  .map [(.text "components", .map [(.text "parameters", .map [
      (.text "Page", referenceTo "#/components/parameters/Limit"),
      (.text "Limit", parameterAt "limit" "query" false),
      (.text "Loop", referenceTo "#/components/parameters/Loop")])]),
    (.text "paths", .map [(.text "/cats", sharingItem)])]

theorem typed_sharingOperation :
    TypedEndpoint (tablesOf sharing) ⟨"/cats", .put, sharingItem, sharingOperation⟩ := by
  constructor
  case shared =>
    refine ⟨rfl, fun item hitem param leads => ?_⟩
    rcases List.mem_cons.mp hitem with rfl | hitem
    · cases Leads.unique ⟨_, .here rfl rfl⟩ leads
      exact typed_parameterAt _ _ _
    · rcases List.mem_cons.mp hitem with rfl | hitem
      · cases Leads.unique ⟨_, .there rfl rfl (.there rfl rfl (.here rfl rfl))⟩ leads
        exact typed_parameterAt _ _ _
      · cases List.mem_singleton.mp hitem
        cases Leads.unique ⟨_, .here rfl rfl⟩ leads
        exact typed_parameterAt _ _ _
  case own =>
    refine ⟨rfl, fun item hitem param leads => ?_⟩
    rcases List.mem_cons.mp hitem with rfl | hitem
    · cases Leads.unique ⟨_, .here rfl rfl⟩ leads
      exact typed_parameterAt _ _ _
    · cases List.mem_singleton.mp hitem
      exact absurd leads (not_leads_of_loop rfl rfl param)
  case body =>
    intro object leads
    cases Leads.unique ⟨_, .here rfl rfl⟩ leads
    refine ⟨rfl, ?_, rfl⟩
    rintro _ ⟨⟩
    refine ⟨⟨"application/json", rfl⟩, .of_absent ?_ rfl rfl rfl rfl⟩
    exact ⟨typedReference_of_absent rfl, rfl, rfl, rfl, rfl, rfl⟩
  case response =>
    intro status declared object first leads
    have split : [(Scalar.text "204", Value.map [])] = [] ++ (.text "204", .map []) :: [] := rfl
    have here : Declares ⟨"/cats", .put, sharingItem, sharingOperation⟩ "204" (.map []) :=
      ⟨_, rfl, .success split (by simp) (by decide)⟩
    obtain ⟨rfl, rfl⟩ := here.unique first
    cases Leads.unique ⟨[], .here rfl rfl⟩ leads
    exact ⟨rfl, fun media hm => absurd hm List.not_mem_nil⟩
  all_goals rfl

theorem typed_sharing : TypedDocument sharing := by
  constructor
  case tables =>
    intro name hn
    simp only [List.mem_cons, List.not_mem_nil, or_false] at hn
    rcases hn with rfl | rfl | rfl | rfl <;> rfl
  case keys => exact fun e he => absurd he List.not_mem_nil
  case schemas => exact fun e he => absurd he List.not_mem_nil
  case endpoints =>
    intro p hp e he
    cases List.mem_singleton.mp hp
    cases List.mem_singleton.mp he
    exact typed_sharingOperation
  all_goals rfl

/-- What is listed for each operation of the services. -/
def parameterLists (ss : List Service) : List (List (String × ParameterPlace × Bool)) :=
  ss.flatMap fun s => s.operations.values.map fun o =>
    o.parameters.map fun p => (p.name, p.place, p.isRequired)

theorem parameters_sharing : TypedDocument sharing ∧
    ∃ (treatments : List Treatment) (ss : List Service) (k : Journal),
    (services .defaults id sharing).run [] = (.ok ss, k) ∧
    parameterLists ss =
      [[("id", .path, true), ("limit", .query, true), ("body", .body, false)]] ∧
    (treatments.flatMap Treatment.warnings).map Finding.code =
      [.unresolvedParameter, .unsupportedParameter] ∧
    ∀ t ∈ treatments, ∀ m ∈ t.merging, ∀ p ∈ m.parameters,
      p.place = .path → p.isRequired = true := by
  obtain ⟨_, treatments, ss, k, _, run, all, _, told⟩ :=
    parameters_merged typed_sharing .defaults id []
  have lists : ((services .defaults id sharing).run []).1.toOption.map parameterLists =
      some [[("id", .path, true), ("limit", .query, true), ("body", .body, false)]] := by
    decide +kernel
  have codes : (about lossCodes ((services .defaults id sharing).run []).2).map Finding.code =
      [.unresolvedParameter, .unsupportedParameter] := by
    decide +kernel
  rw [run] at lists codes
  refine ⟨typed_sharing, treatments, ss, k, run, Option.some.inj lists, ?_, ?_⟩
  · rw [← codes, told]
    rfl
  · exact forall₂_right (all.imp fun _ _ h m hm => (h.2.2.2 m hm).1)

end SdkBlueprint.Services
