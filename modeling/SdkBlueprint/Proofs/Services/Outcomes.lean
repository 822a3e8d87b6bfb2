import SdkBlueprint.Proofs.Services.Responses
import SdkBlueprint.Proofs.Services.Variants

/-! What reading one operation comes to. How it replies decides which variants it has, and
what has none is warned about under the id of the operation. -/
namespace SdkBlueprint.Services
open SdkBlueprint.Document SdkBlueprint.Schema

/-- The findings of some codes, in the order in which they were made. -/
def about (codes : List FindingCode) (j : Journal) : List Finding :=
  j.findings.filter fun f => codes.contains f.code

section About

variable {codes : List FindingCode}

theorem about_append (i j : Journal) : about codes (i ++ j) = about codes i ++ about codes j := by
  simp only [about, Journal.findings_append, List.filter_append]

theorem about_flatten (parts : List Journal) :
    about codes parts.flatten = parts.flatMap (about codes) := by
  induction parts with
  | nil => rfl
  | cons p parts ih => rw [List.flatten_cons, about_append, ih, List.flatMap_cons]

theorem about_eq_nil {j : Journal} (h : ∀ e ∈ j, ∀ f, e.finding? = some f → f.code ∉ codes) :
    about codes j = [] := by
  refine List.filter_eq_nil_iff.mpr fun f hf known => ?_
  obtain ⟨e, he, found⟩ := List.mem_filterMap.mp hf
  exact h e he f found (List.contains_iff_mem.mp known)

/-- Findings that are all of these codes are kept as they are. -/
theorem about_findings {fs : List Finding} (h : ∀ f ∈ fs, f.code ∈ codes) :
    about codes (fs.map (Entry.finding .services)) = fs := by
  have findings : Journal.findings (fs.map (Entry.finding .services)) = fs := by
    rw [Journal.findings, List.filterMap_map]
    exact List.filterMap_some
  rw [about, findings]
  exact List.filter_eq_self.mpr fun f hf => List.contains_iff_mem.mpr (h f hf)

end About

/-- The findings about operations and content types that are left out. -/
def skips (j : Journal) : List Finding :=
  j.findings.filter fun f =>
    [.missingSuccessResponse, .unresolvedResponse, .missingResponseSchema].contains f.code

theorem skips_append (i j : Journal) : skips (i ++ j) = skips i ++ skips j := about_append i j

theorem skips_ofParameters {j : Journal} (h : ∀ e ∈ j, ofParameters e) : skips j = [] := by
  refine about_eq_nil fun e he f hf skipped => ?_
  have known := (h e he).2 f hf
  revert known skipped
  cases f.code <;> decide

/-- A variant for an entry of the content: it accepts the content type and returns its schema. -/
structure Accepts (nameOf : String → String) (entry : Scalar × Value) (o : Operation) : Prop where
  type : ∃ type, entry.1 = .text type ∧ o.acceptHeader = some type ∧
    o.responseKind = responseKind? type
  returns : resolve nameOf (mediaSchema entry.2) = .ok o.returnType

def withoutResponse (e : Endpoint) (id : String) : Finding :=
  ⟨.missingSuccessResponse, .warning, noSuccessMessage id e.method.label e.path, some id⟩

def withoutObject (id status : String) : Finding :=
  ⟨.unresolvedResponse, .warning, unresolvedResponseMessage status id, some id⟩

def withoutSchema (id status : String) (entry : Scalar × Value) : Finding :=
  ⟨.missingResponseSchema, .warning, noSchemaMessage status id entry.1.display, some id⟩

section Outcomes

variable (nameOf : String → String) (components : Components) (e : Endpoint)

/-- What an operation comes to by its reply: its variants, and what is left out. -/
inductive Comes (id : String) : Reply → List Operation → List Finding → Prop
  | missing : Comes id .missing [] [withoutResponse e id]
  | unresolved {status} : Comes id (.unresolved status) [] [withoutObject id status]
  | bare {body o}
      (read : (operationParameters nameOf components e.item e.operation (.text id)).result =
        .ok body)
      (shared : Shares e id body o) (void : o.returnType = .void)
      (accept : o.acceptHeader = none) (kind : o.responseKind = none) : Comes id .bare [o] []
  | content {status entries body vs}
      (read : (operationParameters nameOf components e.item e.operation (.text id)).result =
        .ok body)
      (shared : ∀ o ∈ vs, Shares e id body o)
      (each : List.Forall₂ (Accepts nameOf) (entries.filter hasSchema) vs) :
      Comes id (.content status entries) vs
        ((entries.filter fun c => !hasSchema c).map (withoutSchema id status))

variable {nameOf components e}

theorem Comes.warns {id : String} {reply : Reply} {vs : List Operation} {fs : List Finding}
    (h : Comes nameOf components e id reply vs fs) :
    ∀ f ∈ fs, f.severity = .warning ∧ f.subject = some id := by
  intro f hf
  cases h with
  | missing => exact List.mem_singleton.mp hf ▸ ⟨rfl, rfl⟩
  | unresolved => exact List.mem_singleton.mp hf ▸ ⟨rfl, rfl⟩
  | bare => cases hf
  | content =>
      obtain ⟨c, _, rfl⟩ := List.mem_map.mp hf
      exact ⟨rfl, rfl⟩

theorem Comes.counts {id status : String} {entries : List (Scalar × Value)}
    {vs : List Operation} {fs : List Finding}
    (h : Comes nameOf components e id (.content status entries) vs fs) :
    vs.length + fs.length = entries.length := by
  cases h with
  | content _ _ each =>
      rw [← each.length_eq, List.length_map]
      exact (List.length_eq_length_filter_add hasSchema).symm

/-- An operation without variants is warned about. -/
theorem Comes.noticed {id : String} {reply : Reply} {fs : List Finding}
    (replies : Replies components e reply) (h : Comes nameOf components e id reply [] fs) :
    fs ≠ [] := by
  cases replies with
  | missing =>
      cases h
      exact List.cons_ne_nil _ _
  | unresolved =>
      cases h
      exact List.cons_ne_nil _ _
  | bare => cases h
  | content _ _ _ some =>
      intro none
      have counted := h.counts
      rw [none, List.length_nil, List.length_nil] at counted
      exact some (List.length_eq_zero_iff.mp counted.symm)

theorem Comes.shared {id : String} {reply : Reply} {vs : List Operation} {fs : List Finding}
    (h : Comes nameOf components e id reply vs fs) :
    ∃ body, ∀ o ∈ vs, Shares e id body o := by
  cases h with
  | missing => exact ⟨⟨[], .null⟩, fun _ ho => absurd ho List.not_mem_nil⟩
  | unresolved => exact ⟨⟨[], .null⟩, fun _ ho => absurd ho List.not_mem_nil⟩
  | bare _ shared => exact ⟨_, fun o ho => List.mem_singleton.mp ho ▸ shared⟩
  | content _ shared => exact ⟨_, shared⟩

end Outcomes

section Variants

variable (nameOf : String → String)

theorem contentVariant_accepts {s : Shared} {entry : Scalar × Value} {o : Operation}
    (h : contentVariant nameOf s entry.1 (mediaSchema entry.2) = .ok o) :
    Shares s.endpoint s.id ⟨s.parameters, s.requestContentType⟩ o ∧ Accepts nameOf entry o := by
  obtain ⟨type, returnType, known, resolved, h⟩ := contentVariant_made nameOf h
  obtain ⟨shares, -, returns, accept, kind⟩ := variant_made h
  exact ⟨shares, ⟨type, known, accept, kind⟩, returns ▸ resolved⟩

theorem warnOperation_tells (code : FindingCode) (message id : String) :
    Logged.Tells (fun _ es => es = [.finding .services ⟨code, .warning, message, some id⟩])
      (warnOperation code message (.text id)) := .note rfl

theorem skips_made {s : Shared} {status : String} {entries : List (Scalar × Value)}
    {made : List (Option Operation × Journal)}
    (h : List.Forall₂ (fun c (m : Option Operation × Journal) =>
      skips m.2 = if hasSchema c then [] else [withoutSchema s.id status c]) entries made) :
    skips (made.flatMap Prod.snd) =
      (entries.filter fun c => !hasSchema c).map (withoutSchema s.id status) := by
  induction h with
  | nil => rfl
  | @cons c m entries made here _ ih =>
      rw [List.flatMap_cons, skips_append, here, ih]
      by_cases schema : hasSchema c = true
      · rw [if_pos schema, List.filter_cons_of_neg (by simp [schema])]
        rfl
      · rw [if_neg schema, List.filter_cons_of_pos (by simpa using schema)]
        rfl

theorem contentVariants_tells (s : Shared) (status : String) (entries : List (Scalar × Value)) :
    Logged.Tells (fun vs es =>
        (∀ o ∈ vs, Shares s.endpoint s.id ⟨s.parameters, s.requestContentType⟩ o) ∧
        List.Forall₂ (Accepts nameOf) (entries.filter hasSchema) vs ∧
        skips es = (entries.filter fun c => !hasSchema c).map (withoutSchema s.id status))
      (contentVariants nameOf s status entries) := by
  unfold contentVariants
  refine Logged.Tells.bind (Logged.Tells.mapM (T := fun c m es =>
    skips es = (if hasSchema c then [] else [withoutSchema s.id status c]) ∧
    Made (fun c o => Shares s.endpoint s.id ⟨s.parameters, s.requestContentType⟩ o ∧
      Accepts nameOf c o) c m) fun c _ => ?_) ?_
  · by_cases schema : hasSchema c = true
    · have present : ¬ (mediaSchema c.2).isNull = true := by simpa [hasSchema] using schema
      simp only [if_neg present, if_pos schema]
      refine (Logged.Tells.attempt (R := fun o es => es = [] ∧
        Shares s.endpoint s.id ⟨s.parameters, s.requestContentType⟩ o ∧ Accepts nameOf c o)
        fun o ho => ⟨rfl, contentVariant_accepts nameOf ho⟩).bind ?_
      rintro o es ⟨rfl, made⟩
      exact .pure ⟨rfl, schema, made⟩
    · have absent : (mediaSchema c.2).isNull = true := by simpa [hasSchema] using schema
      simp only [if_pos absent, if_neg schema]
      have without : hasSchema c = false := Bool.eq_false_iff.mpr schema
      refine (warnOperation_tells _ _ s.id).bind fun _ es noted => .pure ⟨?_, without⟩
      rw [noted]
      rfl
  · rintro ms es ⟨made, each, rfl, rfl⟩
    have all := forall₂_filter ((List.forall₂_map_right_iff (f := Prod.fst)).mpr
      (each.imp fun c m h => h.2))
    refine .pure ⟨forall₂_right (all.imp fun c o h => h.1), all.imp fun c o h => h.2, ?_⟩
    rw [List.append_nil]
    exact skips_made (each.imp fun c m h => h.1)

theorem Endpoint.id_ne_null (e : Endpoint) : e.id ≠ .null := by
  unfold Endpoint.id
  simp only []
  split
  · next declared =>
    intro null
    rw [null] at declared
    cases declared
  · intro null
    cases null

theorem display_text (s : String) : (Value.text s).display = s := String.ofList_toList

/-- The id of an operation that is warned about is a text. -/
theorem warnOperation_id_tells (code : FindingCode) (message : String → String) (e : Endpoint) :
    Logged.Tells (fun _ es => ∃ id, e.id = .text id ∧
        es = [.finding .services ⟨code, .warning, message id, some id⟩])
      (warnOperation code (message e.id.display) e.id) := by
  have known := e.id_ne_null
  generalize e.id = id at known ⊢
  unfold warnOperation
  refine (Logged.Tells.attempt (R := fun subject es => es = [] ∧
    ∃ s, id = .text s ∧ subject = some s) fun subject h => ⟨rfl, ?_⟩).bind ?_
  · unfold optionalText at h
    split at h
    · exact absurd rfl known
    · exact ⟨_, rfl, (Except.ok.inj h).symm⟩
    · cases h
  · rintro subject es ⟨rfl, s, rfl, rfl⟩
    rw [display_text]
    exact .note ⟨s, rfl, rfl⟩

theorem responseVariants_tells (components : Components) {e : Endpoint} {id status : String}
    {body : RequestBody} {declared response : Value}
    (read : (operationParameters nameOf components e.item e.operation (.text id)).result =
      .ok body)
    (first : Declares e status declared)
    (leads : Leads components.responses declared response) :
    Logged.Tells (fun vs es => ∃ reply, Replies components e reply ∧
        Comes nameOf components e id reply vs (skips es))
      (responseVariants nameOf ⟨id, Naming.camel id, e, body.parameters, body.contentType⟩ status
        response) := by
  unfold responseVariants
  simp only []
  by_cases filled : (orEmptyMap (response.field "content")).truthy = true
  · have same : orEmptyMap (response.field "content") = response.field "content" := by
      rw [orEmptyMap]
      refine if_pos (by_contra fun empty => ?_)
      rw [orEmptyMap, if_neg empty] at filled
      cases filled
    rw [same] at filled ⊢
    simp only [filled, Bool.not_true, Bool.false_eq_true, if_false]
    refine (Logged.Tells.attempt (R := fun entries es => es = [] ∧
      response.field "content" = .map entries) fun entries h => ⟨rfl, ?_⟩).bind ?_
    · unfold fieldsOf at h
      split at h
      · next entries' hmap => exact hmap.trans (congrArg Value.map (Except.ok.inj h))
      · cases h
    · rintro entries es ⟨rfl, hmap⟩
      have some : entries ≠ [] := by
        rintro rfl
        rw [hmap] at filled
        cases filled
      refine (contentVariants_tells nameOf _ status entries).mono fun vs es made => ?_
      obtain ⟨shares, each, left⟩ := made
      refine ⟨.content status entries, .content first leads hmap some, ?_⟩
      rw [List.nil_append, left]
      exact .content read shares each
  · have empty : isSet response "content" = false := by
      refine Bool.eq_false_iff.mpr fun set => filled ?_
      rw [isSet] at set
      rwa [orEmptyMap, if_pos set]
    simp only [filled, Bool.not_false, if_true]
    refine (Logged.Tells.attempt (R := fun o es => es = [] ∧ Shares e id body o ∧
      o.returnType = .void ∧ o.acceptHeader = none ∧ o.responseKind = none)
      fun o ho => ⟨rfl, (variant_made ho).1, (variant_made ho).2.2⟩).bind ?_
    rintro o es ⟨rfl, shares, void, accept, kind⟩
    exact .pure ⟨.bare, .bare first leads empty, .bare read shares void accept kind⟩

/-- The course of reading an endpoint. It ends early, with a warning, where the success response
is missing or leads nowhere; else the parameters are read, and then the response. -/
inductive Course (components : Components) (e : Endpoint) : List Operation → Journal → Prop
  | missing {id responses} (known : e.id = .text id)
      (all : fieldsOf (orEmptyMap (e.operation.field "responses")) = .ok responses)
      (none : ∀ r ∈ responses, isSuccess r.1 = false ∧ r.1 ≠ .text "default") :
      Course components e [] [.finding .services (withoutResponse e id)]
  | unresolved {id status declared} (known : e.id = .text id) (first : Declares e status declared)
      (nowhere : ∀ object, ¬ Leads components.responses declared object) :
      Course components e [] [.finding .services (withoutObject id status)]
  | answered {id status declared response body vs} (known : e.id = .text id)
      (first : Declares e status declared) (leads : Leads components.responses declared response)
      (read : (operationParameters nameOf components e.item e.operation (.text id)).result =
        .ok body)
      (made : (responseVariants nameOf
        ⟨id, Naming.camel id, e, body.parameters, body.contentType⟩ status response).result =
          .ok vs) :
      Course components e vs
        ((operationParameters nameOf components e.item e.operation (.text id)).entries ++
          (responseVariants nameOf
            ⟨id, Naming.camel id, e, body.parameters, body.contentType⟩ status response).entries)

theorem variants_course (components : Components) (e : Endpoint) :
    Logged.Tells (Course nameOf components e) (variants nameOf components e) := by
  unfold variants
  refine (Logged.Tells.attempt (R := fun responses es => es = [] ∧
    fieldsOf (orEmptyMap (e.operation.field "responses")) = .ok responses)
    fun responses h => ⟨rfl, h⟩).bind ?_
  rintro responses es ⟨rfl, all⟩
  split
  · next silent =>
    refine (warnOperation_id_tells _ (fun id => noSuccessMessage id e.method.label e.path)
      e).bind ?_
    rintro _ _ ⟨id, hid, rfl⟩
    exact .pure (.missing hid all (successResponse_eq_none_iff.mp silent))
  · next status declared success =>
    have first : Declares e status declared :=
      ⟨responses, all, successResponse_eq_some_iff.mp success⟩
    refine (Logged.Tells.attempt (R := fun found es => es = [] ∧
      target components.responses declared = .ok found) fun found h => ⟨rfl, h⟩).bind ?_
    rintro found es ⟨rfl, reached⟩
    have leads := target_eq_some_iff reached
    cases found with
    | none =>
        have nowhere : ∀ object, ¬ Leads components.responses declared object :=
          fun object h => absurd ((leads object).mpr h) (by simp)
        refine (warnOperation_id_tells _ (unresolvedResponseMessage status) e).bind ?_
        rintro _ _ ⟨id, hid, rfl⟩
        exact .pure (.unresolved hid first nowhere)
    | some response =>
        refine (Logged.Tells.of_adds
          (operationParameters_adds nameOf components e.item e.operation e.id)).bind ?_
        rintro body es ⟨read, rfl⟩
        refine (Logged.Tells.attempt (R := fun id es => es = [] ∧ e.id = .text id)
          fun id h => ⟨rfl, text_of_operationIdText h⟩).bind ?_
        rintro id es ⟨rfl, hid⟩
        refine (Logged.Tells.of_adds (responseVariants_adds nameOf _ _ _)).mono ?_
        rintro vs es ⟨made, rfl⟩
        rw [hid] at read ⊢
        exact .answered hid first ((leads response).mp rfl) read made

/-- Reading an operation comes to the variants of its reply and notes what is left out. -/
theorem variants_tells (components : Components) (e : Endpoint) :
    Logged.Tells (fun vs es => ∃ id reply, e.id = .text id ∧ Replies components e reply ∧
        Comes nameOf components e id reply vs (skips es))
      (variants nameOf components e) := by
  refine (variants_course nameOf components e).mono fun vs es course => ?_
  cases course with
  | missing known all none => exact ⟨_, .missing, known, .missing all none, .missing⟩
  | unresolved known first nowhere =>
      exact ⟨_, .unresolved _, known, .unresolved first nowhere, .unresolved⟩
  | answered known first leads read made =>
      obtain ⟨reply, replies, comes⟩ :=
        (responseVariants_tells nameOf components read first leads).entries made
      have adds := operationParameters_adds nameOf components e.item e.operation e.id
      rw [known] at adds
      refine ⟨_, reply, known, replies, ?_⟩
      rw [skips_append, skips_ofParameters adds.sort]
      exact comes

end Variants

end SdkBlueprint.Services
