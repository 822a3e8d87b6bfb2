import SdkBlueprint.Proofs.Services.Outcomes

/-! Names of methods as the variants have them before they are told apart. The variants of an
operation are named after it, and behind one underscore after the content type that they accept. -/
namespace SdkBlueprint.Services
open SdkBlueprint.Document SdkBlueprint.Schema SdkBlueprint.Text

/-- The name of a method by the content type that it accepts: the bare one without a content type
and for plain JSON, and else that with a label behind it. -/
inductive NamedFor (base : String) : Option String → String → Prop
  | silent : NamedFor base none base
  | json {type : String} (plain : Spells type "application/json".toList) :
      NamedFor base (some type) base
  | labelled {type : String} (told : contentLabel type ≠ "")
      (word : Alphanumeric (contentLabel type)) :
      NamedFor base (some type) (base ++ "_" ++ contentLabel type)

/-- The method of the variant is named after its operation and what it accepts. -/
def Named (o : Operation) : Prop :=
  NamedFor (Naming.camel o.operationId) o.acceptHeader o.methodName

section Named

variable (nameOf : String → String) {s : Shared} (base : s.baseName = Naming.camel s.id)

include base

theorem silentVariant_named {type : TypeExpr} {o : Operation}
    (h : variant s "" type none none = .ok o) : Named o := by
  obtain ⟨shares, name, -, accept, -⟩ := variant_made h
  rw [Named, name, accept, base, shares.id]
  exact .silent

theorem contentVariant_named {contentType : Scalar} {schema : Value} {o : Operation}
    (h : contentVariant nameOf s contentType schema = .ok o) : Named o := by
  obtain ⟨type, returnType, -, -, h⟩ := contentVariant_made nameOf h
  obtain ⟨shares, name, -, accept, -⟩ := variant_made h
  rw [Named, name, accept, base, shares.id]
  obtain ⟨word, json⟩ := contentLabel_spec type
  by_cases plain : contentLabel type = ""
  · rw [plain]
    exact .json (spells_iff.mpr (json.mp plain))
  · rw [if_neg (by rwa [String.isEmpty_iff])]
    exact .labelled plain word

theorem responseVariants_named (status : String) (response : Value) :
    Logged.Yields (fun vs => ∀ o ∈ vs, Named o) (responseVariants nameOf s status response) := by
  unfold responseVariants
  simp only []
  split
  · refine (Logged.Yields.attempt fun o h => silentVariant_named base h).bind fun o named => ?_
    exact .pure fun v hv => List.mem_singleton.mp hv ▸ named
  · refine .next fun content => ?_
    exact (contentVariants_each nameOf (fun _ _ h => contentVariant_named nameOf base h) status
      content).mono fun _ each => forall₂_right each

end Named

theorem variants_named (nameOf : String → String) (components : Components) (e : Endpoint) :
    Logged.Yields (fun vs => ∀ o ∈ vs, Named o) (variants nameOf components e) := by
  intro j vs k run
  obtain ⟨_, -, course⟩ := variants_course nameOf components e j vs k run
  cases course with
  | missing => exact fun o none => absurd none List.not_mem_nil
  | unresolved => exact fun o none => absurd none List.not_mem_nil
  | answered _ _ _ _ made =>
      exact responseVariants_named nameOf rfl _ _ [] vs _ (Prod.ext made rfl)

/-- What a content type is told by is its base: there is one, and content types with the same base
have the same label and are read in the same way, so that blanks around a content type, the case of
its letters and parameters behind it are of no account. Labels have only letters and digits, and
plain JSON alone has the empty one. The methods of an operation are therefore named after it in
camel case, with nothing behind it or with one underscore and a label, and never with a colon. -/
theorem content_labels_canonical :
    (∀ contentType, ∃! base, Spells contentType base) ∧
    (∀ s t base, Spells s base → Spells t base →
      contentLabel s = contentLabel t ∧ responseKind? s = responseKind? t) ∧
    (∀ piece variant front back parameters : String,
      SameButCase variant.toList piece.toList → allBlank front = true → allBlank back = true →
      (∀ c ∈ parameters.toList.head?, c = ';') →
      contentLabel (front ++ variant ++ back ++ parameters) = contentLabel piece ∧
        responseKind? (front ++ variant ++ back ++ parameters) = responseKind? piece) ∧
    (∀ contentType, Alphanumeric (contentLabel contentType) ∧
      (contentLabel contentType = "" ↔ Spells contentType "application/json".toList)) ∧
    ∀ nameOf components e j k vs, (variants nameOf components e).run j = (.ok vs, k) →
      ∀ o ∈ vs, e.id = .text o.operationId ∧ Alphanumeric (Naming.camel o.operationId) ∧
        NamedFor (Naming.camel o.operationId) o.acceptHeader o.methodName ∧
        Colonless o.methodName := by
  have decides {s t : String} (same : baseType s = baseType t) :
      contentLabel s = contentLabel t ∧ responseKind? s = responseKind? t := by
    rw [contentLabel, contentLabel, responseKind?, responseKind?, same]
    exact ⟨rfl, rfl⟩
  refine ⟨fun contentType => ?_, fun s t base hs ht => ?_, ?_, fun contentType => ?_, ?_⟩
  · exact ⟨baseType contentType, spells_baseType contentType, fun _ h => h.baseType_eq.symm⟩
  · exact decides (hs.baseType_eq.trans ht.baseType_eq.symm)
  · intro piece variant front back parameters case before behind begins
    exact decides (baseType_around case before behind begins)
  · rw [spells_iff]
    exact contentLabel_spec contentType
  · intro nameOf components e j k vs run o member
    have made := (variants_yields nameOf components e j vs k run).1 o member
    exact ⟨made.id, Naming.camel_alphanumeric o.operationId,
      variants_named nameOf components e j vs k run o member, made.colonless⟩

/-- An operation that returns a picture and plain JSON, both written in a way of their own. -/
def logoEndpoint : Endpoint :=
  let content : Value := .map [
    (.text "\tIMAGE/Svg+XML ; charset=utf-8", .map [(.text "schema", .map [])]),
    (.text "Application/JSON;v=2", .map [(.text "schema", .map [])])]
  let responses : Value := .map [(.text "200", .map [(.text "content", content)])]
  ⟨"/logo", .get, .map [], .map [(.text "operationId", .text "get-logo"),
    (.text "responses", responses)]⟩

theorem content_labels_logoEndpoint :
    SameButCase "IMAGE/Svg+XML".toList "image/svg+xml".toList ∧ allBlank "\t" = true ∧
    allBlank " " = true ∧ (∀ c ∈ "; charset=utf-8".toList.head?, c = ';') ∧
    contentLabel ("\t" ++ "IMAGE/Svg+XML" ++ " " ++ "; charset=utf-8") = "ImageSvgXml" ∧
    responseKind? ("\t" ++ "IMAGE/Svg+XML" ++ " " ++ "; charset=utf-8") = some .binary ∧
    Spells "Application/JSON;v=2" "application/json".toList ∧
    Spells "application/json" "application/json".toList ∧
    responseKind? "Application/JSON;v=2" = responseKind? "application/json" ∧
    ∃ vs k, (variants id ⟨.map [], .map [], .map []⟩ logoEndpoint).run [] = (.ok vs, k) ∧
      vs.map Operation.methodName = ["getLogo_ImageSvgXml", "getLogo"] ∧
      ∀ o ∈ vs, o.operationId = "get-logo" ∧ Named o ∧ Colonless o.methodName := by
  obtain ⟨-, alike, around, json, named⟩ := content_labels_canonical
  have cased : SameButCase "IMAGE/Svg+XML".toList "image/svg+xml".toList := by
    unfold SameButCase
    decide +kernel
  have begins : ∀ c ∈ "; charset=utf-8".toList.head?, c = ';' := by simp
  have picture := around "image/svg+xml" "IMAGE/Svg+XML" "\t" " " "; charset=utf-8" cased
    (by decide) (by decide) begins
  have plain : Spells "Application/JSON;v=2" "application/json".toList :=
    (json "Application/JSON;v=2").2.mp (by decide +kernel)
  have same : Spells "application/json" "application/json".toList :=
    (json "application/json").2.mp (by decide +kernel)
  obtain ⟨vs, k, run, names⟩ : ∃ vs k,
      (variants id ⟨.map [], .map [], .map []⟩ logoEndpoint).run [] = (.ok vs, k) ∧
        vs.map Operation.methodName = ["getLogo_ImageSvgXml", "getLogo"] := by
    have evaluated : ((variants id ⟨.map [], .map [], .map []⟩ logoEndpoint).run []).1.map
        (List.map Operation.methodName) = .ok ["getLogo_ImageSvgXml", "getLogo"] := by
      decide +kernel
    obtain ⟨vs, made, names⟩ := attempt_map_ok evaluated
    exact ⟨vs, _, Prod.ext made rfl, names⟩
  refine ⟨cased, by decide, by decide, begins, picture.1.trans (by decide +kernel),
    picture.2.trans (by decide +kernel), plain, same, (alike _ _ _ plain same).2, vs, k, run, names,
    fun o member => ?_⟩
  obtain ⟨known, -, name, free⟩ := named _ _ _ _ _ _ run o member
  have declared : logoEndpoint.id = .text "get-logo" := rfl
  have id : "get-logo" = o.operationId :=
    Option.some.inj (congrArg Value.textOf? (declared.symm.trans known))
  exact ⟨id.symm, name, free⟩

end SdkBlueprint.Services
