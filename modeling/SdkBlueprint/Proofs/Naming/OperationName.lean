import SdkBlueprint.Naming.OperationName
import SdkBlueprint.Proofs.Naming.Casing
import SdkBlueprint.Proofs.Services.Variants

/-! Laws of casing, and ids of operations that declare none. Such an id is in camel case, so that
methods are named after it as it stands. -/
namespace SdkBlueprint
open SdkBlueprint.Document SdkBlueprint.Services

namespace Naming

/-- An id that is made from a method and a path is its own camel case. -/
theorem camel_operationId (method path : String) :
    camel (operationId method path) = operationId method path := by
  rw [camel, operationId, operationIdChars, String.toList_ofList, camelChars_camelChars]

/-- Text between two others that has no letter or digit keeps them apart. -/
theorem pascal_across {gap : String} (some : gap ≠ "")
    (foreign : ∀ c ∈ gap.toList, c.isAlphanum = false) (before after : String) :
    pascal (before ++ gap ++ after) = pascal before ++ pascal after := by
  have some : gap.toList ≠ [] := fun none => some (String.toList_eq_nil_iff.mp none)
  rw [pascal, pascal, pascal, String.toList_append, String.toList_append,
    pascalChars_across some foreign, String.ofList_append]

end Naming

/-- The operation has an id of its own. -/
def Services.Endpoint.DeclaresId (e : Endpoint) : Prop :=
  (e.operation.field "operationId").truthy = true

theorem Services.Endpoint.id_of_undeclared {e : Endpoint} (undeclared : ¬ e.DeclaresId) :
    e.id = .text (Naming.operationId e.method.label e.path) := by
  unfold Endpoint.id
  exact if_neg undeclared

/-- Methods are named after an id that is made for an operation as it stands. -/
theorem Services.VariantOf.named_after_id {e : Endpoint} {o : Operation} (h : VariantOf e o)
    (undeclared : ¬ e.DeclaresId) :
    o.operationId = Naming.operationId e.method.label e.path ∧
      ∃ label, o.methodName =
        if label.isEmpty then o.operationId else o.operationId ++ "_" ++ label := by
  have same := h.id.symm.trans (Endpoint.id_of_undeclared undeclared)
  have id : o.operationId = Naming.operationId e.method.label e.path :=
    Option.some.inj (congrArg Value.textOf? same)
  obtain ⟨label, -, name⟩ := h.name
  have fixed : Naming.camel o.operationId = o.operationId := by
    rw [id, Naming.camel_operationId]
  rw [fixed] at name
  exact ⟨id, label, name⟩

namespace Naming

/-- Pascal case gives each run of ASCII letters and digits a capital at its front, and drops all
else. So Pascal and camel case of a text in either case are those of the text, a gap keeps what is
around it apart, and an id that is made for an operation is the name that its methods begin with. -/
theorem casing_laws (v : String) :
    pascal v = String.ofList ((runs v.toList).flatMap capitalize) ∧
    pascal (pascal v) = pascal v ∧
    (∀ before gap after : String, gap ≠ "" → (∀ c ∈ gap.toList, c.isAlphanum = false) →
      pascal (before ++ gap ++ after) = pascal before ++ pascal after) ∧
    pascal (camel v) = pascal v ∧
    camel (camel v) = camel v ∧ camel (pascal v) = camel v ∧
    (∀ method path, camel (operationId method path) = operationId method path) ∧
    ∀ e : Endpoint, ¬ e.DeclaresId →
      e.id = .text (operationId e.method.label e.path) ∧
      ∀ nameOf components j k vs, (variants nameOf components e).run j = (.ok vs, k) →
        ∀ o ∈ vs, o.operationId = operationId e.method.label e.path ∧
          ∃ label, o.methodName =
            if label.isEmpty then o.operationId else o.operationId ++ "_" ++ label := by
  refine ⟨?_, pascal_pascal v, ?_, pascal_camel v, camel_camel v, camel_pascal v,
    camel_operationId, fun e undeclared => ⟨e.id_of_undeclared undeclared, ?_⟩⟩
  · rw [pascal, pascalChars_eq]
  · intro before gap after some foreign
    exact pascal_across some foreign before after
  · intro nameOf components j k vs run o member
    have made := variants_yields nameOf components e j vs k run
    exact (made.1 o member).named_after_id undeclared

/-- An operation of a path with a parameter, without an id. -/
def postsEndpoint : Endpoint := ⟨"/users/\x7buserId\x7d/posts", .get, .map [], .map []⟩

theorem casing_postsEndpoint :
    "é-" ≠ "" ∧ (∀ c ∈ "é-".toList, c.isAlphanum = false) ∧ ¬ postsEndpoint.DeclaresId ∧
      pascal ("user" ++ "é-" ++ "postS") = pascal "user" ++ pascal "postS" ∧
      postsEndpoint.id = .text "getUsersByUserIdPosts" ∧
      camel "getUsersByUserIdPosts" = "getUsersByUserIdPosts" := by
  obtain ⟨-, -, across, -, -, -, fixed, undeclared⟩ := casing_laws "user"
  have none : ¬ postsEndpoint.DeclaresId := by
    unfold Endpoint.DeclaresId
    decide +kernel
  have made : operationId "GET" "/users/\x7buserId\x7d/posts" = "getUsersByUserIdPosts" := by
    decide +kernel
  have foreign : ∀ c ∈ "é-".toList, c.isAlphanum = false := by simp
  have some : "é-" ≠ "" := by decide +kernel
  refine ⟨some, foreign, none, across "user" "é-" "postS" some foreign, ?_, ?_⟩
  · exact (undeclared postsEndpoint none).1.trans (congrArg Value.text made)
  · exact made ▸ fixed "GET" "/users/\x7buserId\x7d/posts"

end Naming
end SdkBlueprint
