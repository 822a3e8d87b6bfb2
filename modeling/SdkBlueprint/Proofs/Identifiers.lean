import SdkBlueprint.Proofs.Converted
import SdkBlueprint.Proofs.Naming.Casing

/-! Names of models. A name depends on the key alone, and casing forgets separators and the case
of first letters, while the suffix of a reserved name may lead to a name that is in use. Nothing
sees to it that the names of a blueprint differ; they do when no two of its keys collide. -/
namespace SdkBlueprint
open SdkBlueprint.Document SdkBlueprint.Schema SdkBlueprint.Population SdkBlueprint.Naming

/-- Keys whose models get one name: casing leads to one, or the suffix of a reserved one leads to
the other. -/
inductive Collide (settings : Settings) : String → String → Prop
  | cased {k k'} (same : pascal k = pascal k') : Collide settings k k'
  | suffixed {k k'} (reserved : isReserved settings.extraReservedWords (pascal k) = true)
      (free : isReserved settings.extraReservedWords (pascal k') = false)
      (hit : pascal k ++ settings.reservedSuffix = pascal k') : Collide settings k k'
  | taken {k k'} (reserved : isReserved settings.extraReservedWords (pascal k') = true)
      (free : isReserved settings.extraReservedWords (pascal k) = false)
      (hit : pascal k' ++ settings.reservedSuffix = pascal k) : Collide settings k k'

namespace Collide

variable {settings : Settings} {k k' : String}

theorem same_name (h : Collide settings k k') :
    settings.sanitized (pascal k) = settings.sanitized (pascal k') := by
  unfold Settings.sanitized rename
  cases h with
  | cased same => rw [same]
  | suffixed reserved free hit => rw [reserved, free, if_pos rfl, if_neg Bool.false_ne_true, hit]
  | taken reserved free hit => rw [reserved, free, if_pos rfl, if_neg Bool.false_ne_true, hit]

/-- The names of two keys are the same if and only if the keys collide. -/
theorem iff_name :
    settings.sanitized (pascal k) = settings.sanitized (pascal k') ↔ Collide settings k k' := by
  constructor
  · intro same
    unfold Settings.sanitized rename at same
    cases left : isReserved settings.extraReservedWords (pascal k) with
    | true =>
        cases right : isReserved settings.extraReservedWords (pascal k') with
        | true =>
            rw [left, right, if_pos rfl, if_pos rfl] at same
            have chars := congrArg String.toList same
            rw [String.toList_append, String.toList_append] at chars
            exact .cased (String.toList_injective (List.append_cancel_right chars))
        | false =>
            rw [left, right, if_pos rfl, if_neg Bool.false_ne_true] at same
            exact .suffixed left right same
    | false =>
        cases right : isReserved settings.extraReservedWords (pascal k') with
        | true =>
            rw [left, right, if_pos rfl, if_neg Bool.false_ne_true] at same
            exact .taken right left same.symm
        | false =>
            rw [left, right, if_neg Bool.false_ne_true, if_neg Bool.false_ne_true] at same
            exact .cased same
  · exact same_name

/-- Every key collides with its own Pascal case. -/
theorem pascal_right (settings : Settings) (k : String) : Collide settings k (pascal k) :=
  .cased (pascal_pascal k).symm

/-- A suffix with a character that names do not have leads to no name in use. -/
theorem iff_cased {c : Char} (inside : c ∈ settings.reservedSuffix.toList)
    (foreign : c.isAlphanum = false) : Collide settings k k' ↔ pascal k = pascal k' := by
  have missed : ∀ first second : String, pascal first ++ settings.reservedSuffix ≠ pascal second := by
    intro first second hit
    have chars := congrArg String.toList hit
    rw [String.toList_append, pascal, pascal, String.toList_ofList, String.toList_ofList] at chars
    have member : c ∈ pascalChars second.toList := chars ▸ List.mem_append_right _ inside
    have word := pascalChars_alphanum second.toList c member
    rw [foreign] at word
    cases word
  constructor
  · intro h
    cases h with
    | cased same => exact same
    | suffixed _ _ hit => exact absurd hit (missed _ _)
    | taken _ _ hit => exact absurd hit (missed _ _)
  · exact .cased

end Collide

namespace Blueprint

variable {b : Blueprint}

/-- A name that one model bears leads to that model. -/
theorem model?_of_unique {m : Model} (member : m ∈ b.models)
    (unique : ∀ m' ∈ b.models, m'.name = m.name → m' = m) : b.model? m.name = some m := by
  cases found : b.model? m.name with
  | none =>
      have other := List.find?_eq_none.mp found m member
      simp at other
  | some m' =>
      have same : m'.name = m.name := by simpa using List.find?_some found
      rw [unique m' (List.mem_of_find?_eq_some found) same]

theorem model?_of_distinct (distinct : (b.models.map Model.name).Nodup) {m : Model}
    (member : m ∈ b.models) : b.model? m.name = some m := by
  apply model?_of_unique member
  intro m' member' same
  exact List.inj_on_of_nodup_map distinct member' member same

end Blueprint

section Names

variable {settings : Settings} {document : Value} {b : Blueprint} {reg : Registry}

theorem Converted.name_eq (h : Converted settings document b reg) {m : Model}
    (member : m ∈ b.models) : m.name = settings.sanitized (pascal m.key) := by
  obtain ⟨schemas, rfl⟩ := h.records
  have registered : m.key ∈ schemas.names := by
    rw [← h.keys]
    exact List.mem_map_of_mem member
  obtain ⟨schema, declared⟩ := Table.mem_names.mp registered
  have stored := started_get? settings schemas m.key
  rw [declared, Option.map_some, started] at stored
  rw [← h.named m member, h.nameOf, Registry.nameOf, Registry.nameIn, stored]
  simp only [Model.withName]

theorem Converted.keys_distinct (h : Converted settings document b reg) :
    (b.models.map Model.key).Nodup := h.keys ▸ reg.schemas.names_nodup

end Names

/-- The models of a blueprint differ in their keys, and each is named after its key alone. Two of
them have one name if and only if their keys collide, so that all names differ if and only if no
two keys collide; and a model whose key collides with no other is found by its name. -/
theorem names_collide_with_keys {settings : Settings} {document : Value} {b : Blueprint}
    {j k : Journal} (run : (convert settings document).run j = (.ok b, k)) :
    (b.models.map Model.key).Nodup ∧
    (∀ m ∈ b.models, m.name = settings.sanitized (pascal m.key)) ∧
    (∀ m ∈ b.models, ∀ m' ∈ b.models, m.name = m'.name ↔ Collide settings m.key m'.key) ∧
    ((b.models.map Model.name).Nodup ↔
      ∀ m ∈ b.models, ∀ m' ∈ b.models, Collide settings m.key m'.key → m = m') ∧
    ∀ m ∈ b.models, (∀ m' ∈ b.models, Collide settings m'.key m.key → m' = m) →
      b.model? m.name = some m := by
  obtain ⟨reg, converted⟩ := convert_converted run
  have keys := converted.keys_distinct
  have named := fun m (member : m ∈ b.models) => converted.name_eq member
  have collide : ∀ m ∈ b.models, ∀ m' ∈ b.models,
      m.name = m'.name ↔ Collide settings m.key m'.key := by
    intro m member m' member'
    rw [named m member, named m' member']
    exact Collide.iff_name
  refine ⟨keys, named, collide, ⟨?_, ?_⟩, ?_⟩
  · intro distinct m member m' member' hit
    exact List.inj_on_of_nodup_map distinct member member' ((collide m member m' member').mpr hit)
  · intro apart
    apply (List.nodup_map_iff_inj_on (List.Nodup.of_map _ keys)).mpr
    intro m member m' member' same
    exact apart m member m' member' ((collide m member m' member').mp same)
  · intro m member apart
    apply Blueprint.model?_of_unique member
    intro m' member' same
    exact apart m' member' ((collide m' member' m member).mp same)

/-- Two schemas whose keys differ in nothing but the separator and the case of first letters. -/
def profileSchemas : Table Value :=
  ⟨[("user_profile", .map [(.text "type", .text "object")]),
    ("UserProfile", .map [(.text "type", .text "object")])], by decide⟩

theorem convert_profileSchemas :
    ∃ b k, (convert .defaults (documentOf profileSchemas)).run [] = (.ok b, k) ∧
      k.findings = [] ∧ b.models.map (fun m => (m.key, m.name)) =
        [("user_profile", "UserProfile"), ("UserProfile", "UserProfile")] := by
  have evaluated : ((convert .defaults (documentOf profileSchemas)).run []).1.map
        (fun b => b.models.map fun m => (m.key, m.name)) =
          .ok [("user_profile", "UserProfile"), ("UserProfile", "UserProfile")] ∧
      ((convert .defaults (documentOf profileSchemas)).run []).2.findings = [] := by
    decide +kernel
  obtain ⟨b, made, models⟩ := attempt_map_ok evaluated.1
  exact ⟨b, _, Prod.ext made rfl, evaluated.2, models⟩

theorem names_collide_profileSchemas :
    ∃ b k, (convert .defaults (documentOf profileSchemas)).run [] = (.ok b, k) ∧
      (b.models.map Model.key).Nodup ∧
      ∃ m ∈ b.models, ∃ m' ∈ b.models, m.key = "user_profile" ∧ m'.key = "UserProfile" ∧
        Collide .defaults m.key m'.key := by
  obtain ⟨b, k, run, _, models⟩ := convert_profileSchemas
  obtain ⟨distinct, _, collide, _⟩ := names_collide_with_keys run
  have stored : ∀ e ∈ [("user_profile", "UserProfile"), ("UserProfile", "UserProfile")],
      ∃ m ∈ b.models, (m.key, m.name) = e := by
    intro e he
    apply List.mem_map.mp
    rwa [models]
  obtain ⟨m, member, same⟩ := stored ("user_profile", "UserProfile") (by decide)
  obtain ⟨m', member', same'⟩ := stored ("UserProfile", "UserProfile") (by decide)
  obtain ⟨key, name⟩ := Prod.mk.inj same
  obtain ⟨key', name'⟩ := Prod.mk.inj same'
  have hit := (collide m member m' member').mp (name.trans name'.symm)
  exact ⟨b, k, run, distinct, m, member, m', member', key, key', hit⟩

/-- Two models have one name, no finding tells of it, and one of them is not found by its name. -/
theorem names_repeat :
    ∃ b k, (convert .defaults (documentOf profileSchemas)).run [] = (.ok b, k) ∧
      k.findings = [] ∧ ¬ (b.models.map Model.name).Nodup ∧
      ∃ m ∈ b.models, b.model? m.name ≠ some m := by
  obtain ⟨b, k, run, silent, models⟩ := convert_profileSchemas
  have names : b.models.map Model.name = ["UserProfile", "UserProfile"] := by
    have seconds := congrArg (List.map Prod.snd) models
    rwa [List.map_map] at seconds
  have keys : b.models.map Model.key = ["user_profile", "UserProfile"] := by
    have firsts := congrArg (List.map Prod.fst) models
    rwa [List.map_map] at firsts
  refine ⟨b, k, run, silent, ?_, ?_⟩
  · rw [names]
    decide
  · by_contra found
    have all : ∀ m ∈ b.models, b.model? m.name = some m := by
      intro m member
      by_contra missed
      exact found ⟨m, member, missed⟩
    have one : ∀ m ∈ b.models, m.name = "UserProfile" := by
      intro m member
      have listed : m.name ∈ b.models.map Model.name := List.mem_map_of_mem member
      rw [names] at listed
      simpa using listed
    obtain ⟨m, member, key⟩ : ∃ m ∈ b.models, m.key = "user_profile" := by
      apply List.mem_map.mp
      rw [keys]
      decide
    obtain ⟨m', member', key'⟩ : ∃ m ∈ b.models, m.key = "UserProfile" := by
      apply List.mem_map.mp
      rw [keys]
      decide
    have first := all m member
    have second := all m' member'
    rw [one m member] at first
    rw [one m' member', first] at second
    rw [Option.some.inj second, key'] at key
    revert key
    decide

end SdkBlueprint
