import SdkBlueprint.Proofs.Schema.Renaming
import SdkBlueprint.Registry.Basic

/-! Pointers with escaped keys. Escaping takes slashes and tildes out of a key, one after the other,
and reading a pointer puts them back in the opposite order; so a pointer that ends with an escaped
key leads to that key and to no other. -/
namespace SdkBlueprint.Schema
open SdkBlueprint.Document

/-- The text with the replacement in the place of each such character. -/
def substitute (c : Char) (replacement : List Char) (cs : List Char) : List Char :=
  cs.flatMap fun d => if d = c then replacement else [d]

/-- The last segment of a pointer to a key. -/
def escapedKey (key : String) : String := String.ofList (escapePointer key.toList)

section Steps

variable {c d r : Char} {replacement : List Char}

theorem substitute_hit (cs : List Char) :
    substitute c replacement (c :: cs) = replacement ++ substitute c replacement cs := by
  rw [substitute, List.flatMap_cons, if_pos rfl]
  rfl

theorem substitute_miss (other : d ≠ c) (cs : List Char) :
    substitute c replacement (d :: cs) = d :: substitute c replacement cs := by
  rw [substitute, List.flatMap_cons, if_neg other]
  rfl

theorem unescapeTilde_hit (cs : List Char) :
    unescapeTilde d r ('~' :: d :: cs) = r :: unescapeTilde d r cs := by
  rw [unescapeTilde, if_pos rfl]

theorem unescapeTilde_skip (other : c ≠ d) (cs : List Char) :
    unescapeTilde d r ('~' :: c :: cs) = '~' :: unescapeTilde d r (c :: cs) := by
  rw [unescapeTilde, if_neg other]

theorem unescapeTilde_miss (other : c ≠ '~') (cs : List Char) :
    unescapeTilde d r (c :: cs) = c :: unescapeTilde d r cs := by
  rw [unescapeTilde]
  rintro _ _ rfl
  exact absurd rfl other

end Steps

/-- Escaping in one pass is replacing the tildes first and then the slashes. -/
theorem escapePointer_eq (key : List Char) :
    escapePointer key = substitute '/' ['~', '1'] (substitute '~' ['~', '0'] key) := by
  induction key with
  | nil => rfl
  | cons c key ih =>
      rw [escapePointer, ih]
      by_cases tilde : c = '~'
      · subst tilde
        rw [if_pos rfl, substitute_hit]
        rfl
      · rw [if_neg tilde, substitute_miss tilde]
        by_cases slash : c = '/'
        · subst slash
          rw [if_pos rfl, substitute_hit]
        · rw [if_neg slash, substitute_miss slash]
          rfl

/-- No slash is left, so that the escaped key is one segment. -/
theorem slash_not_mem_escapePointer (key : List Char) : '/' ∉ escapePointer key := by
  induction key with
  | nil => exact List.not_mem_nil
  | cons c key ih =>
      rw [escapePointer, List.mem_append, not_or]
      refine ⟨?_, ih⟩
      split
      · decide
      · split
        · decide
        · next slash => simpa using Ne.symm slash

/-- The first reading takes the slashes back: a tilde of an escaped key is always followed by its
own digit, which is not the one of slashes. -/
theorem unescape_slashes (key : List Char) :
    unescapeTilde '1' '/' (escapePointer key) = substitute '~' ['~', '0'] key := by
  induction key with
  | nil => rfl
  | cons c key ih =>
      rw [escapePointer]
      by_cases tilde : c = '~'
      · subst tilde
        rw [if_pos rfl, List.cons_append, List.singleton_append, unescapeTilde_skip (by decide),
          unescapeTilde_miss (by decide), ih, substitute_hit]
        rfl
      · rw [if_neg tilde, substitute_miss tilde]
        by_cases slash : c = '/'
        · subst slash
          rw [if_pos rfl, List.cons_append, List.singleton_append, unescapeTilde_hit, ih]
        · rw [if_neg slash, List.singleton_append, unescapeTilde_miss tilde, ih]

/-- The second reading takes the tildes back. -/
theorem unescape_tildes (key : List Char) :
    unescapeTilde '0' '~' (substitute '~' ['~', '0'] key) = key := by
  induction key with
  | nil => rfl
  | cons c key ih =>
      by_cases tilde : c = '~'
      · subst tilde
        rw [substitute_hit, List.cons_append, List.singleton_append, unescapeTilde_hit, ih]
      · rw [substitute_miss tilde, unescapeTilde_miss tilde, ih]

theorem unescapePointer_escapePointer (key : List Char) :
    unescapePointer (escapePointer key) = key := by
  rw [unescapePointer, unescape_slashes, unescape_tildes]

theorem lastSegment_append {segment : List Char} (whole : '/' ∉ segment) (path : List Char) :
    lastSegment (path ++ '/' :: segment) = segment := by
  have before : ∀ c ∈ segment.reverse, (c != '/') = true := by
    intro c member
    rw [bne_iff_ne]
    exact fun slash => whole (slash ▸ List.mem_reverse.mp member)
  rw [lastSegment, List.reverse_append, List.reverse_cons, List.append_assoc,
    List.takeWhile_append_of_pos before, List.singleton_append, List.takeWhile_cons_of_neg (by simp),
    List.append_nil, List.reverse_reverse]

/-- A pointer to a key below a path. -/
def pointerTo (path key : String) : String := path ++ "/" ++ escapedKey key

theorem pointerTo_toList (path key : String) :
    (pointerTo path key).toList = path.toList ++ '/' :: escapePointer key.toList := by
  simp [pointerTo, escapedKey]

theorem pointerKey_pointerTo (path key : String) : pointerKey (pointerTo path key) = key := by
  rw [pointerKey, pointerKeyChars, pointerTo_toList,
    lastSegment_append (slash_not_mem_escapePointer _), unescapePointer_escapePointer,
    String.ofList_toList]

/-- The slashes must be taken back before the tildes. -/
example : unescapeTilde '1' '/' (unescapeTilde '0' '~' (escapePointer ['~', '1'])) = ['/'] := by
  decide

/-- A node that refers to a key, with whatever stands beside the reference. -/
def referenceTo (path key : String) (beside : List (Scalar × Value)) : Value :=
  .map ((.text "$ref", .text (pointerTo path key)) :: beside)

theorem targetKey_pointerTo (path key : String) :
    targetKey (.text (pointerTo path key)) = .ok key :=
  congrArg Except.ok (pointerKey_pointerTo path key)

theorem resolve_referenceTo (nameOf : String → String) (path key : String)
    (beside : List (Scalar × Value)) :
    resolve nameOf (referenceTo path key beside) = .ok (.reference (nameOf key)) := by
  have form : formOf (referenceTo path key beside) = .ok (.reference (.text (pointerTo path key))) :=
    rfl
  rw [resolve_eq, form]
  change referenceType nameOf (.text (pointerTo path key)) = _
  rw [referenceType, targetKey_pointerTo]
  rfl

/-- A key is escaped by replacing tildes and then slashes, and reading a pointer undoes it. So a
pointer to a key leads to that key, whatever path comes before it, and two of them lead to one key
only if they were made for one key; and the name and the type of what it refers to are those of the
key. -/
theorem escaped_pointers_exact :
    (∀ key, escapePointer key = substitute '/' ['~', '1'] (substitute '~' ['~', '0'] key)) ∧
    (∀ path key, pointerKey (path ++ "/" ++ escapedKey key) = key) ∧
    (∀ path path' key key',
      pointerKey (pointerTo path key) = pointerKey (pointerTo path' key') ↔ key = key') ∧
    ∀ (reg : Registry) path key beside,
      reg.nameOfReference (.text (pointerTo path key)) = .ok (reg.nameOf key) ∧
      resolve reg.nameOf (referenceTo path key beside) = .ok (.reference (reg.nameOf key)) := by
  refine ⟨escapePointer_eq, pointerKey_pointerTo, fun path path' key key' => ?_,
    fun reg path key beside => ⟨?_, resolve_referenceTo reg.nameOf path key beside⟩⟩
  · rw [pointerKey_pointerTo, pointerKey_pointerTo]
  · rw [Registry.nameOfReference, targetKey_pointerTo]
    rfl

end SdkBlueprint.Schema
