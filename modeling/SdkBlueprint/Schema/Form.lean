import SdkBlueprint.Schema.Shape

/-! Forms of schema nodes: the one rule that decides the type of a node, with the
nodes that the rule goes on to. The rules apply in this order: reference, `allOf`,
`oneOf`, declared type. -/
namespace SdkBlueprint.Schema
open SdkBlueprint.Document

inductive Form where
  /-- No rule applies. -/
  | anything
  | reference (ref : Value)
  /-- The node has the type of another one. -/
  | delegate (node : Value)
  /-- The references among the members of a composition, at least one. -/
  | references (refs : List Value)
  | union (members : List Value)
  | array (items : Option Value)
  | dictionary (values : Option Value)
  | string
  | number
  | boolean

def Form.children : Form → List Value
  | .delegate node => [node]
  | .union members => members
  | .array items => items.toList
  | .dictionary values => values.toList
  | _ => []

/-- Form of a node with the given `allOf`: its only member, else its references,
else its first member with a type. Of a mapping with one entry the key zero is
taken for the only member. -/
def allOfForm : Value → Attempt Form
  | .list [member] => .ok (.delegate member)
  | .list members =>
    match members.filterMap ref? with
    | [] =>
      match members.find? fun m => m.hasField "type" with
      | some member => .ok (.delegate member)
      | none => .ok .anything
    | refs => .ok (.references refs)
  | .map [(key, value)] => if key.same (.int 0) then .ok (.delegate value) else misuse .missingKey
  | .map _ => .ok .anything
  | .set [_] => misuse .wrongKind
  | .set _ => .ok .anything
  | .scalar (.text _) => .ok .anything
  | .scalar (.bytes _) => .ok .anything
  | .scalar _ => misuse .wrongKind

/-- Form of a node with the given `oneOf`. Keys and characters are no nodes, so
they count as members without a type. -/
def oneOfForm : Value → Attempt Form
  | .list members => .ok (.union members)
  | other => (iterate other).map fun items => .union (items.map fun _ => .null)

def arrayForm (node : Value) : Form :=
  match node.field? "items" with
  | some items => .array (if items.truthy then some items else none)
  | none => .array none

def objectForm (node : Value) : Form :=
  match node.field? "additionalProperties" with
  | some (.map entries) => .dictionary (some (.map entries))
  | some (.scalar (.bool true)) => .dictionary none
  | _ => .anything

def declaredForm (node : Value) : Attempt Form :=
  match declaredType node with
  | .scalar (.text "array") => .ok (arrayForm node)
  | .scalar (.text "object") => .ok (objectForm node)
  | .scalar (.text "string") => .ok .string
  | .scalar (.text "number") => .ok .number
  | .scalar (.text "integer") => .ok .number
  | .scalar (.text "boolean") => .ok .boolean
  | .scalar _ => .ok .anything
  | .set _ => .ok .anything
  | _ => misuse .wrongKind

def truthyField? (node : Value) (name : String) : Option Value :=
  (node.field? name).filter Value.truthy

def formOf (node : Value) : Attempt Form :=
  match ref? node, truthyField? node "allOf", truthyField? node "oneOf" with
  | some ref, _, _ => .ok (.reference ref)
  | none, some allOf, _ => allOfForm allOf
  | none, none, some oneOf => oneOfForm oneOf
  | none, none, none => declaredForm node

theorem two_le_sizeOf (v : Value) : 2 ≤ sizeOf v := by
  cases v with
  | scalar s => cases s <;> simp <;> omega
  | list items =>
    cases items <;> simp
    omega
  | map entries =>
    cases entries <;> simp
    omega
  | set members =>
    cases members <;> simp
    omega

theorem sizeOf_lt_of_truthyField? {node v : Value} {name : String}
    (h : truthyField? node name = some v) : sizeOf v < sizeOf node := by
  obtain ⟨hv, _⟩ := Option.filter_eq_some_iff.1 h
  exact Value.sizeOf_lt_of_field? hv

theorem sizeOf_lt_of_mem_list {items : List Value} {v : Value} (h : v ∈ items) :
    sizeOf v < sizeOf (Value.list items) := by
  have := List.sizeOf_lt_of_mem h
  simp; omega

theorem allOfForm_children {allOf : Value} {form : Form} (h : allOfForm allOf = .ok form) :
    ∀ c ∈ form.children, sizeOf c < sizeOf allOf := by
  unfold allOfForm at h
  split at h
  · cases h; simp [Form.children]; omega
  · next members _ =>
    split at h
    · split at h
      · next m hm =>
        cases h
        have := sizeOf_lt_of_mem_list (List.mem_of_find?_eq_some hm)
        simpa [Form.children] using this
      · cases h; simp [Form.children]
    · cases h; simp [Form.children]
  · split at h
    · cases h; simp [Form.children]; omega
    · cases h
  all_goals cases h
  all_goals simp [Form.children]

theorem oneOfForm_children {oneOf : Value} {form : Form} (h : oneOfForm oneOf = .ok form) :
    ∀ c ∈ form.children, sizeOf c ≤ sizeOf oneOf := by
  unfold oneOfForm at h
  split at h
  · cases h
    intro c hc
    exact Nat.le_of_lt (sizeOf_lt_of_mem_list hc)
  · cases hi : iterate oneOf with
    | error e => simp [hi, Except.map] at h
    | ok items =>
      simp only [hi, Except.map, Except.ok.injEq] at h
      subst h
      intro c hc
      obtain ⟨_, _, rfl⟩ := List.mem_map.1 hc
      exact two_le_sizeOf oneOf

theorem declaredForm_children {node : Value} {form : Form} (h : declaredForm node = .ok form) :
    ∀ c ∈ form.children, sizeOf c < sizeOf node := by
  unfold declaredForm at h
  split at h
  · cases h
    unfold arrayForm
    split
    · next items hi =>
      intro c hc
      have := Value.sizeOf_lt_of_field? hi
      by_cases ht : items.truthy <;> simp_all [Form.children]
    · simp [Form.children]
  · cases h
    unfold objectForm
    split
    · next hi =>
      have := Value.sizeOf_lt_of_field? hi
      simpa [Form.children] using this
    · simp [Form.children]
    · simp [Form.children]
  all_goals cases h
  all_goals simp [Form.children]

/-- A form leads on to smaller nodes only. -/
theorem formOf_children {node : Value} {form : Form} (h : formOf node = .ok form) :
    ∀ c ∈ form.children, sizeOf c < sizeOf node := by
  unfold formOf at h
  split at h
  · cases h; simp [Form.children]
  · next hf =>
    intro c hc
    exact Nat.lt_trans (allOfForm_children h c hc) (sizeOf_lt_of_truthyField? hf)
  · next hf =>
    intro c hc
    exact Nat.lt_of_le_of_lt (oneOfForm_children h c hc) (sizeOf_lt_of_truthyField? hf)
  · exact declaredForm_children h

end SdkBlueprint.Schema
