import SdkBlueprint.Proofs.Document.YamlScalars
import SdkBlueprint.Proofs.Journal

/-! Values of YAML nodes that cannot be made. Whatever is no fault of the YAML text is that of a
scalar which does not fit the tag in front of it. -/
namespace SdkBlueprint.Document.Yaml

/-- The first node stands in the second one at some depth, or is that node. -/
inductive Inside : Node → Node → Prop
  | self (n : Node) : Inside n n
  | item {part n : Node} {tag : Tag} {items : List Node} (member : n ∈ items)
      (rest : Inside part n) : Inside part (.sequence tag items)
  | key {part : Node} {e : Node × Node} {tag : Tag} {entries : List (Node × Node)}
      (member : e ∈ entries) (rest : Inside part e.1) : Inside part (.mapping tag entries)
  | value {part : Node} {e : Node × Node} {tag : Tag} {entries : List (Node × Node)}
      (member : e ∈ entries) (rest : Inside part e.2) : Inside part (.mapping tag entries)

theorem Inside.trans {a b c : Node} (first : Inside a b) (rest : Inside b c) : Inside a c := by
  induction rest with
  | self => exact first
  | item member _ ih => exact .item member ih
  | key member _ ih => exact .key member ih
  | value member _ ih => exact .value member ih

/-- A tag in the node does not take a text that stands behind it. -/
def Misfit (node : Node) (cause : Misuse) : Prop :=
  ∃ part tag text, Inside part node ∧ Inside (.scalar tag text) part ∧ Unfit part.tag text cause

theorem Misfit.of_inside {part node : Node} {cause : Misuse} (h : Misfit part cause)
    (inside : Inside part node) : Misfit node cause := by
  obtain ⟨inner, tag, text, first, rest⟩ := h
  exact ⟨inner, tag, text, first.trans inside, rest⟩

/-- The refusal is that of a YAML text, or there is a scalar to blame. -/
def Blames (node : Node) (r : Refusal) : Prop := ∀ cause, r = .misuse cause → Misfit node cause

theorem blames_of_malformed {node : Node} {r : Refusal} (h : r.IsMalformed) : Blames node r := by
  obtain ⟨_, rfl⟩ := h
  rintro cause ⟨⟩

theorem Blames.of_inside {part node : Node} {r : Refusal} (h : Blames part r)
    (inside : Inside part node) : Blames node r :=
  fun cause same => (h cause same).of_inside inside

variable {α β : Type} {P : Refusal → Prop}

theorem atDepth_fails (depth : Nat) {r : Scan α} (h : FailsAs P r) :
    FailsAs (fun f : Found => P f.refusal) (atDepth depth r) := by
  cases r with
  | error refusal => exact .error (h refusal rfl)
  | ok a => exact .ok a

theorem both_fails {Q : Found → Prop} {a : Build α} {b : Build β} (ha : FailsAs Q a)
    (hb : FailsAs Q b) : FailsAs Q (both a b) := by
  cases a with
  | ok x =>
      cases b with
      | ok y => exact .ok (x, y)
      | error f => exact .error (hb f rfl)
  | error e =>
      cases b with
      | ok y => exact .error (ha e rfl)
      | error f =>
          refine .error ?_
          unfold Found.nearer
          split
          · exact hb f rfl
          · exact ha e rfl

theorem all_fails {Q : Found → Prop} {rs : List (Build α)} (h : ∀ r ∈ rs, FailsAs Q r) :
    FailsAs Q (all rs) := by
  induction rs with
  | nil => exact .ok []
  | cons r rest ih =>
      exact (both_fails (h r (by simp)) (ih fun s hs => h s (by simp [hs]))).map _

theorem scalarText_fails (fuel : Nat) (node : Node) :
    FailsAs Refusal.IsMalformed (scalarText fuel node) := by
  induction fuel generalizing node with
  | zero =>
      cases node with
      | scalar tag text => exact .ok text
      | _ => exact malformed_fails _
  | succ fuel ih =>
      cases node with
      | scalar tag text => exact .ok text
      | sequence tag items => exact malformed_fails _
      | mapping tag entries =>
          unfold scalarText
          split
          · exact ih _
          · exact malformed_fails _

/-- The text of a node is that of a scalar in it. -/
theorem scalarText_inside {fuel : Nat} {node : Node} {text : String}
    (h : scalarText fuel node = .ok text) : ∃ tag, Inside (.scalar tag text) node := by
  induction fuel generalizing node with
  | zero =>
      cases node with
      | scalar tag _ =>
          cases h
          exact ⟨tag, .self _⟩
      | _ => cases h
  | succ fuel ih =>
      cases node with
      | scalar tag _ =>
          cases h
          exact ⟨tag, .self _⟩
      | sequence tag items => cases h
      | mapping tag entries =>
          unfold scalarText at h
          split at h
          · next e found =>
            obtain ⟨inner, inside⟩ := ih h
            exact ⟨inner, .value (List.mem_of_find?_eq_some found) inside⟩
          · cases h

/-- Where a tag is one of scalars, there is a scalar to blame for what goes wrong. -/
theorem scalarValue?_blames {fuel : Nat} {node : Node} {r : Scan Scalar}
    (h : scalarValue? node.tag (scalarText fuel node) = some r) : FailsAs (Blames node) r := by
  intro refusal refused
  subst refused
  cases read : scalarText fuel node with
  | ok text =>
      rintro cause rfl
      rw [read] at h
      obtain ⟨tag, inside⟩ := scalarText_inside read
      exact ⟨node, tag, text, .self node, inside, scalarValue?_misuse.mp h⟩
  | error found =>
      -- Without a text there is none that could be blamed: the text is asked for first.
      rw [read] at h
      have same : refusal = found ∨ refusal.IsMalformed := by
        cases tag : node.tag <;> rw [tag] at h <;> cases h
        all_goals first
          | exact .inl rfl
          | exact .inr ⟨_, rfl⟩
      rcases same with rfl | malformed
      · exact blames_of_malformed (scalarText_fails fuel node _ read)
      · exact blames_of_malformed malformed

theorem plainKey_eq (key : Node) :
    plainKey key = key ∨ ∃ text, plainKey key = .scalar .text text := by
  unfold plainKey
  split
  · exact .inr ⟨_, rfl⟩
  · exact .inl rfl

theorem keyValue_blames (fuel : Nat) (key : Node) : FailsAs (Blames key) (keyValue fuel key) := by
  unfold keyValue
  split
  · next r read => exact scalarValue?_blames read
  · exact (malformed_fails _).mono fun _ => blames_of_malformed

theorem keyValue_plainKey_blames (fuel : Nat) (key : Node) :
    FailsAs (Blames key) (keyValue fuel (plainKey key)) := by
  rcases plainKey_eq key with same | ⟨text, same⟩ <;> rw [same]
  · exact keyValue_blames fuel key
  · cases fuel <;> exact .ok _

/-- The entry is made of nodes inside the given one, but for `=` in place of a key. -/
def EntryInside (e : Node × Node) (node : Node) : Prop :=
  (∃ key, Inside key node ∧ e.1 = plainKey key) ∧ Inside e.2 node

theorem EntryInside.of_inside {e : Node × Node} {part node : Node} (h : EntryInside e part)
    (inside : Inside part node) : EntryInside e node := by
  obtain ⟨⟨key, first, same⟩, second⟩ := h
  exact ⟨⟨key, first.trans inside, same⟩, second.trans inside⟩

theorem merge_fails (fuel : Nat) :
    (∀ entries, FailsAs Refusal.IsMalformed (mergedEntries fuel entries)) ∧
      ∀ source, FailsAs Refusal.IsMalformed (mergeSource fuel source) := by
  induction fuel with
  | zero =>
      constructor
      · intro entries
        unfold mergedEntries
        exact malformed_fails _
      · intro source
        unfold mergeSource
        exact malformed_fails _
  | succ fuel ih =>
      constructor
      · intro entries
        unfold mergedEntries
        exact (FailsAs.mapM fun e _ => ih.2 e.2).bind fun merged _ => .ok _
      · intro source
        unfold mergeSource
        cases source with
        | scalar => exact malformed_fails _
        | mapping _ entries => exact ih.1 entries
        | sequence _ items =>
            refine (FailsAs.mapM fun item _ => ?_).bind fun parts _ => .ok _
            cases item with
            | mapping _ entries => exact ih.1 entries
            | _ => exact malformed_fails _

/-- What merging brings in comes from inside the node. -/
theorem merge_inside (fuel : Nat) :
    (∀ tag entries made, mergedEntries fuel entries = .ok made →
        ∀ e ∈ made, EntryInside e (.mapping tag entries)) ∧
      ∀ source made, mergeSource fuel source = .ok made → ∀ e ∈ made, EntryInside e source := by
  induction fuel with
  | zero =>
      constructor
      · intro tag entries made h
        unfold mergedEntries at h
        cases h
      · intro source made h
        unfold mergeSource at h
        cases h
  | succ fuel ih =>
      constructor
      · intro tag entries made h e he
        unfold mergedEntries at h
        obtain ⟨merged, each, h⟩ := attempt_bind_ok h
        cases h
        rcases List.mem_append.mp he with he | he
        · obtain ⟨part, hpart, he⟩ := List.mem_flatten.mp he
          obtain ⟨source, hsource, made⟩ := forall₂_exists_left (attempt_mapM_ok each) part hpart
          have member := (List.mem_filter.mp hsource).1
          exact (ih.2 _ _ made e he).of_inside (.value member (.self _))
        · obtain ⟨own, howner, rfl⟩ := List.mem_map.mp he
          have member := (List.mem_filter.mp howner).1
          exact ⟨⟨own.1, .key member (.self _), rfl⟩, .value member (.self _)⟩
      · intro source made h e he
        unfold mergeSource at h
        cases source with
        | scalar => cases h
        | mapping tag entries => exact ih.1 tag entries made h e he
        | sequence tag items =>
            obtain ⟨parts, each, h⟩ := attempt_bind_ok h
            cases h
            obtain ⟨part, hpart, he⟩ := List.mem_flatten.mp he
            have hpart := List.mem_reverse.mp hpart
            obtain ⟨item, hitem, made⟩ := forall₂_exists_left (attempt_mapM_ok each) part hpart
            cases item with
            | mapping tag entries =>
                exact (ih.1 tag entries part made e he).of_inside (.item hitem (.self _))
            | _ => cases made

theorem mappingEntries_fails (fuel : Nat) (node : Node) :
    FailsAs Refusal.IsMalformed (mappingEntries fuel node) := by
  cases node with
  | mapping tag entries => exact (merge_fails fuel).1 entries
  | _ => exact malformed_fails _

theorem mappingEntries_inside {fuel : Nat} {node : Node} {entries : List (Node × Node)}
    (h : mappingEntries fuel node = .ok entries) : ∀ e ∈ entries, EntryInside e node := by
  cases node with
  | mapping tag own => exact (merge_inside fuel).1 tag own entries h
  | _ => cases h

theorem sequenceItems_fails (node : Node) : FailsAs Refusal.IsMalformed (sequenceItems node) := by
  cases node with
  | sequence tag items => exact .ok items
  | _ => exact malformed_fails _

theorem sequenceItems_inside {node : Node} {items : List Node} (h : sequenceItems node = .ok items) :
    ∀ item ∈ items, Inside item node := by
  cases node with
  | sequence tag own =>
      cases h
      exact fun item member => .item member (.self item)
  | _ => cases h

theorem singleEntry_fails (node : Node) : FailsAs Refusal.IsMalformed (singleEntry node) := by
  unfold singleEntry
  split
  · exact .ok _
  · exact malformed_fails _

theorem singleEntry_inside {node : Node} {e : Node × Node} (h : singleEntry node = .ok e) :
    Inside e.1 node ∧ Inside e.2 node := by
  unfold singleEntry at h
  split at h
  · cases h
    exact ⟨.key (by simp) (.self _), .value (by simp) (.self _)⟩
  · cases h

/-- What is found wrong is a fault of the YAML text, or there is a scalar to blame. -/
def BlamesAt (node : Node) (f : Found) : Prop := Blames node f.refusal

theorem malformed_blames (node : Node) (depth : Nat) {r : Scan α}
    (h : FailsAs Refusal.IsMalformed r) : FailsAs (BlamesAt node) (atDepth depth r) :=
  atDepth_fails depth (h.mono fun _ => blames_of_malformed)

theorem atDepth_ok {depth : Nat} {r : Scan α} {a : α} (h : atDepth depth r = .ok a) : r = .ok a := by
  cases r <;> cases h
  rfl

section

variable {node : Node} {valueOf : Node → Build Value}
  (parts : ∀ part, Inside part node → FailsAs (BlamesAt node) (valueOf part))

include parts

theorem entries_blame (fuel depth : Nat) {es : List (Node × Node)}
    (within : ∀ e ∈ es, EntryInside e node) :
    FailsAs (BlamesAt node)
      (all (es.map fun e => both (atDepth depth (keyValue fuel e.1)) (valueOf e.2))) := by
  refine all_fails fun r hr => ?_
  obtain ⟨e, he, rfl⟩ := List.mem_map.mp hr
  obtain ⟨⟨key, first, same⟩, second⟩ := within e he
  refine both_fails (atDepth_fails depth ?_) (parts _ second)
  rw [same]
  exact (keyValue_plainKey_blames fuel key).mono fun _ blames => blames.of_inside first

theorem pairList_blame (depth : Nat) : FailsAs (BlamesAt node) (pairList depth valueOf node) := by
  refine (malformed_blames node depth (sequenceItems_fails node)).bind fun items listed => ?_
  have within := sequenceItems_inside (atDepth_ok listed)
  refine (all_fails fun r hr => ?_).bind fun values _ => .ok _
  obtain ⟨item, hitem, rfl⟩ := List.mem_map.mp hr
  refine (malformed_blames _ depth (singleEntry_fails item)).bind fun e made => ?_
  obtain ⟨key, value⟩ := singleEntry_inside (atDepth_ok made)
  have inside := within item hitem
  exact both_fails (parts _ (key.trans inside)) (parts _ (value.trans inside))

end

/-- Whatever goes wrong with the value of a node is a fault of the YAML text, or there is a scalar
in the node to blame. The induction is on the fuel and so goes from a node to its parts. -/
theorem valueAt_blames (fuel depth : Nat) (node : Node) :
    FailsAs (BlamesAt node) (valueAt fuel depth node) := by
  induction fuel generalizing depth node with
  | zero => exact .error (blames_of_malformed ⟨_, rfl⟩)
  | succ fuel ih =>
      have parts : ∀ part, Inside part node →
          FailsAs (BlamesAt node) (valueAt fuel (depth + 1) part) :=
        fun part inside => (ih _ part).mono fun _ blames => Blames.of_inside blames inside
      have items := malformed_blames node (depth + 1) (sequenceItems_fails node)
      have entries := malformed_blames node (depth + 1) (mappingEntries_fails fuel node)
      unfold valueAt
      simp only []
      split
      · next r _ read => exact (atDepth_fails depth (scalarValue?_blames read)).map _
      · refine items.bind fun own made => ?_
        refine (all_fails fun r hr => ?_).bind fun values _ => .ok _
        obtain ⟨item, hitem, rfl⟩ := List.mem_map.mp hr
        exact parts item (sequenceItems_inside (atDepth_ok made) item hitem)
      · exact pairList_blame parts (depth + 1)
      · exact pairList_blame parts (depth + 1)
      · refine entries.bind fun own made => ?_
        have within := mappingEntries_inside (atDepth_ok made)
        exact (entries_blame parts fuel (depth + 1) within).bind fun values _ => .ok _
      · refine entries.bind fun own made => ?_
        have within := mappingEntries_inside (atDepth_ok made)
        exact (entries_blame parts fuel (depth + 1) within).bind fun values _ => .ok _

theorem value_blames (node : Node) : FailsAs (Blames node) node.value := by
  unfold Node.value
  cases read : valueAt (2 * node.depth + 2) 0 node with
  | ok v => exact .ok v
  | error found => exact .error (valueAt_blames _ _ node found read)

end SdkBlueprint.Document.Yaml
