import SdkBlueprint.Document.Value
import SdkBlueprint.Document.Yaml.Base64
import SdkBlueprint.Document.Yaml.Node
import SdkBlueprint.Document.Yaml.Numeral
import SdkBlueprint.Text.Letters

/-! Values of YAML nodes. A scalar is read as its tag says. The key `<<` merges
other mappings into its own, in front of what is declared there. Of several faults
the one nearest to the root is reported, and the first of those at one depth. -/
namespace SdkBlueprint.Document.Yaml

/-- A fault with the depth of the collection in which it is found. -/
structure Found where
  depth : Nat
  refusal : Refusal

abbrev Build (α : Type) := Except Found α

def Found.nearer (a b : Found) : Found := if b.depth < a.depth then b else a

def atDepth {α : Type} (depth : Nat) (r : Scan α) : Build α :=
  r.mapError fun refusal => ⟨depth, refusal⟩

def both {α β : Type} (a : Build α) (b : Build β) : Build (α × β) :=
  match a, b with
  | .ok x, .ok y => .ok (x, y)
  | .error e, .ok _ => .error e
  | .ok _, .error f => .error f
  | .error e, .error f => .error (e.nearer f)

def all {α : Type} : List (Build α) → Build (List α)
  | [] => .ok []
  | r :: rest => (both r (all rest)).map fun p => p.1 :: p.2

/-- Text of a scalar. A mapping has one under the key `=`. -/
def scalarText : Nat → Node → Scan String
  | _, .scalar _ text => .ok text
  | 0, _ => malformed "expected a scalar"
  | fuel + 1, .mapping _ entries =>
    match entries.find? fun e => e.1.tag == .value with
    | some e => scalarText fuel e.2
    | none => malformed "expected a scalar"
  | _, .sequence _ _ => malformed "expected a scalar"

def boolValue (text : String) : Scan Scalar :=
  let word := Text.lower text
  if trueWords.contains word then .ok (.bool true)
  else if falseWords.contains word then .ok (.bool false)
  else .error (.misuse .missingKey)

/-- The scalar that a tag makes of a text; none for a tag of collections. -/
def scalarValue? (tag : Tag) (text : Scan String) : Option (Scan Scalar) :=
  match tag with
  | .null => some (text.map fun _ => .null)
  | .bool => some (text.bind boolValue)
  | .int => some (text.bind intValue)
  | .float => some (text.bind floatValue)
  | .binary => some (text.bind fun s => (base64 s).map .bytes)
  | .timestamp => some (text.bind timestamp)
  | .text => some (text.map .text)
  | .merge => some (malformed "no value for this tag")
  | .value => some (malformed "no value for this tag")
  | .unknown => some (malformed "no value for this tag")
  | _ => none

def plainKey (key : Node) : Node :=
  match key with
  | .scalar .value text => .scalar .text text
  | key => key

mutual

/-- Entries of a mapping with the merged ones in front. -/
def mergedEntries (fuel : Nat) (entries : List (Node × Node)) :
    Scan (List (Node × Node)) := do
  match fuel with
  | 0 => malformed "merged too deep"
  | fuel + 1 =>
    let merged ← (entries.filter fun e => e.1.tag == .merge).mapM fun e => mergeSource fuel e.2
    let own := entries.filter fun e => e.1.tag != .merge
    return merged.flatten ++ own.map fun e => (plainKey e.1, e.2)

/-- The entries that a merge key brings in. Of several mappings the first one
counts, so that it comes last. -/
def mergeSource (fuel : Nat) (source : Node) : Scan (List (Node × Node)) := do
  match fuel with
  | 0 => malformed "merged too deep"
  | fuel + 1 =>
    match source with
    | .mapping _ entries => mergedEntries fuel entries
    | .sequence _ items =>
      let parts ← items.mapM fun item =>
        match item with
        | .mapping _ entries => mergedEntries fuel entries
        | _ => malformed "expected a mapping to merge"
      return parts.reverse.flatten
    | _ => malformed "expected mappings to merge"

end

mutual

def Node.depth : Node → Nat
  | .scalar _ _ => 1
  | .sequence _ items => itemsDepth items + 1
  | .mapping _ entries => entriesDepth entries + 1

def itemsDepth : List Node → Nat
  | [] => 0
  | n :: rest => max n.depth (itemsDepth rest)

def entriesDepth : List (Node × Node) → Nat
  | [] => 0
  | (k, v) :: rest => max (max k.depth v.depth) (entriesDepth rest)

end

def keyValue (fuel : Nat) (key : Node) : Scan Scalar :=
  match scalarValue? key.tag (scalarText fuel key) with
  | some r => r
  | none => malformed "a collection as key"

def sequenceItems : Node → Scan (List Node)
  | .sequence _ items => .ok items
  | _ => malformed "expected a sequence"

def mappingEntries (fuel : Nat) : Node → Scan (List (Node × Node))
  | .mapping _ entries => mergedEntries fuel entries
  | _ => malformed "expected a mapping"

def singleEntry : Node → Scan (Node × Node)
  | .mapping _ [entry] => .ok entry
  | _ => malformed "expected a mapping of one entry"

/-- The pairs of a sequence of mappings with one entry each. -/
def pairList (depth : Nat) (value : Node → Build Value) (node : Node) : Build Value := do
  let items ← atDepth depth (sequenceItems node)
  let pairs := items.map fun item =>
    (atDepth depth (singleEntry item)).bind fun e => both (value e.1) (value e.2)
  return .list ((← all pairs).map fun p => .list [p.1, p.2])

/-- Value of a node at a depth. The content of a collection counts as one deeper
than the collection itself. The fuel exceeds the depth of the node twice. -/
def valueAt (fuel depth : Nat) (node : Node) : Build Value :=
  match fuel with
  | 0 => .error ⟨depth, .malformed "nested too deep"⟩
  | fuel + 1 =>
    let inner := depth + 1
    let entryPairs (entries : List (Node × Node)) : Build (List (Scalar × Value)) :=
      all (entries.map fun e => both (atDepth inner (keyValue fuel e.1)) (valueAt fuel inner e.2))
    match scalarValue? node.tag (scalarText fuel node), node.tag with
    | some r, _ => (atDepth depth r).map .scalar
    | none, .sequence => do
      let items ← atDepth inner (sequenceItems node)
      return .list (← all (items.map (valueAt fuel inner)))
    | none, .orderedMap => pairList inner (valueAt fuel inner) node
    | none, .pairs => pairList inner (valueAt fuel inner) node
    | none, .set => do
      let entries ← atDepth inner (mappingEntries fuel node)
      let pairs ← entryPairs entries
      return .set (pairs.foldl (fun acc p => Value.addMember p.1 acc) [])
    | none, _ => do
      let entries ← atDepth inner (mappingEntries fuel node)
      return .map (Value.mapOf (← entryPairs entries))

def Node.value (node : Node) : Scan Value :=
  (valueAt (2 * node.depth + 2) 0 node).mapError Found.refusal

/-- Value of the only document of a text. -/
def read (text : String) : Scan Value := do
  (← node text).value

end SdkBlueprint.Document.Yaml
