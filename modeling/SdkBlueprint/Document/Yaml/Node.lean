import SdkBlueprint.Document.Yaml.Lexer
import SdkBlueprint.Document.Yaml.Tag

/-! Nodes of a YAML document: tagged scalars, sequences and mappings. An alias is
replaced by the node of its anchor. -/
namespace SdkBlueprint.Document.Yaml

inductive Node where
  | scalar (tag : Tag) (text : String)
  | sequence (tag : Tag) (items : List Node)
  | mapping (tag : Tag) (entries : List (Node × Node))

namespace Node

def tag : Node → Tag
  | .scalar tag _ => tag
  | .sequence tag _ => tag
  | .mapping tag _ => tag

/-- What is left out counts as an empty plain scalar. -/
def empty : Node := .scalar .null ""

end Node

/-- What is left of the tokens, with the anchors and tag handles seen so far. An
anchor has no node as long as its collection is open. -/
structure Reading where
  tokens : List Token
  refusal : Option Refusal
  anchors : List (String × Option Node)
  handles : List (String × String)

abbrev Read (α : Type) := StateT Reading (Except Refusal) α

namespace Read

def fail {α : Type} (reason : String) : Read α := throw (.malformed reason)

def peek : Read (Option Token) := do
  let r ← get
  match r.tokens, r.refusal with
  | t :: _, _ => return some t
  | [], none => return none
  | [], some refusal => throw refusal

def drop : Read Unit := modify fun r => { r with tokens := r.tokens.drop 1 }

def take? (t : Token) : Read Bool := do
  if (← peek) == some t then
    drop
    return true
  else return false

def expect (t : Token) (reason : String) : Read Unit := do
  if !(← take? t) then fail reason

def sees (ts : List Token) : Read Bool := do
  return (← peek).any ts.contains

end Read

def defaultHandles : List (String × String) := [("!", "!"), ("!!", tagHome)]

/-- Handle and target of the directives of a document. -/
def directiveHandles (versioned : Bool) (handles : List (String × String)) :
    List Token → Scan (List (String × String) × List Token)
  | .directive (.version major) :: rest =>
    if versioned then malformed "repeated version directive"
    else if major != 1 then malformed "unknown version"
    else directiveHandles true handles rest
  | .directive (.handle name target) :: rest =>
    if (handles.lookup name).isSome then malformed "repeated tag handle"
    else directiveHandles versioned (handles ++ [(name, target)]) rest
  | .directive .other :: rest => directiveHandles versioned handles rest
  | rest => .ok (handles, rest)

def tagName (tag : WrittenTag) : Read String := do
  match tag.handle with
  | none => return tag.rest
  | some handle =>
    match (← get).handles.lookup handle with
    | some target => return target ++ tag.rest
    | none => Read.fail "undefined tag handle"

structure Properties where
  anchor : Option String
  tag : Option String

def takeAnchor : Read (Option String) := do
  match ← Read.peek with
  | some (.anchor name) =>
    Read.drop
    return some name
  | _ => return none

def takeTag : Read (Option String) := do
  match ← Read.peek with
  | some (.tag tag) =>
    Read.drop
    return some (← tagName tag)
  | _ => return none

/-- Anchor and tag come in either order. -/
def takeProperties : Read Properties := do
  match ← takeAnchor with
  | some anchor => return ⟨some anchor, ← takeTag⟩
  | none =>
    match ← takeTag with
    | some tag => return ⟨← takeAnchor, some tag⟩
    | none => return ⟨none, none⟩

def openAnchor (anchor : Option String) : Read Unit := do
  match anchor with
  | none => return
  | some name =>
    if ((← get).anchors.lookup name).isSome then Read.fail "repeated anchor"
    modify fun r => { r with anchors := (name, none) :: r.anchors }

def closeAnchor (anchor : Option String) (node : Node) : Read Node := do
  match anchor with
  | none => return node
  | some name =>
    modify fun r => { r with anchors := (name, some node) :: r.anchors }
    return node

def aliased (name : String) : Read Node := do
  match (← get).anchors.lookup name with
  | some (some node) => return node
  | some none => Read.fail "a node that contains itself"
  | none => Read.fail "undefined alias"

/-- Tag of a scalar. Without one, and also with a lone exclamation mark, a plain
one is typed by its text. -/
def scalarTag (tag : Option String) (plain : Bool) (text : String) : Tag :=
  match tag with
  | none => if plain then .ofPlain text else .text
  | some "!" => .ofPlain text
  | some name => .ofName name

def collectionTag (default : Tag) : Option String → Tag
  | none => default
  | some "!" => default
  | some name => .ofName name

/-- Where a node stands; this decides which collections may begin. -/
inductive Place where
  | flow
  | block
  /-- A block mapping holds the node, which may be a sequence without indentation. -/
  | entry
  deriving DecidableEq

mutual

/-- A node. Every call takes a token or leads on to one that does, so that some
multiple of the number of tokens bounds their depth. -/
def readNode (fuel : Nat) (place : Place) : Read Node := do
  match fuel with
  | 0 => Read.fail "expected a node"
  | fuel + 1 =>
    match ← Read.peek with
    | some (.alias name) =>
      Read.drop
      aliased name
    | _ =>
      let ps ← takeProperties
      openAnchor ps.anchor
      closeAnchor ps.anchor (← readContent fuel place ps)

def readContent (fuel : Nat) (place : Place) (ps : Properties) : Read Node := do
  match fuel with
  | 0 => Read.fail "expected a node"
  | fuel + 1 =>
    match ← Read.peek with
    | some .blockEntry =>
      if place == .entry then
        return .sequence (collectionTag .sequence ps.tag) (← readUnindented fuel)
      else missing ps
    | some (.scalar text plain) =>
      Read.drop
      return .scalar (scalarTag ps.tag plain text) text
    | some .flowSequenceStart =>
      Read.drop
      return .sequence (collectionTag .sequence ps.tag) (← readFlowItems fuel true)
    | some .flowMappingStart =>
      Read.drop
      return .mapping (collectionTag .mapping ps.tag) (← readFlowEntries fuel true)
    | some .blockSequenceStart =>
      if place == .flow then missing ps
      else
        Read.drop
        return .sequence (collectionTag .sequence ps.tag) (← readItems fuel)
    | some .blockMappingStart =>
      if place == .flow then missing ps
      else
        Read.drop
        return .mapping (collectionTag .mapping ps.tag) (← readEntries fuel)
    | _ => missing ps

def missing (ps : Properties) : Read Node := do
  if ps.anchor.isSome || ps.tag.isSome then return .scalar (scalarTag ps.tag true "") ""
  else Read.fail "expected a node"

/-- A node, or the empty one if one of the given tokens comes next. -/
def readUnless (fuel : Nat) (ends : List Token) (place : Place) : Read Node := do
  match fuel with
  | 0 => Read.fail "expected a node"
  | fuel + 1 => if ← Read.sees ends then return Node.empty else readNode fuel place

def readItems (fuel : Nat) : Read (List Node) := do
  match fuel with
  | 0 => Read.fail "expected an item"
  | fuel + 1 =>
    if ← Read.take? .blockEntry then
      let item ← readUnless fuel [.blockEntry, .blockEnd] .block
      return item :: (← readItems fuel)
    else
      Read.expect .blockEnd "expected the end of a sequence"
      return []

/-- Items of a sequence that has the indentation of the mapping around it. -/
def readUnindented (fuel : Nat) : Read (List Node) := do
  match fuel with
  | 0 => Read.fail "expected an item"
  | fuel + 1 =>
    if ← Read.take? .blockEntry then
      let item ← readUnless fuel [.blockEntry, .key, .value, .blockEnd] .block
      return item :: (← readUnindented fuel)
    else return []

def readEntryValue (fuel : Nat) (ends : List Token) (place : Place) : Read Node := do
  match fuel with
  | 0 => Read.fail "expected a value"
  | fuel + 1 =>
    if ← Read.take? .value then readUnless fuel ends place else return Node.empty

def readEntries (fuel : Nat) : Read (List (Node × Node)) := do
  match fuel with
  | 0 => Read.fail "expected an entry"
  | fuel + 1 =>
    if ← Read.take? .key then
      let key ← readUnless fuel [.key, .value, .blockEnd] .entry
      let value ← readEntryValue fuel [.key, .value, .blockEnd] .entry
      return (key, value) :: (← readEntries fuel)
    else
      Read.expect .blockEnd "expected the end of a mapping"
      return []

/-- One item of a flow sequence; a key makes it a mapping of one entry. -/
def readFlowItem (fuel : Nat) : Read Node := do
  match fuel with
  | 0 => Read.fail "expected an item"
  | fuel + 1 =>
    if ← Read.take? .key then
      let key ← readUnless fuel [.value, .flowEntry, .flowSequenceEnd] .flow
      let value ← readEntryValue fuel [.flowEntry, .flowSequenceEnd] .flow
      return .mapping .mapping [(key, value)]
    else readNode fuel .flow

def readFlowItems (fuel : Nat) (first : Bool) : Read (List Node) := do
  match fuel with
  | 0 => Read.fail "expected an item"
  | fuel + 1 =>
    if ← Read.take? .flowSequenceEnd then return []
    else
      if !first then Read.expect .flowEntry "expected a comma"
      if ← Read.take? .flowSequenceEnd then return []
      else
        let item ← readFlowItem fuel
        return item :: (← readFlowItems fuel false)

/-- One entry of a flow mapping; without a colon its value is empty. -/
def readFlowEntry (fuel : Nat) : Read (Node × Node) := do
  match fuel with
  | 0 => Read.fail "expected an entry"
  | fuel + 1 =>
    if ← Read.take? .key then
      let key ← readUnless fuel [.value, .flowEntry, .flowMappingEnd] .flow
      return (key, ← readEntryValue fuel [.flowEntry, .flowMappingEnd] .flow)
    else return (← readNode fuel .flow, Node.empty)

def readFlowEntries (fuel : Nat) (first : Bool) : Read (List (Node × Node)) := do
  match fuel with
  | 0 => Read.fail "expected an entry"
  | fuel + 1 =>
    if ← Read.take? .flowMappingEnd then return []
    else
      if !first then Read.expect .flowEntry "expected a comma"
      if ← Read.take? .flowMappingEnd then return []
      else
        let entry ← readFlowEntry fuel
        return entry :: (← readFlowEntries fuel false)

end

/-- Directives and the marker after them; a first document may do without. -/
def openDocument : Read Unit := do
  match ← Read.peek with
  | some (.directive _) =>
    let r ← get
    let (handles, rest) ← directiveHandles false [] r.tokens
    set { r with tokens := rest, handles := handles ++ defaultHandles }
    Read.expect .documentStart "expected a document"
  | some .documentStart => Read.drop
  | _ => return

def closeDocument (fuel : Nat) : Read Unit := do
  match fuel with
  | 0 => return
  | fuel + 1 =>
    if ← Read.take? .documentEnd then closeDocument fuel
    else if (← Read.peek).isSome then Read.fail "expected a single document"

/-- A document marker or directive comes next, or the end. -/
def atDocumentEnd : Read Bool := do
  match ← Read.peek with
  | none => return true
  | some .documentStart => return true
  | some .documentEnd => return true
  | some (.directive _) => return true
  | _ => return false

/-- The only document of a text; an empty text has the empty node. A document
without content has to begin with a marker. -/
def readDocument (fuel : Nat) : Read Node := do
  if (← Read.peek).isNone then return Node.empty
  if ← Read.sees [.documentEnd] then Read.fail "expected a document"
  let marked ← atDocumentEnd
  openDocument
  let node ←
    if marked && (← atDocumentEnd) then pure Node.empty else readNode fuel .block
  closeDocument fuel
  return node

def node (text : String) : Scan Node :=
  let ts := tokens text
  let fuel := 4 * ts.tokens.length + 8
  (readDocument fuel).run' ⟨ts.tokens, ts.refusal, [], defaultHandles⟩

end SdkBlueprint.Document.Yaml
