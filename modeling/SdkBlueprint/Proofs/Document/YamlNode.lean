import SdkBlueprint.Document.Yaml.Node
import SdkBlueprint.Proofs.Document.YamlLexer
import SdkBlueprint.Proofs.Journal

/-! Nodes of a YAML text. What the tokens are refused for is passed on as it is; the reader itself
finds only faults of the YAML text. -/
namespace SdkBlueprint.Document.Yaml

/-- The step leaves alone what the tokens end with, and fails with that or as no YAML. -/
structure Steady {α : Type} (x : Read α) : Prop where
  keeps : ∀ r a r', x.run r = .ok (a, r') → r'.refusal = r.refusal
  fails : ∀ r, FailsAs (fun f => f.IsMalformed ∨ r.refusal = some f) (x.run r)

namespace Steady

variable {α β : Type}

theorem pure (a : α) : Steady (Pure.pure a : Read α) := by
  refine ⟨?_, fun r => .ok _⟩
  rintro r _ _ ⟨⟩
  rfl

theorem fail (reason : String) : Steady (Read.fail reason : Read α) :=
  ⟨fun _ _ _ h => (nomatch h), fun _ => .error (.inl ⟨reason, rfl⟩)⟩

theorem bind {x : Read α} {f : α → Read β} (hx : Steady x) (hf : ∀ a, Steady (f a)) :
    Steady (x >>= f) := by
  constructor
  · intro r b r'' run
    rw [StateT.run_bind] at run
    obtain ⟨⟨a, r'⟩, first, rest⟩ := attempt_bind_ok run
    rw [(hf a).keeps r' b r'' rest, hx.keeps r a r' first]
  · intro r
    rw [StateT.run_bind]
    refine (hx.fails r).bind fun ⟨a, r'⟩ first => ?_
    rw [← hx.keeps r a r' first]
    exact (hf a).fails r'

theorem get : Steady (get : Read Reading) := by
  refine ⟨?_, fun r => .ok _⟩
  rintro r _ _ ⟨⟩
  rfl

theorem modify {f : Reading → Reading} (h : ∀ r, (f r).refusal = r.refusal) :
    Steady (modify f : Read Unit) := by
  refine ⟨?_, fun r => .ok _⟩
  rintro r _ _ ⟨⟩
  exact h r

end Steady

theorem peek_steady : Steady Read.peek := by
  constructor
  · rintro ⟨tokens, refusal, anchors, handles⟩ t r' run
    cases tokens with
    | cons t rest =>
        cases run
        rfl
    | nil =>
        cases refusal with
        | none =>
            cases run
            rfl
        | some f => cases run
  · rintro ⟨tokens, refusal, anchors, handles⟩
    cases tokens with
    | cons t rest => exact .ok _
    | nil =>
        cases refusal with
        | none => exact .ok _
        | some f => exact .error (.inr rfl)

theorem drop_steady : Steady Read.drop := .modify fun _ => rfl

theorem take_steady (t : Token) : Steady (Read.take? t) := by
  refine peek_steady.bind fun found => ?_
  split
  · exact drop_steady.bind fun _ => .pure true
  · exact .pure false

theorem expect_steady (t : Token) (reason : String) : Steady (Read.expect t reason) := by
  refine (take_steady t).bind fun taken => ?_
  split
  · exact .fail reason
  · exact .pure ()

theorem sees_steady (ts : List Token) : Steady (Read.sees ts) := peek_steady.bind fun _ => .pure _

theorem tagName_steady (tag : WrittenTag) : Steady (tagName tag) := by
  unfold tagName
  split
  · exact .pure _
  · refine Steady.get.bind fun r => ?_
    split
    · exact .pure _
    · exact .fail _

theorem takeAnchor_steady : Steady takeAnchor := by
  refine peek_steady.bind fun found => ?_
  split
  · exact drop_steady.bind fun _ => .pure _
  · exact .pure none

theorem takeTag_steady : Steady takeTag := by
  refine peek_steady.bind fun found => ?_
  split
  · exact drop_steady.bind fun _ => (tagName_steady _).bind fun name => .pure _
  · exact .pure none

theorem takeProperties_steady : Steady takeProperties := by
  refine takeAnchor_steady.bind fun anchor => ?_
  split
  · exact takeTag_steady.bind fun tag => .pure _
  · refine takeTag_steady.bind fun tag => ?_
    split
    · exact takeAnchor_steady.bind fun anchor => .pure _
    · exact .pure _

theorem openAnchor_steady (anchor : Option String) : Steady (openAnchor anchor) := by
  unfold openAnchor
  split
  · exact .pure ()
  · refine Steady.get.bind fun r => ?_
    simp only []
    split
    · exact (Steady.fail _).bind fun _ => .modify fun _ => rfl
    · exact .modify fun _ => rfl

theorem closeAnchor_steady (anchor : Option String) (node : Node) :
    Steady (closeAnchor anchor node) := by
  unfold closeAnchor
  split
  · exact .pure node
  · refine .bind (.modify ?_) fun _ => .pure node
    exact fun _ => rfl

theorem aliased_steady (name : String) : Steady (aliased name) := by
  refine Steady.get.bind fun r => ?_
  split
  · exact .pure _
  · exact .fail _
  · exact .fail _

theorem missing_steady (ps : Properties) : Steady (missing ps) := by
  unfold missing
  split
  · exact .pure _
  · exact .fail _

/-- All readers of nodes and of their parts are steady for some fuel. -/
structure SteadyAt (fuel : Nat) : Prop where
  node : ∀ place, Steady (readNode fuel place)
  content : ∀ place ps, Steady (readContent fuel place ps)
  orEmpty : ∀ ends place, Steady (readUnless fuel ends place)
  items : Steady (readItems fuel)
  unindented : Steady (readUnindented fuel)
  entryValue : ∀ ends place, Steady (readEntryValue fuel ends place)
  entries : Steady (readEntries fuel)
  flowItem : Steady (readFlowItem fuel)
  flowItems : ∀ first, Steady (readFlowItems fuel first)
  flowEntry : Steady (readFlowEntry fuel)
  flowEntries : ∀ first, Steady (readFlowEntries fuel first)

theorem steadyAt_zero : SteadyAt 0 := by
  constructor <;> intros <;> exact .fail _

/-- What follows a first item, or the end of the brackets, is steady if item and rest are. -/
theorem closed_steady {α : Type} (stop : Token) {item : Read α} {more : Read (List α)}
    (hitem : Steady item) (hmore : Steady more) :
    Steady (do
      if ← Read.take? stop then return []
      else
        let a ← item
        return a :: (← more)) := by
  refine (take_steady _).bind fun taken => ?_
  split
  · exact .pure _
  · exact hitem.bind fun a => hmore.bind fun rest => .pure _

namespace SteadyAt

variable {fuel : Nat}

theorem node_succ (h : SteadyAt fuel) (place : Place) : Steady (readNode (fuel + 1) place) := by
  unfold readNode
  refine peek_steady.bind fun found => ?_
  split
  · exact drop_steady.bind fun _ => aliased_steady _
  · refine takeProperties_steady.bind fun ps => (openAnchor_steady _).bind fun _ => ?_
    exact (h.content place ps).bind fun node => closeAnchor_steady _ node

theorem content_succ (h : SteadyAt fuel) (place : Place) (ps : Properties) :
    Steady (readContent (fuel + 1) place ps) := by
  unfold readContent
  refine peek_steady.bind fun found => ?_
  split
  · split
    · exact h.unindented.bind fun items => .pure _
    · exact missing_steady ps
  · exact drop_steady.bind fun _ => .pure _
  · exact drop_steady.bind fun _ => (h.flowItems true).bind fun items => .pure _
  · exact drop_steady.bind fun _ => (h.flowEntries true).bind fun entries => .pure _
  · split
    · exact missing_steady ps
    · exact drop_steady.bind fun _ => h.items.bind fun items => .pure _
  · split
    · exact missing_steady ps
    · exact drop_steady.bind fun _ => h.entries.bind fun entries => .pure _
  · exact missing_steady ps

theorem orEmpty_succ (h : SteadyAt fuel) (ends : List Token) (place : Place) :
    Steady (readUnless (fuel + 1) ends place) := by
  unfold readUnless
  refine (sees_steady ends).bind fun stops => ?_
  split
  · exact .pure _
  · exact h.node place

theorem items_succ (h : SteadyAt fuel) : Steady (readItems (fuel + 1)) := by
  unfold readItems
  refine (take_steady _).bind fun taken => ?_
  split
  · exact (h.orEmpty _ _).bind fun item => h.items.bind fun rest => .pure _
  · exact (expect_steady _ _).bind fun _ => .pure _

theorem unindented_succ (h : SteadyAt fuel) : Steady (readUnindented (fuel + 1)) := by
  unfold readUnindented
  refine (take_steady _).bind fun taken => ?_
  split
  · exact (h.orEmpty _ _).bind fun item => h.unindented.bind fun rest => .pure _
  · exact .pure _

theorem entryValue_succ (h : SteadyAt fuel) (ends : List Token) (place : Place) :
    Steady (readEntryValue (fuel + 1) ends place) := by
  unfold readEntryValue
  refine (take_steady _).bind fun taken => ?_
  split
  · exact h.orEmpty ends place
  · exact .pure _

theorem entries_succ (h : SteadyAt fuel) : Steady (readEntries (fuel + 1)) := by
  unfold readEntries
  refine (take_steady _).bind fun taken => ?_
  split
  · refine (h.orEmpty _ _).bind fun key => (h.entryValue _ _).bind fun value => ?_
    exact h.entries.bind fun rest => .pure _
  · exact (expect_steady _ _).bind fun _ => .pure _

theorem flowItem_succ (h : SteadyAt fuel) : Steady (readFlowItem (fuel + 1)) := by
  unfold readFlowItem
  refine (take_steady _).bind fun taken => ?_
  split
  · exact (h.orEmpty _ _).bind fun key => (h.entryValue _ _).bind fun value => .pure _
  · exact h.node _

theorem flowItems_succ (h : SteadyAt fuel) (first : Bool) :
    Steady (readFlowItems (fuel + 1) first) := by
  have rest := closed_steady .flowSequenceEnd h.flowItem (h.flowItems false)
  unfold readFlowItems
  refine (take_steady _).bind fun taken => ?_
  split
  · exact .pure _
  · simp only []
    split
    · exact (expect_steady _ _).bind fun _ => rest
    · exact rest

theorem flowEntry_succ (h : SteadyAt fuel) : Steady (readFlowEntry (fuel + 1)) := by
  unfold readFlowEntry
  refine (take_steady _).bind fun taken => ?_
  split
  · exact (h.orEmpty _ _).bind fun key => (h.entryValue _ _).bind fun value => .pure _
  · exact (h.node _).bind fun key => .pure _

theorem flowEntries_succ (h : SteadyAt fuel) (first : Bool) :
    Steady (readFlowEntries (fuel + 1) first) := by
  have rest := closed_steady .flowMappingEnd h.flowEntry (h.flowEntries false)
  unfold readFlowEntries
  refine (take_steady _).bind fun taken => ?_
  split
  · exact .pure _
  · simp only []
    split
    · exact (expect_steady _ _).bind fun _ => rest
    · exact rest

theorem succ (h : SteadyAt fuel) : SteadyAt (fuel + 1) where
  node := h.node_succ
  content := h.content_succ
  orEmpty := h.orEmpty_succ
  items := h.items_succ
  unindented := h.unindented_succ
  entryValue := h.entryValue_succ
  entries := h.entries_succ
  flowItem := h.flowItem_succ
  flowItems := h.flowItems_succ
  flowEntry := h.flowEntry_succ
  flowEntries := h.flowEntries_succ

end SteadyAt

theorem steadyAt (fuel : Nat) : SteadyAt fuel := by
  induction fuel with
  | zero => exact steadyAt_zero
  | succ fuel ih => exact ih.succ

theorem directiveHandles_fails (versioned : Bool) (handles : List (String × String))
    (ts : List Token) : FailsAs Refusal.IsMalformed (directiveHandles versioned handles ts) := by
  fun_induction directiveHandles versioned handles ts with
  | case1 => exact malformed_fails _
  | case2 => exact malformed_fails _
  | case3 _ _ _ _ _ _ ih => exact ih
  | case4 => exact malformed_fails _
  | case5 _ _ _ _ _ _ ih => exact ih
  | case6 _ _ _ ih => exact ih
  | case7 => exact .ok _

/-- What follows the reading of the state may use what it has read. -/
theorem Steady.get_bind {α : Type} {f : Reading → Read α}
    (keeps : ∀ r a r', (f r).run r = .ok (a, r') → r'.refusal = r.refusal)
    (fails : ∀ r, FailsAs (fun e => e.IsMalformed ∨ r.refusal = some e) ((f r).run r)) :
    Steady (MonadState.get >>= f) := ⟨keeps, fails⟩

theorem openDocument_steady : Steady openDocument := by
  have start := expect_steady .documentStart "expected a document"
  refine peek_steady.bind fun found => ?_
  split
  · refine .get_bind (fun r a r' run => ?_) fun r => ?_
    · obtain ⟨⟨⟨handles, rest⟩, r''⟩, read, run⟩ := attempt_bind_ok run
      obtain ⟨_, _, ⟨⟩⟩ := attempt_bind_ok read
      exact start.keeps ⟨rest, r.refusal, r.anchors, handles ++ defaultHandles⟩ a r' run
    · refine FailsAs.bind (FailsAs.bind ?_ fun _ _ => .ok _) fun ⟨⟨handles, rest⟩, r'⟩ read => ?_
      · exact (directiveHandles_fails _ _ _).mono fun _ => .inl
      · obtain ⟨_, _, ⟨⟩⟩ := attempt_bind_ok read
        exact start.fails ⟨rest, r.refusal, r.anchors, handles ++ defaultHandles⟩
  · exact drop_steady
  · exact .pure ()

theorem closeDocument_steady (fuel : Nat) : Steady (closeDocument fuel) := by
  induction fuel with
  | zero => exact .pure ()
  | succ fuel ih =>
      unfold closeDocument
      refine (take_steady _).bind fun taken => ?_
      split
      · exact ih
      · refine peek_steady.bind fun found => ?_
        split
        · exact .fail _
        · exact .pure ()

theorem atDocumentEnd_steady : Steady atDocumentEnd := by
  refine peek_steady.bind fun found => ?_
  split <;> exact .pure _

theorem readDocument_steady (fuel : Nat) : Steady (readDocument fuel) := by
  have body : Steady (do
      let marked ← atDocumentEnd
      openDocument
      let node ← if marked && (← atDocumentEnd) then Pure.pure Node.empty else readNode fuel .block
      closeDocument fuel
      return node) := by
    refine atDocumentEnd_steady.bind fun marked => openDocument_steady.bind fun _ => ?_
    refine atDocumentEnd_steady.bind fun ended => ?_
    split
    · exact (closeDocument_steady fuel).bind fun _ => .pure _
    · refine ((steadyAt fuel).node .block).bind fun node => ?_
      exact (closeDocument_steady fuel).bind fun _ => .pure node
  refine peek_steady.bind fun found => ?_
  split
  · exact .pure _
  · refine (sees_steady _).bind fun ended => ?_
    split
    · exact (Steady.fail _).bind fun _ => body
    · exact body

/-- A text without a node is no YAML, or it escapes a number that no character has. -/
theorem node_refuses (text : String) : FailsAs (Refuses text.toList) (node text) := by
  have steady := readDocument_steady (4 * (tokens text).tokens.length + 8)
  unfold node
  simp only []
  refine FailsAs.map _ ?_
  refine (steady.fails _).mono fun f found => ?_
  rcases found with malformed | refused
  · exact .inl malformed
  · exact tokens_refuse refused

end SdkBlueprint.Document.Yaml
