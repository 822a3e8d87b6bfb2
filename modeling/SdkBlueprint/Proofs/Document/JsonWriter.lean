import SdkBlueprint.Proofs.Document.JsonScalars

/-! JSON texts of values. A value is told by its text, and so is where the text ends: between
brackets a comma tells that another item follows. So values that are written alike are the same, on
one line as well as indented. -/
namespace SdkBlueprint.Document.Json
open SdkBlueprint.Number

section Brackets

variable {α : Type} {layout : Layout} {level : Nat} {closeChar : Char}

/-- What follows the first of several items: the others, each after a separator, and the bracket
that closes them. -/
def remainder (layout : Layout) (level : Nat) (closeChar : Char) (items : List (List Char)) :
    List Char :=
  items.flatMap (separator layout (level + 1) ++ ·) ++ (breakAt layout level ++ [closeChar])

theorem intercalate_cons (sep item : List Char) (items : List (List Char)) :
    List.intercalate sep (item :: items) = item ++ items.flatMap (sep ++ ·) := by
  induction items generalizing item with
  | nil => simp [List.intercalate]
  | cons next items ih =>
      rw [List.flatMap_cons, List.append_assoc, ← ih]
      simp [List.intercalate]

theorem bracket_cons (openChar : Char) (item : List Char) (items : List (List Char)) :
    bracket layout level openChar closeChar (item :: items) =
      openChar :: (breakAt layout (level + 1) ++ (item ++
        remainder layout level closeChar items)) := by
  simp [bracket, intercalate_cons, remainder]

theorem separator_head (layout : Layout) (level : Nat) :
    ∃ rest, separator layout level = ',' :: rest := by
  unfold separator
  split <;> exact ⟨_, rfl⟩

/-- The closing bracket stands on a line of its own or at once. -/
theorem closing_head (layout : Layout) (level : Nat) (closeChar : Char) :
    ∃ c rest, breakAt layout level ++ [closeChar] = c :: rest ∧ (c = '\n' ∨ c = closeChar) := by
  unfold breakAt
  split
  · exact ⟨'\n', _, rfl, .inl rfl⟩
  · exact ⟨closeChar, [], rfl, .inr rfl⟩

/-- The brackets that close lists and mappings. -/
def IsClosing (c : Char) : Prop := c = ']' ∨ c = '\x7d'

theorem IsClosing.not_word (h : IsClosing closeChar) : isWordChar closeChar = false := by
  rcases h with rfl | rfl <;> rfl

theorem IsClosing.ne (h : IsClosing closeChar) : closeChar ≠ ',' ∧ closeChar ≠ '\n' := by
  rcases h with rfl | rfl <;> decide

theorem remainder_ends (closing : IsClosing closeChar) (items : List (List Char)) (r : List Char) :
    Ends (remainder layout level closeChar items ++ r) := by
  cases items with
  | nil =>
      obtain ⟨c, rest, begins, sort⟩ := closing_head layout level closeChar
      rw [remainder, List.flatMap_nil, List.nil_append, begins]
      refine ends_cons ?_ _
      rcases sort with rfl | rfl
      · rfl
      · exact closing.not_word
  | cons item items =>
      obtain ⟨rest, begins⟩ := separator_head layout (level + 1)
      rw [remainder, List.flatMap_cons, begins]
      exact ends_cons rfl _

/-- The text of an item is told from what stands before an end. -/
def Told (f : α → List Char) (a b : α) : Prop :=
  ∀ r s, Ends r → Ends s → f a ++ r = f b ++ s → a = b ∧ r = s

variable {f : α → List Char} {as bs : List α} {r s : List Char}

theorem remainder_cons (item : List Char) (items : List (List Char)) :
    remainder layout level closeChar (item :: items) =
      separator layout (level + 1) ++ (item ++ remainder layout level closeChar items) := by
  simp [remainder]

/-- A comma tells that there is another item. -/
theorem remainder_nil_ne_cons (closing : IsClosing closeChar) (item : List Char)
    (items : List (List Char)) : remainder layout level closeChar [] ++ r ≠
      remainder layout level closeChar (item :: items) ++ s := by
  intro same
  obtain ⟨c, _, begins, sort⟩ := closing_head layout level closeChar
  obtain ⟨_, comma⟩ := separator_head layout (level + 1)
  rw [remainder, List.flatMap_nil, List.nil_append, begins, remainder_cons, comma] at same
  rw [(List.cons.inj same).1] at sort
  rcases sort with line | close
  · exact absurd line (by decide)
  · exact closing.ne.1 close.symm

theorem remainder_cancel (closing : IsClosing closeChar) (told : ∀ a ∈ as, ∀ b ∈ bs, Told f a b)
    (same : remainder layout level closeChar (as.map f) ++ r =
      remainder layout level closeChar (bs.map f) ++ s) : as = bs ∧ r = s := by
  induction as generalizing bs with
  | nil =>
      cases bs with
      | nil => exact ⟨rfl, List.append_cancel_left same⟩
      | cons b bs => exact absurd same (remainder_nil_ne_cons closing _ _)
  | cons a as ih =>
      cases bs with
      | nil => exact absurd same.symm (remainder_nil_ne_cons closing _ _)
      | cons b bs =>
          rw [List.map_cons, List.map_cons, remainder_cons, remainder_cons, List.append_assoc,
            List.append_assoc, List.append_assoc, List.append_assoc] at same
          obtain ⟨rfl, rest⟩ := told a List.mem_cons_self b List.mem_cons_self _ _
            (remainder_ends closing _ r) (remainder_ends closing _ s) (List.append_cancel_left same)
          obtain ⟨rfl, after⟩ := ih (fun a ha b hb => told a (List.mem_cons_of_mem _ ha) b
            (List.mem_cons_of_mem _ hb)) rest
          exact ⟨rfl, after⟩

/-- No item begins like the closing bracket, so that empty brackets are told from others. -/
theorem bracket_nil_ne_cons {openChar : Char} (closing : IsClosing closeChar) {item : List Char}
    (head : ∃ c rest, item = c :: rest ∧ c ≠ closeChar) (items : List (List Char)) :
    bracket layout level openChar closeChar [] ++ r ≠
      bracket layout level openChar closeChar (item :: items) ++ s := by
  intro same
  obtain ⟨c, rest, rfl, other⟩ := head
  rw [bracket_cons] at same
  have inner := (List.cons.inj same).2
  unfold breakAt at inner
  split at inner
  · exact closing.ne.2 (List.cons.inj inner).1
  · exact other (List.cons.inj inner).1.symm

/-- What stands between brackets is told if its items are. -/
theorem bracket_cancel {openChar : Char} (closing : IsClosing closeChar)
    (heads : ∀ a ∈ as ++ bs, ∃ c rest, f a = c :: rest ∧ c ≠ closeChar)
    (told : ∀ a ∈ as, ∀ b ∈ bs, Told f a b)
    (same : bracket layout level openChar closeChar (as.map f) ++ r =
      bracket layout level openChar closeChar (bs.map f) ++ s) : as = bs ∧ r = s := by
  cases as with
  | nil =>
      cases bs with
      | nil => exact ⟨rfl, List.append_cancel_left same⟩
      | cons b bs => exact absurd same (bracket_nil_ne_cons closing (heads b (by simp)) _)
  | cons a as =>
      cases bs with
      | nil => exact absurd same.symm (bracket_nil_ne_cons closing (heads a (by simp)) _)
      | cons b bs =>
          rw [List.map_cons, List.map_cons, bracket_cons, bracket_cons, List.cons_append,
            List.cons_append, List.append_assoc, List.append_assoc, List.append_assoc,
            List.append_assoc] at same
          have inner := List.append_cancel_left (List.cons.inj same).2
          obtain ⟨rfl, rest⟩ := told a List.mem_cons_self b List.mem_cons_self _ _
            (remainder_ends closing _ r) (remainder_ends closing _ s) inner
          obtain ⟨rfl, after⟩ := remainder_cancel closing (fun a ha b hb =>
            told a (List.mem_cons_of_mem _ ha) b (List.mem_cons_of_mem _ hb)) rest
          exact ⟨rfl, after⟩

end Brackets

section Values

variable {indent : Option Nat} {v w : Value}

/-- The text of one field. -/
def fieldChars (layout : Layout) (level : Nat) (f : String × Value) : List Char :=
  quoteChars layout.asciiOnly f.1.toList ++ ':' :: ' ' :: chars layout level f.2

theorem chars_list (layout : Layout) (level : Nat) (items : List Value) :
    chars layout level (.list items) =
      bracket layout level '[' ']' (items.map (chars layout (level + 1))) := by
  have each : ∀ items, itemChars layout (level + 1) items =
      items.map (chars layout (level + 1)) := by
    intro items
    induction items with
    | nil => rfl
    | cons v items ih => rw [itemChars, ih, List.map_cons]
  rw [chars, each]

theorem chars_fieldsValue (layout : Layout) (level : Nat) (fields : List (String × Value)) :
    chars layout level (fieldsValue fields) =
      bracket layout level '\x7b' '\x7d' (fields.map (fieldChars layout (level + 1))) := by
  have each : ∀ fields : List (String × Value), entryChars layout (level + 1)
      (fields.map fun f => (.text f.1, f.2)) = fields.map (fieldChars layout (level + 1)) := by
    intro fields
    induction fields with
    | nil => rfl
    | cons f fields ih =>
        rw [List.map_cons, entryChars, ih]
        rfl
  rw [fieldsValue, chars, each]

/-- The character that a quoted text, a list or a mapping begins with. -/
def opening : Value → Option Char
  | .scalar (.text _) => some '"'
  | .scalar _ => none
  | .list _ => some '['
  | .map _ => some '\x7b'
  | .set _ => none

theorem bracket_head (layout : Layout) (level : Nat) (openChar closeChar : Char)
    (items : List (List Char)) :
    ∃ rest, bracket layout level openChar closeChar items = openChar :: rest := by
  unfold bracket
  split <;> exact ⟨_, rfl⟩

theorem opening_word {s : Scalar} (word : IsWord IsNumber s) : opening (.scalar s) = none := by
  cases s with
  | text => exact word.elim
  | _ => rfl

theorem scalarChars_ne_nil {s : Scalar} (word : IsWord IsNumber s) (asciiOnly : Bool) :
    scalarChars asciiOnly s ≠ [] := by
  cases s with
  | null => simp [scalarChars]
  | bool b => cases b <;> simp [scalarChars]
  | int n => exact decimal_ne_nil n
  | float x =>
      obtain ⟨c, rest, begins, -⟩ := floatChars_head word
      rw [scalarChars, begins]
      exact List.cons_ne_nil c rest
  | _ => exact word.elim

/-- The first character is the opening one, or one of a word. -/
theorem JsonWith.head (h : JsonWith IsNumber v) (layout : Layout) (level : Nat) :
    ∃ c rest, chars layout level v = c :: rest ∧
      (opening v = some c ∨ opening v = none ∧ isWordChar c = true) := by
  cases h with
  | @word s word =>
      obtain ⟨c, rest, begins⟩ := List.exists_cons_of_ne_nil
        (scalarChars_ne_nil word layout.asciiOnly)
      have first : c ∈ scalarChars layout.asciiOnly s := begins ▸ List.mem_cons_self
      exact ⟨c, rest, begins, .inr ⟨opening_word word, scalarChars_wordy word _ c first⟩⟩
  | text s => exact ⟨'"', _, rfl, .inl rfl⟩
  | @list items each =>
      obtain ⟨rest, begins⟩ := bracket_head layout level '[' ']'
        (items.map (chars layout (level + 1)))
      exact ⟨'[', rest, (chars_list layout level items).trans begins, .inl rfl⟩
  | @fields fs each =>
      obtain ⟨rest, begins⟩ := bracket_head layout level '\x7b' '\x7d'
        (fs.map (fieldChars layout (level + 1)))
      exact ⟨'\x7b', rest, (chars_fieldsValue layout level fs).trans begins, .inl rfl⟩

theorem opening_not_word {c : Char} (h : opening v = some c) :
    isWordChar c = false ∧ c ≠ ']' := by
  unfold opening at h
  split at h
  all_goals
    cases h
    try decide

/-- Values that are written alike are of one sort. -/
theorem JsonWith.same_opening (hv : JsonWith IsNumber v) (hw : JsonWith IsNumber w)
    {layout : Layout} {level : Nat} {r s : List Char} (same : chars layout level v ++ r = chars layout level w ++ s) :
    opening v = opening w := by
  obtain ⟨c, _, begins, sort⟩ := hv.head layout level
  obtain ⟨d, _, begins', sort'⟩ := hw.head layout level
  rw [begins, begins'] at same
  obtain ⟨rfl, -⟩ := List.cons.inj same
  rcases sort with first | ⟨none, word⟩
  · rcases sort' with first' | ⟨-, word⟩
    · exact first.trans first'.symm
    · exact absurd ((opening_not_word first).1.symm.trans word) (by decide)
  · rcases sort' with first' | ⟨none', -⟩
    · exact absurd ((opening_not_word first').1.symm.trans word) (by decide)
    · exact none.trans none'.symm

/-- No item of a list begins like its closing bracket. -/
theorem JsonWith.head_ne (h : JsonWith IsNumber v) (layout : Layout) (level : Nat) :
    ∃ c rest, chars layout level v = c :: rest ∧ c ≠ ']' := by
  obtain ⟨c, rest, begins, sort⟩ := h.head layout level
  refine ⟨c, rest, begins, ?_⟩
  rcases sort with first | ⟨-, word⟩
  · exact (opening_not_word first).2
  · rintro rfl
    exact absurd word (by decide)

/-- A field is told if its value is. -/
theorem fieldChars_told {f g : String × Value} {level : Nat}
    (told : Told (chars ⟨false, indent⟩ level) f.2 g.2) :
    Told (fieldChars ⟨false, indent⟩ level) f g := by
  intro r s hr hs same
  rw [fieldChars, fieldChars, List.append_assoc, List.append_assoc] at same
  obtain ⟨key, rest⟩ := quoteChars_cancel same
  obtain ⟨value, after⟩ := told r s hr hs (List.cons.inj (List.cons.inj rest).2).2
  exact ⟨Prod.ext (String.toList_inj.mp key) value, after⟩

theorem JsonWith.told (hv : JsonWith IsNumber v) (hw : JsonWith IsNumber w) (level : Nat) :
    Told (chars ⟨false, indent⟩ level) v w := by
  -- The induction is on the first value; the other one has the same opening.
  induction hv generalizing w level with
  | word word =>
      intro r s hr hs same
      have opens := (JsonWith.word word).same_opening hw same
      rw [opening_word word] at opens
      cases hw with
      | word word' =>
          obtain ⟨text, rest⟩ := word_cancel (scalarChars_wordy word _) (scalarChars_wordy word' _)
            hr hs same
          exact ⟨congrArg Value.scalar (scalarChars_injective word word' text), rest⟩
      | text => cases opens
      | list => cases opens
      | fields => cases opens
  | text t =>
      intro r s hr hs same
      have opens := (JsonWith.text t).same_opening hw same
      cases hw with
      | word word' => cases opens.trans (opening_word word')
      | text u =>
          obtain ⟨text, rest⟩ := quoteChars_cancel same
          exact ⟨congrArg Value.text (String.toList_inj.mp text), rest⟩
      | list => cases opens
      | fields => cases opens
  | @list items each ih =>
      intro r s hr hs same
      have opens := (JsonWith.list each).same_opening hw same
      cases hw with
      | word word' => cases opens.trans (opening_word word')
      | text => cases opens
      | @list items' each' =>
          have heads : ∀ v ∈ items ++ items', ∃ c rest,
              chars ⟨false, indent⟩ (level + 1) v = c :: rest ∧ c ≠ ']' := fun v member =>
            ((List.mem_append.mp member).elim (each v) (each' v)).head_ne _ _
          rw [chars_list, chars_list] at same
          obtain ⟨same, rest⟩ := bracket_cancel (.inl rfl) heads
            (fun v hv w hw => ih v hv (each' w hw) (level + 1)) same
          exact ⟨congrArg Value.list same, rest⟩
      | fields => cases opens
  | @fields fs each ih =>
      intro r s hr hs same
      have opens := (JsonWith.fields each).same_opening hw same
      cases hw with
      | word word' => cases opens.trans (opening_word word')
      | text => cases opens
      | list => cases opens
      | @fields fs' each' =>
          have heads : ∀ f ∈ fs ++ fs', ∃ c rest,
              fieldChars ⟨false, indent⟩ (level + 1) f = c :: rest ∧ c ≠ '\x7d' :=
            fun f _ => ⟨'"', _, rfl, by decide⟩
          rw [chars_fieldsValue, chars_fieldsValue] at same
          obtain ⟨same, rest⟩ := bracket_cancel (.inr rfl) heads (fun f hf g hg =>
            fieldChars_told (ih f hf (each' g hg) (level + 1))) same
          exact ⟨congrArg fieldsValue same, rest⟩

/-- Values that are written alike are the same. -/
theorem JsonWith.eq_of_write (hv : JsonWith IsNumber v) (hw : JsonWith IsNumber w)
    (same : write ⟨false, indent⟩ v = write ⟨false, indent⟩ w) : v = w := by
  have chars := String.ofList_injective same
  rw [← List.append_nil (Json.chars _ 0 v), ← List.append_nil (Json.chars _ 0 w)] at chars
  exact (hv.told hw 0 [] [] ends_nil ends_nil chars).1

end Values

end SdkBlueprint.Document.Json
