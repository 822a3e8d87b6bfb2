import Mathlib.Algebra.Group.Nat.Defs
import Mathlib.Data.List.TakeWhile
import SdkBlueprint.Document.Yaml.ScalarText
import SdkBlueprint.Proofs.Failures

/-! Places in a YAML text. Whatever is read begins and ends within the text, so that a refusal can
be blamed on characters of it. There are two that are no fault of the YAML text: an escape with a
number that no character has, and a version with a number of too many digits. -/
namespace SdkBlueprint.Document.Yaml
open Json

/-- The refusal says that a text is no YAML. -/
def Refusal.IsMalformed (r : Refusal) : Prop := ∃ reason, r = .malformed reason

theorem malformed_fails {α : Type} (reason : String) :
    FailsAs Refusal.IsMalformed (malformed reason : Scan α) := .error ⟨reason, rfl⟩

/-- The place is within the text. -/
def Cursor.Within (cs : List Char) (c : Cursor) : Prop := c.rest <:+ cs

namespace Cursor.Within

variable {cs : List Char} {c : Cursor}

theorem start (cs : List Char) : (Cursor.start cs).Within cs := by
  unfold Cursor.start
  split
  · split
    · exact List.suffix_cons _ _
    · exact List.suffix_refl _
  · exact List.suffix_refl _

theorem advance (h : c.Within cs) : c.advance.Within cs := by
  unfold Cursor.advance
  split
  · exact h
  · next ch rest same =>
    have after : rest <:+ cs := ((List.suffix_cons ch rest).trans (same ▸ List.suffix_refl _)).trans h
    split
    · exact after
    · split
      · exact after
      · exact after

theorem skip (n : Nat) (h : c.Within cs) : (Cursor.skip n c).Within cs := by
  induction n generalizing c with
  | zero => exact h
  | succ n ih => exact ih h.advance

theorem span (p : Char → Bool) (h : c.Within cs) : (c.span p).2.Within cs := h.skip _

theorem skipWhile (p : Char → Bool) (h : c.Within cs) : (c.skipWhile p).Within cs := h.span p

theorem skipBlanks (h : c.Within cs) : c.skipBlanks.Within cs := h.skipWhile _

theorem skipComment (h : c.Within cs) : c.skipComment.Within cs := by
  unfold Cursor.skipComment
  split
  · exact h.skipWhile _
  · exact h

theorem lineBreak (h : c.Within cs) {ch : Char} {next : Cursor}
    (found : c.lineBreak? = some (ch, next)) : next.Within cs := by
  unfold Cursor.lineBreak? at found
  split at found
  · cases found
    exact h.skip 2
  · split at found
    · cases found
      exact h.advance
    · split at found
      · cases found
        exact h.advance
      · cases found
  · cases found

end Cursor.Within

/-- Eight digits after a backslash and a capital U that are the number of no character. -/
def EscapesBeyond (cs : List Char) : Prop :=
  ∃ before digits after n, cs = before ++ '\\' :: 'U' :: (digits ++ after) ∧ digits.length = 8 ∧
    hexNumber? digits = some n ∧ 0x10FFFF < n

/-- Part of a version: digits and points, and the blanks in front of them. -/
def IsVersionPart (ch : Char) : Prop := ch = ' ' ∨ ch = '.' ∨ ch.isDigit = true

/-- A number of too many digits in the version behind the word `YAML`. -/
def VersionBeyond (cs : List Char) : Prop :=
  ∃ before gap digits after, cs = before ++ ("YAML".toList ++ (gap ++ (digits ++ after))) ∧
    (∀ ch ∈ gap, IsVersionPart ch) ∧ (∀ ch ∈ digits, ch.isDigit = true) ∧
    maxIntegerDigits < digits.length

/-- The text is no YAML, or it has a number that is no character's or cannot be read. -/
def Refuses (cs : List Char) (r : Refusal) : Prop :=
  r.IsMalformed ∨ r = .misuse .badValue ∧ (EscapesBeyond cs ∨ VersionBeyond cs)

/-- Reading ends at a place within the text, or is refused for what the text says. -/
structure Stays {α : Type} (cs : List Char) (place : α → Cursor) (x : Scan α) : Prop where
  within : ∀ a, x = .ok a → (place a).Within cs
  fails : FailsAs (Refuses cs) x

namespace Stays

variable {α β : Type} {cs : List Char} {place : α → Cursor} {place' : β → Cursor}

theorem ok {a : α} (h : (place a).Within cs) : Stays cs place (.ok a) := by
  refine ⟨?_, .ok a⟩
  rintro _ ⟨⟩
  exact h

theorem malformed (reason : String) : Stays cs place (malformed reason) :=
  ⟨fun _ h => (nomatch h), .error (.inl ⟨reason, rfl⟩)⟩

theorem bind {x : Scan α} {f : α → Scan β} (hx : Stays cs place x)
    (hf : ∀ a, (place a).Within cs → Stays cs place' (f a)) : Stays cs place' (x >>= f) := by
  cases x with
  | error r => exact ⟨fun _ h => (nomatch h), .error (hx.fails r rfl)⟩
  | ok a => exact hf a (hx.within a rfl)

theorem map {x : Scan α} {f : α → β} (hx : Stays cs place x)
    (hf : ∀ a, (place a).Within cs → (place' (f a)).Within cs) : Stays cs place' (x.map f) := by
  cases x with
  | error r => exact ⟨fun _ h => (nomatch h), .error (hx.fails r rfl)⟩
  | ok a => exact ok (hf a (hx.within a rfl))

/-- A reader that moves nothing but may refuse. -/
theorem check {x : Scan α} {f : α → Scan β} (hx : FailsAs Refusal.IsMalformed x)
    (hf : ∀ a, Stays cs place' (f a)) : Stays cs place' (x >>= f) := by
  cases x with
  | error r => exact ⟨fun _ h => (nomatch h), .error (.inl (hx r rfl))⟩
  | ok a => exact hf a

end Stays

variable {cs : List Char} {c : Cursor}

theorem restOfLine_stays (h : c.Within cs) : Stays cs id c.restOfLine := by
  have after := h.skipBlanks.skipComment
  unfold Cursor.restOfLine
  simp only []
  split
  · split
    · next next found => exact .ok (after.lineBreak found)
    · exact .ok after
  · exact .malformed _

/-! ## Names, tags and directives -/

theorem readName_stays (h : c.Within cs) : Stays cs Prod.snd (readName c) := by
  unfold readName
  simp only []
  split
  · exact .malformed _
  · split
    · exact .ok (h.advance.span _)
    · exact .malformed _

theorem escapeBytes_fails (cs : List Char) : FailsAs Refusal.IsMalformed (escapeBytes cs) := by
  fun_induction escapeBytes cs with
  | case1 a b rest bad => exact malformed_fails _
  | case2 a b rest n read ih => exact ih.map _
  | case3 rest short => exact malformed_fails _
  | case4 rest plain => exact .ok _

theorem unescapeUri_fails (fuel : Nat) (cs : List Char) :
    FailsAs Refusal.IsMalformed (unescapeUri fuel cs) := by
  fun_induction unescapeUri fuel cs with
  | case1 cs => exact .ok []
  | case2 fuel some => exact .ok []
  | case3 fuel rest e failed =>
      rw [failed]
      exact .error (escapeBytes_fails _ e failed)
  | case4 fuel rest bytes more split bad =>
      simp only [split, bad]
      exact malformed_fails _
  | case5 fuel rest bytes more s split read ih =>
      simp only [split, read]
      exact ih.map _
  | case6 fuel c rest plain ih => exact ih.map _

theorem readUri_stays (h : c.Within cs) : Stays cs Prod.snd (readUri c) := by
  unfold readUri
  simp only []
  split
  · exact .malformed _
  · refine .check (f := fun cs => .ok (String.ofList cs, _)) (unescapeUri_fails _ _) fun _ => ?_
    exact .ok (h.span _)

theorem readHandle_stays (h : c.Within cs) : Stays cs Prod.snd (readHandle c) := by
  unfold readHandle
  simp only []
  split
  · exact .malformed _
  · have after : (c.advance.span isNameChar).2.Within cs := h.advance.span _
    split
    · exact .ok after.advance
    · split
      · exact .ok after
      · exact .malformed _

theorem readWrittenTag_stays (h : c.Within cs) : Stays cs Prod.snd (readWrittenTag c) := by
  unfold readWrittenTag
  split
  · refine (readUri_stays (h.skip 2)).bind fun ⟨rest, next⟩ after => ?_
    simp only []
    split
    · exact .ok after.advance
    · exact .malformed _
  · split
    · exact .ok h.advance
    · split
      · refine (readHandle_stays h).bind fun r after => ?_
        exact (readUri_stays after).bind fun r after => .ok after
      · exact (readUri_stays h.advance).bind fun r after => .ok after

theorem readTag_stays (h : c.Within cs) : Stays cs Prod.snd (readTag c) := by
  refine (readWrittenTag_stays h).bind fun ⟨tag, next⟩ after => ?_
  simp only []
  split
  · exact .ok after
  · exact .malformed _

theorem advance_rest {ch : Char} {rest : List Char} (h : c.rest = ch :: rest) :
    c.advance.rest = rest := by
  unfold Cursor.advance
  rw [h]
  simp only []
  split
  · rfl
  · split <;> rfl

theorem skip_rest (n : Nat) (c : Cursor) : (Cursor.skip n c).rest = c.rest.drop n := by
  induction n generalizing c with
  | zero => rfl
  | succ n ih =>
      rw [Cursor.skip, ih]
      cases same : c.rest with
      | nil => rw [Cursor.advance, same, List.drop_nil, same, List.drop_nil]
      | cons ch rest => rw [advance_rest same, List.drop_succ_cons]

theorem span_rest (p : Char → Bool) (c : Cursor) : c.rest = (c.span p).1 ++ (c.span p).2.rest := by
  rw [Cursor.span, skip_rest]
  exact (List.prefix_iff_eq_append.mp (List.takeWhile_prefix p)).symm

/-- The place is in the version behind the word `YAML`. -/
def InVersion (cs : List Char) (c : Cursor) : Prop :=
  ∃ before gap, cs = before ++ ("YAML".toList ++ (gap ++ c.rest)) ∧ ∀ ch ∈ gap, IsVersionPart ch

namespace InVersion

theorem within (h : InVersion cs c) : c.Within cs := by
  obtain ⟨before, gap, same, _⟩ := h
  exact ⟨before ++ ("YAML".toList ++ gap), by rw [same, List.append_assoc, List.append_assoc]⟩

theorem on (h : InVersion cs c) (more : List Char) {next : Cursor}
    (ahead : c.rest = more ++ next.rest) (parts : ∀ ch ∈ more, IsVersionPart ch) : InVersion cs next := by
  obtain ⟨before, gap, same, each⟩ := h
  refine ⟨before, gap ++ more, by rw [same, ahead, List.append_assoc gap], fun ch hch => ?_⟩
  exact (List.mem_append.mp hch).elim (each ch) (parts ch)

theorem span {p : Char → Bool} (h : InVersion cs c) (parts : ∀ ch, p ch = true → IsVersionPart ch) :
    InVersion cs (c.span p).2 :=
  h.on _ (span_rest p c) fun ch hch => parts ch (List.mem_takeWhile_imp hch)

end InVersion

theorem readVersionNumber_stays (h : InVersion cs c) :
    Stays cs Prod.snd (readVersionNumber c) ∧
      ∀ n next, readVersionNumber c = .ok (n, next) → InVersion cs next := by
  have digits : InVersion cs (c.span Char.isDigit).2 := h.span fun ch digit => .inr (.inr digit)
  unfold readVersionNumber
  simp only []
  split
  · exact ⟨.malformed _, fun _ _ read => nomatch read⟩
  · split
    · next long =>
      refine ⟨⟨fun _ read => (nomatch read), .error (.inr ⟨rfl, .inr ?_⟩)⟩,
        fun _ _ read => nomatch read⟩
      obtain ⟨before, gap, same, each⟩ := h
      refine ⟨before, gap, (c.span Char.isDigit).1, (c.span Char.isDigit).2.rest, ?_, each,
        fun ch hch => List.mem_takeWhile_imp hch, long⟩
      rw [← span_rest]
      exact same
    · refine ⟨.ok digits.within, fun n next read => ?_⟩
      cases read
      exact digits

theorem readVersion_stays (h : InVersion cs c) : Stays cs Prod.snd (readVersion c) := by
  have blanks : InVersion cs c.skipBlanks := h.span fun ch blank => .inl (beq_iff_eq.mp blank)
  obtain ⟨stays, inside⟩ := readVersionNumber_stays blanks
  unfold readVersion
  cases major : readVersionNumber c.skipBlanks with
  | error r => exact ⟨fun _ read => (nomatch read), .error (stays.fails r major)⟩
  | ok read =>
      obtain ⟨n, next⟩ := read
      simp only [bind, Except.bind]
      split
      · exact .malformed _
      · next point =>
        have behind := inside n next major
        have dot : InVersion cs next.advance := by
          simp only [bne_iff_ne, ne_eq, Decidable.not_not, Cursor.peek] at point
          obtain ⟨rest, ahead⟩ := List.head?_eq_some_iff.mp point
          refine behind.on ['.'] ?_ fun ch hch => .inr (.inl (List.mem_singleton.mp hch))
          rw [advance_rest ahead]
          exact ahead
        refine (readVersionNumber_stays dot).1.bind fun ⟨minor, next⟩ after => ?_
        simp only []
        split
        · exact .ok after
        · exact .malformed _

theorem readHandleDirective_stays (h : c.Within cs) :
    Stays cs Prod.snd (readHandleDirective c) := by
  refine (readHandle_stays h.skipBlanks).bind fun ⟨handle, next⟩ after => ?_
  simp only []
  split
  · exact .malformed _
  · refine (readUri_stays after.skipBlanks).bind fun ⟨target, next⟩ after => ?_
    simp only []
    split
    · exact .ok after
    · exact .malformed _

theorem readDirective_stays (h : c.Within cs) : Stays cs Prod.snd (readDirective c) := by
  have name : (c.advance.span isNameChar).2.Within cs := h.advance.span _
  unfold readDirective
  simp only []
  split
  · exact .malformed _
  · split
    · next yaml =>
      have version : InVersion cs (c.advance.span isNameChar).2 := by
        obtain ⟨before, same⟩ := h.advance
        refine ⟨before, [], ?_, fun ch hch => (nomatch hch)⟩
        rw [← same, List.nil_append, ← eq_of_beq yaml, ← span_rest]
      refine (readVersion_stays version).bind fun r after => ?_
      exact (restOfLine_stays after).bind fun next after => .ok after
    · split
      · refine (readHandleDirective_stays name).bind fun r after => ?_
        exact (restOfLine_stays after).bind fun next after => .ok after
      · exact (restOfLine_stays (name.skipWhile _)).bind fun next after => .ok after

/-! ## Texts of scalars -/

theorem quotedBreaks_stays (fuel : Nat) (h : c.Within cs) :
    Stays cs Prod.snd (quotedBreaks fuel c) := by
  induction fuel generalizing c with
  | zero => exact .ok h
  | succ fuel ih =>
      unfold quotedBreaks
      split
      · exact .malformed _
      · have blanks : (c.skipWhile fun ch => ch == ' ' || ch == '\t').Within cs := h.skipWhile _
        simp only []
        split
        · next ch next found => exact (ih (blanks.lineBreak found)).map fun r after => after
        · exact .ok blanks

theorem quotedBlanks_stays (h : c.Within cs) : Stays cs Prod.snd (quotedBlanks c) := by
  have blanks : (c.span fun ch => ch == ' ' || ch == '\t').2.Within cs := h.span _
  unfold quotedBlanks
  simp only []
  split
  · next ch next found =>
    exact (quotedBreaks_stays _ (blanks.lineBreak found)).map fun r after => after
  · split
    · exact .malformed _
    · exact .ok blanks

theorem hexValue?_lt {ch : Char} {n : Nat} (h : hexValue? ch = some n) : n < 16 := by
  unfold hexValue? at h
  simp only [Char.isDigit, Char.le_def, UInt32.le_iff_toNat_le, ge_iff_le, Bool.and_eq_true,
    decide_eq_true_eq, Char.toNat] at h
  have zero : ('0' : Char).val.toNat = 48 := rfl
  have nine : ('9' : Char).val.toNat = 57 := rfl
  have small : ('a' : Char).val.toNat = 97 := rfl
  have smallLast : ('f' : Char).val.toNat = 102 := rfl
  have capital : ('A' : Char).val.toNat = 65 := rfl
  have capitalLast : ('F' : Char).val.toNat = 70 := rfl
  split at h
  · cases h
    omega
  · split at h
    · cases h
      omega
    · split at h
      · cases h
        omega
      · cases h

theorem hexNumber?_lt {ds : List Char} {n : Nat} (h : hexNumber? ds = some n) :
    n < 16 ^ ds.length := by
  have from' : ∀ start, ds.foldlM (fun n c => (hexValue? c).map fun d => n * 16 + d) start = some n →
      n < (start + 1) * 16 ^ ds.length := by
    clear h
    induction ds with
    | nil =>
        rintro start ⟨⟩
        simp
    | cons c ds ih =>
        intro start h
        obtain ⟨next, read, h⟩ := Option.bind_eq_some_iff.mp h
        obtain ⟨d, digit, rfl⟩ := Option.map_eq_some_iff.mp read
        have small := hexValue?_lt digit
        calc n < (start * 16 + d + 1) * 16 ^ ds.length := ih _ h
          _ ≤ ((start + 1) * 16) * 16 ^ ds.length := Nat.mul_le_mul_right _ (by omega)
          _ = (start + 1) * 16 ^ (c :: ds).length := by rw [Nat.mul_assoc, List.length_cons, Nat.pow_succ']
  simpa using from' 0 h

/-- The longest escape, and the only one that reaches beyond the last character. -/
theorem eq_of_beyond {ch : Char} {length n : Nat} {digits : List Char}
    (letter : escapeLength? ch = some length) (full : digits.length = length)
    (read : hexNumber? digits = some n) (beyond : 0x10FFFF < n) : ch = 'U' ∧ length = 8 := by
  have bound := hexNumber?_lt read
  unfold escapeLength? at letter
  split at letter
  · cases letter
    rw [full] at bound
    omega
  · cases letter
    rw [full] at bound
    omega
  · cases letter
    exact ⟨rfl, rfl⟩
  · cases letter

/-- An escape is refused for its number only if that is beyond the last character. -/
theorem readEscape_stays (h : c.Within cs) (after : '\\' :: c.rest <:+ cs) :
    Stays cs Prod.snd (readEscape c) := by
  unfold readEscape
  split
  · exact .malformed _
  · next ch rest same =>
    split
    · exact .ok h.advance
    · next length _ letter =>
      simp only []
      split
      · exact .malformed _
      · next n read =>
        split at read
        · cases read
        · next enough =>
          unfold numberedChar
          split
          · next beyond =>
            have full : (rest.take length).length = length := by
              rw [List.length_take] at enough ⊢
              omega
            obtain ⟨rfl, rfl⟩ := eq_of_beyond letter full read beyond
            refine ⟨fun _ h => (nomatch h), .error (.inr ⟨rfl, .inl ?_⟩)⟩
            rw [same] at after
            obtain ⟨before, rfl⟩ := after
            refine ⟨before, rest.take 8, rest.drop 8, n, ?_, full, read, beyond⟩
            rw [List.take_append_drop]
          · split
            · exact .ok (h.skip _)
            · exact .ok (h.skip _)
    · split
      · next next found => exact quotedBreaks_stays _ (h.lineBreak found)
      · exact .malformed _

theorem quotedText_stays (fuel : Nat) (quote : Char) (h : c.Within cs) :
    Stays cs Prod.snd (quotedText fuel quote c) := by
  induction fuel generalizing c with
  | zero => exact .malformed _
  | succ fuel ih =>
      unfold quotedText
      split
      · exact .malformed _
      · next ch rest same =>
        split
        · split
          · exact (ih (h.skip 2)).map fun r after => after
          · exact .ok h.advance
        · split
          · next escaped =>
            have backslash : ch = '\\' := by
              rw [Bool.and_eq_true] at escaped
              exact eq_of_beq escaped.1
            have behind : '\\' :: c.advance.rest <:+ cs := by
              rw [advance_rest same, ← backslash, ← same]
              exact h
            refine (readEscape_stays h.advance behind).bind fun r after => ?_
            exact (ih after).bind fun r after => .ok after
          · split
            · refine (quotedBlanks_stays h).bind fun r after => ?_
              exact (ih after).bind fun r after => .ok after
            · exact (ih h.advance).map fun r after => after

theorem readQuoted_stays (quote : Char) (h : c.Within cs) :
    Stays cs Prod.snd (readQuoted quote c) :=
  (quotedText_stays _ quote h.advance).map fun _ after => after

theorem indentDigit?_fails (ch : Option Char) : FailsAs Refusal.IsMalformed (indentDigit? ch) := by
  unfold indentDigit?
  split
  · split
    · exact malformed_fails _
    · split
      · exact .ok _
      · exact .ok _
  · exact .ok none

theorem blockHeader_stays (h : c.Within cs) : Stays cs (fun r => r.2.2) (blockHeader c) := by
  unfold blockHeader
  split
  · refine .check (indentDigit?_fails _) fun digit => .ok ?_
    simp only []
    split
    · exact h.advance.advance
    · exact h.advance
  · refine .check (indentDigit?_fails _) fun digit => ?_
    split
    · exact .ok h
    · split
      · exact .ok h.advance.advance
      · exact .ok h.advance

theorem skipIndent_within (fuel column : Nat) (h : c.Within cs) :
    (skipIndent fuel column c).Within cs := by
  induction fuel generalizing c with
  | zero => exact h
  | succ fuel ih =>
      unfold skipIndent
      split
      · exact ih h.advance
      · exact h

theorem blockBreaks_within (fuel column : Nat) (h : c.Within cs) :
    (blockBreaks fuel column c).2.Within cs := by
  induction fuel generalizing c with
  | zero => exact skipIndent_within column column h
  | succ fuel ih =>
      have indented := skipIndent_within column column h
      unfold blockBreaks
      simp only []
      split
      · next found => exact ih (indented.lineBreak found)
      · exact indented

theorem leadingBreaks_within (fuel deepest : Nat) (h : c.Within cs) :
    (leadingBreaks fuel deepest c).2.2.Within cs := by
  induction fuel generalizing c deepest with
  | zero => exact h
  | succ fuel ih =>
      unfold leadingBreaks
      split
      · next found => exact ih _ (h.lineBreak found)
      · split
        · exact ih _ h.advance
        · exact h

theorem blockLines_within (fuel : Nat) (folded : Bool) (column : Nat) (breaks : List Char)
    (h : c.Within cs) : (blockLines fuel folded column breaks c).2.2.2.Within cs := by
  induction fuel generalizing c breaks with
  | zero => exact h
  | succ fuel ih =>
      unfold blockLines
      split
      · exact h
      · have line : (c.span fun ch => !isBreak ch).2.Within cs := h.span _
        simp only []
        split
        · next ch after found =>
          have next := blockBreaks_within after.rest.length column (line.lineBreak found)
          split
          · exact ih _ next
          · exact next
        · have next := blockBreaks_within (c.span fun ch => !isBreak ch).2.rest.length column line
          split
          · exact ih _ next
          · exact next

theorem readBlock_stays (folded : Bool) (indent : Int) (h : c.Within cs) :
    Stays cs Prod.snd (readBlock folded indent c) := by
  refine (blockHeader_stays h.advance).bind fun ⟨chomp, digit, next⟩ header => ?_
  simp only []
  split
  · exact .malformed _
  · refine (restOfLine_stays header).bind fun next after => ?_
    refine .ok (blockLines_within _ _ _ _ ?_)
    cases digit with
    | some n => exact blockBreaks_within _ _ after
    | none => exact leadingBreaks_within _ _ after

theorem plainBreaks_within (fuel : Nat) (h : c.Within cs) : (plainBreaks fuel c).2.Within cs := by
  induction fuel generalizing c with
  | zero => exact h
  | succ fuel ih =>
      unfold plainBreaks
      split
      · exact ih h.advance
      · split
        · exact h
        · next found =>
          have after := h.lineBreak found
          split
          · exact after
          · exact ih after

theorem plainGap_within (h : c.Within cs) : (plainGap c).after.Within cs := by
  have blanks : (c.span (· == ' ')).2.Within cs := h.span _
  unfold plainGap
  simp only []
  split
  · exact blanks
  · next ch next found =>
    have after := blanks.lineBreak found
    have breaks := plainBreaks_within next.rest.length.succ after
    split
    · exact after
    · split
      · next same =>
        rw [same] at breaks
        exact breaks
      · next same =>
        rw [same] at breaks
        exact breaks

theorem plainWords_within (fuel : Nat) (inFlow : Bool) (indent : Int) (h : c.Within cs) :
    (plainWords fuel inFlow indent c).2.2.Within cs := by
  induction fuel generalizing c with
  | zero => exact h
  | succ fuel ih =>
      have gap := plainGap_within (h.skip (plainWord inFlow c.rest).length)
      unfold plainWords
      simp only []
      split
      · exact gap
      · exact ih gap

theorem readPlain_within (inFlow : Bool) (indent : Int) (h : c.Within cs) :
    (readPlain inFlow indent c).2.2.Within cs := plainWords_within _ _ _ h

end SdkBlueprint.Document.Yaml
