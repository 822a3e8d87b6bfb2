import SdkBlueprint.Document.Yaml.Lexer
import SdkBlueprint.Proofs.Document.YamlCursor

/-! Tokens of a YAML text. The lexer never leaves the text, so that its refusals, too, are those
of the text. -/
namespace SdkBlueprint.Document.Yaml
namespace Lexer

variable {cs : List Char} {l : Lexer}

theorem skipToToken_within (fuel : Nat) (h : l.cursor.Within cs) :
    (skipToToken fuel l).cursor.Within cs := by
  induction fuel generalizing l with
  | zero => exact h
  | succ fuel ih =>
      have after := h.skipBlanks.skipComment
      unfold skipToToken
      simp only []
      split
      · next found => exact ih (after.lineBreak found)
      · exact after

@[simp] theorem cursor_unwindFrom (column : Int) (outer : List Int) :
    (unwindFrom column l outer).cursor = l.cursor := by
  induction outer generalizing l with
  | nil => rfl
  | cons o rest ih =>
      unfold unwindFrom
      split
      · exact ih
      · rfl

@[simp] theorem cursor_unwind (column : Int) : (l.unwind column).cursor = l.cursor := by
  unfold unwind
  split
  · rfl
  · exact cursor_unwindFrom _ _

@[simp] theorem cursor_openBlock (column : Nat) (t : Token) :
    (l.openBlock column t).cursor = l.cursor := by
  unfold openBlock
  split <;> rfl

theorem dropStale_stays (h : l.cursor.Within cs) : Stays cs cursor l.dropStale := by
  refine .check (FailsAs.mapM fun key _ => ?_) fun keys => .ok h
  split
  · split
    · split
      · exact malformed_fails _
      · exact .ok none
    · exact .ok _
  · exact .ok none

theorem dropKey_stays (h : l.cursor.Within cs) : Stays cs cursor l.dropKey := by
  unfold dropKey
  split
  · exact .malformed _
  · exact .ok h

theorem noteKey_stays (h : l.cursor.Within cs) : Stays cs cursor l.noteKey := by
  unfold noteKey
  split
  · exact (dropKey_stays h).bind fun l h => .ok h
  · exact .ok h

theorem closeAll_stays (h : l.cursor.Within cs) : Stays cs cursor l.closeAll := by
  refine (dropKey_stays ?_).bind fun l h => .ok h
  rw [cursor_unwind]
  exact h

theorem marker_stays (t : Token) (h : l.cursor.Within cs) : Stays cs cursor (l.marker t) :=
  (closeAll_stays h).bind fun _ h => .ok (h.skip 3)

theorem directive_stays (h : l.cursor.Within cs) : Stays cs cursor l.directive := by
  refine (closeAll_stays h).bind fun l h => ?_
  exact (readDirective_stays h).bind fun r after => .ok after

theorem openFlow_stays (t : Token) (h : l.cursor.Within cs) : Stays cs cursor (l.openFlow t) :=
  (noteKey_stays h).bind fun _ h => .ok h.advance

theorem closeFlow_stays (t : Token) (h : l.cursor.Within cs) : Stays cs cursor (l.closeFlow t) := by
  refine (dropKey_stays h).bind fun l h => ?_
  split
  · exact .ok h.advance
  · exact .malformed _

theorem indicator_stays (allowed : Bool) (t : Token) (h : l.cursor.Within cs) :
    Stays cs cursor ((l.allowKey allowed).dropKey >>= fun l => pure (l.single t)) :=
  (dropKey_stays (l := l.allowKey allowed) h).bind fun _ h => .ok h.advance

theorem flowEntry_stays (h : l.cursor.Within cs) : Stays cs cursor l.flowEntry :=
  indicator_stays true .flowEntry h

/-- An indicator that is refused where it must not stand. -/
theorem guarded_stays {refused : Bool} {reason : String} {rest : Scan Lexer}
    (h : Stays cs cursor rest) :
    Stays cs cursor (if refused then (malformed reason : Scan Unit) >>= fun _ => rest else rest) := by
  split
  · exact .malformed _
  · exact h

/-- In a block such an indicator may open a collection, in a flow it does not. -/
theorem opened_within {column : Nat} {t : Token} (h : l.cursor.Within cs) :
    (if l.inFlow then l else l.openBlock column t).cursor.Within cs := by
  split
  · exact h
  · rw [cursor_openBlock]
    exact h

theorem blockEntry_stays (h : l.cursor.Within cs) : Stays cs cursor l.blockEntry := by
  unfold blockEntry
  simp only []
  refine guarded_stays ?_
  exact indicator_stays _ _ (opened_within h)

theorem explicitKey_stays (h : l.cursor.Within cs) : Stays cs cursor l.explicitKey := by
  unfold explicitKey
  simp only []
  refine guarded_stays ?_
  exact indicator_stays _ _ (opened_within h)

theorem bareValue_stays (h : l.cursor.Within cs) : Stays cs cursor l.bareValue := by
  unfold bareValue
  simp only []
  refine guarded_stays ?_
  exact indicator_stays _ _ (opened_within h)

theorem value_stays (h : l.cursor.Within cs) : Stays cs cursor l.value := by
  unfold value
  split
  · refine .ok ?_
    unfold valueOf
    simp only []
    split
    · exact h.advance
    · exact h.advance
  · exact bareValue_stays h

theorem inlineToken_stays {read : Cursor → Scan (Token × Cursor)}
    (reads : ∀ c : Cursor, c.Within cs → Stays cs Prod.snd (read c)) (h : l.cursor.Within cs) :
    Stays cs cursor (l.inlineToken read) := by
  refine (noteKey_stays h).bind fun l h => ?_
  exact (reads _ h).bind fun r after => .ok after

theorem quoted_stays (quote : Char) (h : l.cursor.Within cs) : Stays cs cursor (l.quoted quote) :=
  inlineToken_stays (fun _ h => (readQuoted_stays quote h).map fun _ after => after) h

theorem blockScalar_stays (folded : Bool) (h : l.cursor.Within cs) :
    Stays cs cursor (l.blockScalar folded) := by
  refine (dropKey_stays (l := l.allowKey true) h).bind fun l h => ?_
  exact (readBlock_stays folded _ h).bind fun r after => .ok after

theorem plain_stays (h : l.cursor.Within cs) : Stays cs cursor l.plain :=
  (noteKey_stays h).bind fun _ h => .ok (readPlain_within _ _ h)

theorem token_stays (c : Char) (h : l.cursor.Within cs) : Stays cs cursor (l.token c) := by
  have named : ∀ (t : String → Token) (c : Cursor), c.Within cs →
      Stays cs Prod.snd ((readName c).map fun r => (t r.1, r.2)) :=
    fun t c h => (readName_stays h).map fun r after => after
  have tagged : ∀ c : Cursor, c.Within cs →
      Stays cs Prod.snd ((readTag c).map fun r => (Token.tag r.1, r.2)) :=
    fun c h => (readTag_stays h).map fun r after => after
  unfold token
  simp only []
  split
  · exact directive_stays h
  split
  · exact marker_stays _ h
  split
  · exact marker_stays _ h
  split
  · exact openFlow_stays _ h
  · exact openFlow_stays _ h
  · exact closeFlow_stays _ h
  · exact closeFlow_stays _ h
  · exact flowEntry_stays h
  · exact inlineToken_stays (named _) h
  · exact inlineToken_stays (named _) h
  · exact inlineToken_stays tagged h
  · exact quoted_stays _ h
  · exact quoted_stays _ h
  split
  · exact blockEntry_stays h
  split
  · exact explicitKey_stays h
  split
  · exact value_stays h
  split
  · exact blockScalar_stays _ h
  split
  · exact blockScalar_stays _ h
  split
  · exact plain_stays h
  · exact .malformed _

theorem step_stays (fuel : Nat) (h : l.cursor.Within cs) :
    Stays cs (fun r => r.1.cursor) (l.step fuel) := by
  refine (dropStale_stays (skipToToken_within fuel h)).bind fun l h => ?_
  have unwound : (l.unwind l.cursor.column).cursor.Within cs := by
    rw [cursor_unwind]
    exact h
  simp only []
  split
  · exact (closeAll_stays unwound).bind fun l h => .ok h
  · exact (token_stays _ unwound).bind fun l h => .ok h

/-- Every step stays within the text, and so do all of them together. -/
theorem run_refuses (fuel : Nat) (h : l.cursor.Within cs) {r : Refusal}
    (refused : (run fuel l).refusal = some r) : Refuses cs r := by
  induction fuel generalizing l with
  | zero => cases refused
  | succ fuel ih =>
      have step := step_stays (fuel + 1) h
      unfold run at refused
      split at refused
      · next refusal failed =>
        cases refused
        exact step.fails _ failed
      · next l' went => exact ih (step.within _ went) refused
      · cases refused

end Lexer

/-- A text whose tokens cannot be read is no YAML, or it escapes a number of no character. -/
theorem tokens_refuse {text : String} {r : Refusal} (refused : (tokens text).refusal = some r) :
    Refuses text.toList r := by
  unfold tokens at refused
  split at refused
  · exact Lexer.run_refuses _ (.start _) refused
  · cases refused
    exact .inl ⟨_, rfl⟩

end SdkBlueprint.Document.Yaml
