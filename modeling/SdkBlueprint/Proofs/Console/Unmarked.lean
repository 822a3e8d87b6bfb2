import SdkBlueprint.Blueprint.TypeExpr
import SdkBlueprint.Proofs.Console.Escaping

/-! Texts in which nothing is markup. They are shown as they are; of any other text something is
taken for a tag or for the name of a pictograph. -/
namespace SdkBlueprint.Console

variable {cs : List Char}

/-- No tag begins in the text, no backslash stands before a bracket, no pictograph is named, and
every character is shown. -/
structure Unmarked (cs : List Char) : Prop where
  untagged : ∀ s, s <:+ cs → slashedTag? s = none
  unslashed : unslashed cs = cs
  unnamed : withPictures cs = cs
  shown : ∀ c ∈ cs, isShown c

theorem piecesFrom_untagged (untagged : ∀ s, s <:+ cs → slashedTag? s = none) {fuel : Nat}
    (enough : cs.length ≤ fuel) : piecesFrom fuel cs = if cs = [] then [] else [.plain cs] := by
  induction cs generalizing fuel with
  | nil => cases fuel <;> rfl
  | cons c cs ih =>
      obtain ⟨n, rfl⟩ : ∃ n, fuel = n + 1 := ⟨fuel - 1, by simp at enough; omega⟩
      have later : ∀ s, s <:+ cs → slashedTag? s = none :=
        fun s hs => untagged s (hs.trans (List.suffix_cons c cs))
      rw [piecesFrom, untagged _ List.suffix_rfl, ih later (Nat.le_of_succ_le_succ enough)]
      cases cs <;> rfl

/-- What is no markup is shown unchanged. -/
theorem Unmarked.shownText (h : Unmarked cs) : shownText cs = .ok cs := by
  rw [Console.shownText, pieces, piecesFrom_untagged h.untagged (Nat.le_refl _)]
  cases cs with
  | nil => rfl
  | cons c cs =>
      have all : (c :: cs).filter isShown = c :: cs := List.filter_eq_self.mpr h.shown
      simp only [List.cons_ne_nil, if_false, readPieces, h.unslashed, h.unnamed, Except.map,
        List.append_nil, all]

/-- No opening bracket is the last character, or before one that begins a tag, or after a backslash,
and colons are not there at all. -/
inductive Bare : List Char → Prop
  | nil : Bare []
  | bracket {c rest} : beginsTag c = false → Bare (c :: rest) → Bare ('[' :: c :: rest)
  | slash {c rest} : c ≠ '[' → Bare (c :: rest) → Bare ('\\' :: c :: rest)
  | plain {c rest} : c ≠ '[' → c ≠ '\\' → c ≠ ':' → isShown c → Bare rest → Bare (c :: rest)

theorem unslashed_cons {c : Char} (keeps : c = '\\' → ∀ rest, cs ≠ '[' :: rest) :
    unslashed (c :: cs) = c :: unslashed cs := by
  rw [unslashed]
  rintro rest rfl same
  exact keeps rfl rest same

namespace Bare

theorem of_plain (h : cs.all fun c => c != '[' && c != '\\' && c != ':' && isShown c) :
    Bare cs := by
  induction cs with
  | nil => exact .nil
  | cons c cs ih =>
      simp only [List.all_cons, Bool.and_eq_true, bne_iff_ne] at h
      obtain ⟨⟨⟨⟨bracket, slash⟩, colon⟩, shown⟩, later⟩ := h
      exact .plain bracket slash colon shown (ih (by simpa using later))

theorem append {ds : List Char} (h : Bare cs) (hd : Bare ds) : Bare (cs ++ ds) := by
  induction h with
  | nil => exact hd
  | bracket free _ ih => exact .bracket free ih
  | slash bracket _ ih => exact .slash bracket ih
  | plain bracket slash colon shown _ ih => exact .plain bracket slash colon shown ih

theorem no_colon (h : Bare cs) : ':' ∉ cs := by
  induction h with
  | nil => simp
  | bracket _ _ ih => simpa using ih
  | slash _ _ ih => simpa using ih
  | plain _ _ colon _ _ ih => simpa [Ne.symm colon] using ih

theorem untagged (h : Bare cs) : ∀ s, s <:+ cs → slashedTag? s = none := by
  induction h with
  | nil =>
      intro s hs
      rw [List.suffix_nil.mp hs]
      rfl
  | bracket free _ ih =>
      intro s hs
      rcases List.suffix_cons_iff.mp hs with rfl | hs
      · rw [slashedTag?_bracket, tag?, if_neg (Bool.eq_false_iff.mp free)]
        rfl
      · exact ih s hs
  | slash _ _ ih =>
      intro s hs
      rcases List.suffix_cons_iff.mp hs with rfl | hs
      · rw [slashedTag?_slash, ih _ List.suffix_rfl]
        rfl
      · exact ih s hs
  | plain bracket slash _ _ _ ih =>
      intro s hs
      rcases List.suffix_cons_iff.mp hs with rfl | hs
      · exact slashedTag?_other slash bracket _
      · exact ih s hs

theorem unslashed (h : Bare cs) : unslashed cs = cs := by
  induction h with
  | nil => rfl
  | bracket _ _ ih => rw [unslashed_cons fun same => absurd same (by decide), ih]
  | slash bracket _ ih =>
      rw [unslashed_cons fun _ _ same => bracket (List.cons.inj same).1, ih]
  | plain _ slash _ _ _ ih => rw [unslashed_cons fun same => absurd same slash, ih]

theorem shown (h : Bare cs) : ∀ c ∈ cs, isShown c := by
  induction h with
  | nil => simp
  | bracket _ _ ih => exact List.forall_mem_cons.mpr ⟨rfl, ih⟩
  | slash _ _ ih => exact List.forall_mem_cons.mpr ⟨rfl, ih⟩
  | plain _ _ _ shown _ ih => exact List.forall_mem_cons.mpr ⟨shown, ih⟩

theorem unmarked (h : Bare cs) : Unmarked cs :=
  ⟨h.untagged, h.unslashed, withPictures_of_no_colon h.no_colon, h.shown⟩

end Bare

theorem untilClosed_free {body rest : List Char} (free : ∀ c ∈ body, c ≠ '[' ∧ c ≠ ']') :
    untilClosed (body ++ ']' :: rest) = some (body, rest) := by
  induction body with
  | nil => rfl
  | cons c body ih =>
      obtain ⟨⟨opening, closing⟩, later⟩ := List.forall_mem_cons.mp free
      simp [untilClosed, opening, closing, ih later]

theorem piecesFrom_word {word : List Char} (plain : ∀ c ∈ word, c ≠ '\\' ∧ c ≠ '[') (fuel : Nat)
    (rest : List Char) :
    piecesFrom (fuel + word.length) (word ++ rest) = word.foldr addChar (piecesFrom fuel rest) := by
  induction word with
  | nil => rfl
  | cons c word ih =>
      obtain ⟨⟨slash, bracket⟩, later⟩ := List.forall_mem_cons.mp plain
      rw [List.length_cons, ← Nat.add_assoc, List.cons_append, piecesFrom,
        slashedTag?_other slash bracket, ih later, List.foldr_cons]

/-- Of a dictionary nothing is shown but the word for it: the rest is taken for a tag. -/
theorem shownText_dictionary {body : List Char} (free : ∀ c ∈ body, c ≠ '[' ∧ c ≠ ']') :
    shownText (TypeExpr.markChars false true body) = .ok "dict".toList := by
  obtain ⟨content, named⟩ : ∃ content, content = "tr, ".toList ++ body := ⟨_, rfl⟩
  have text : TypeExpr.markChars false true body = "dict".toList ++ written ('s' :: content) := by
    simp [TypeExpr.markChars, written, named]
  have closed : untilClosed (content ++ [']']) = some (content, []) := by
    refine untilClosed_free fun c hc => ?_
    rw [named] at hc
    rcases List.mem_append.mp hc with hc | hc
    · have each : ∀ c ∈ "tr, ".toList, c ≠ '[' ∧ c ≠ ']' := by simp
      exact each c hc
    · exact free c hc
  have known : tag? ('s' :: content ++ [']']) = some ('s' :: content, []) := by
    rw [List.cons_append, tag?, closed]
    rfl
  have found : slashedTag? (written ('s' :: content)) = some (0, 's' :: content, []) := by
    simpa using slashedTag?_written known 0 []
  have parts : pieces ("dict".toList ++ written ('s' :: content)) =
      [.plain "dict".toList, .tag 0 ('s' :: content)] := by
    have word : ∀ c ∈ "dict".toList, c ≠ '\\' ∧ c ≠ '[' := by simp
    rw [pieces, List.length_append, Nat.add_comm, piecesFrom_word word]
    have last : piecesFrom (written ('s' :: content)).length (written ('s' :: content)) =
        [.tag 0 ('s' :: content)] := by
      rw [written, List.length_append, List.length_singleton, ← written, piecesFrom_tag found]
      cases ('[' :: 's' :: content).length <;> rfl
    rw [last]
    rfl
  have applied : applyTag [] ('s' :: content) = .ok [styleName (tagName ('s' :: content))] := by
    have name : tagName ('s' :: content) = 's' :: tagName content := rfl
    rw [applyTag, name]
    rfl
  have dropped : readPieces [] [.tag 0 ('s' :: content)] = .ok [] := by
    rw [readPieces, applied]
    rfl
  have word : withPictures (unslashed "dict".toList) = "dict".toList :=
    withPictures_of_no_colon (by decide)
  rw [text, shownText, parts, readPieces, dropped, word]
  rfl

end SdkBlueprint.Console
