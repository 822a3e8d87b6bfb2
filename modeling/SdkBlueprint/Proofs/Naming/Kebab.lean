import SdkBlueprint.Proofs.Naming.Casing

/-! Kebab case. The three rules that put hyphens do not get in each other's way: together they look
at each character and what follows it, once, so that the hyphens between two letters are told by
the text around them. -/
namespace SdkBlueprint.Naming

variable {cs rest : List Char} {c d : Char}

/-- The ASCII letters and digits of a text, in order. -/
def letters (cs : List Char) : List Char := cs.filter isWordChar

/-- One hyphen, or none. -/
def mark (hyphen : Bool) : List Char := if hyphen then ['-'] else []

/-- The last capital of several comes next, with a small letter behind it. -/
def endsAcronym (c : Char) : List Char → Bool
  | d :: e :: _ => c.isUpper && d.isUpper && e.isLower
  | _ => false

/-- A capital comes next, behind a small letter or a digit. -/
def endsHump (c : Char) (rest : List Char) : Bool :=
  (c.isLower || c.isDigit) && rest.head?.any Char.isUpper

/-- A word ends within a run of letters and digits. -/
def endsWord (c : Char) (rest : List Char) : Bool := endsAcronym c rest || endsHump c rest

section Rules

theorem not_isDigit_of_isUpper (capital : c.isUpper = true) : ¬ c.isDigit := by
  intro digit
  simp only [Char.isDigit, Char.isUpper, Bool.and_eq_true, decide_eq_true_eq,
    UInt32.le_iff_toNat_le, ge_iff_le] at digit capital
  simp at digit capital
  omega

theorem endsAcronym_of_small (small : c.isUpper = false) (rest : List Char) :
    endsAcronym c rest = false := by
  unfold endsAcronym
  split
  · rw [small, Bool.false_and, Bool.false_and]
  · rfl

theorem hyphenateAcronyms_of_free (free : endsAcronym c rest = false) :
    hyphenateAcronyms (c :: rest) = c :: hyphenateAcronyms rest := by
  match rest, free with
  | [], _ => rfl
  | [d], _ => rfl
  | d :: e :: more, free =>
      rw [hyphenateAcronyms]
      exact if_neg (ne_true_of_eq_false free)

/-- A capital and the small letter behind it begin no place for the rule, so that the rule misses
none where it passes over them. -/
theorem hyphenateAcronyms_cons (c : Char) (rest : List Char) :
    hyphenateAcronyms (c :: rest) = c :: (mark (endsAcronym c rest) ++ hyphenateAcronyms rest) := by
  cases ends : endsAcronym c rest with
  | false => exact hyphenateAcronyms_of_free ends
  | true =>
      match rest, ends with
      | d :: e :: more, ends =>
          have small : e.isLower = true := (Bool.and_eq_true_iff.mp ends).2
          have none := eq_false_of_ne_true (Char.not_isUpper_of_isLower small)
          have second : endsAcronym d (e :: more) = false := by
            cases more with
            | nil => rfl
            | cons f more => rw [endsAcronym, none, Bool.and_false, Bool.false_and]
          rw [hyphenateAcronyms_of_free second,
            hyphenateAcronyms_of_free (endsAcronym_of_small none more), hyphenateAcronyms]
          exact if_pos ends

theorem endsHump_nil (c : Char) : endsHump c [] = false := Bool.and_false _

theorem hyphenateHumps_of_free (free : endsHump c rest = false) :
    hyphenateHumps (c :: rest) = c :: hyphenateHumps rest := by
  cases rest with
  | nil => rfl
  | cons d more =>
      rw [hyphenateHumps]
      exact if_neg (ne_true_of_eq_false free)

theorem endsHump_of_capital (capital : c.isUpper = true) (rest : List Char) :
    endsHump c rest = false := by
  rw [endsHump, eq_false_of_ne_true (Char.not_isLower_of_isUpper capital),
    eq_false_of_ne_true (not_isDigit_of_isUpper capital), Bool.or_self, Bool.false_and]

theorem hyphenateHumps_cons (c : Char) (rest : List Char) :
    hyphenateHumps (c :: rest) = c :: (mark (endsHump c rest) ++ hyphenateHumps rest) := by
  cases ends : endsHump c rest with
  | false => exact hyphenateHumps_of_free ends
  | true =>
      cases rest with
      | nil => cases (endsHump_nil c).symm.trans ends
      | cons d more =>
          have capital : d.isUpper = true := (Bool.and_eq_true_iff.mp ends).2
          rw [hyphenateHumps_of_free (endsHump_of_capital capital more), hyphenateHumps]
          exact if_pos ends

theorem head?_hyphenateAcronyms (cs : List Char) : (hyphenateAcronyms cs).head? = cs.head? := by
  cases cs with
  | nil => rfl
  | cons c rest => rw [hyphenateAcronyms_cons]; rfl

theorem head?_hyphenateHumps (cs : List Char) : (hyphenateHumps cs).head? = cs.head? := by
  cases cs with
  | nil => rfl
  | cons c rest => rw [hyphenateHumps_cons]; rfl

theorem startsGap_eq_of_head? {cs cs' : List Char} (same : cs.head? = cs'.head?) :
    startsGap cs = startsGap cs' := by
  cases cs <;> cases cs' <;> simp_all [startsGap]

end Rules

/-- The text after the rules for words. -/
def wordwise (cs : List Char) : List Char := hyphenateHumps (hyphenateAcronyms cs)

/-- The text after all rules. -/
def hyphenated (cs : List Char) : List Char := hyphenateGaps (wordwise cs)

/-- What becomes of one character before what follows it. -/
def hyphenatedChar (c : Char) (rest : List Char) : List Char :=
  if isWordChar c then c :: mark (endsWord c rest) else mark (!startsGap rest)

section Together

/-- The second rule sees the text as it was, since the first one puts its hyphens elsewhere. -/
theorem wordwise_cons (c : Char) (rest : List Char) :
    wordwise (c :: rest) = c :: (mark (endsWord c rest) ++ wordwise rest) := by
  have acronyms := hyphenateAcronyms_cons c rest
  cases ends : endsAcronym c rest with
  | true =>
      have capital : c.isUpper = true := by
        by_contra other
        rw [endsAcronym_of_small (eq_false_of_ne_true other)] at ends
        cases ends
      rw [ends] at acronyms
      rw [wordwise, acronyms, endsWord, ends, Bool.true_or]
      change hyphenateHumps (c :: '-' :: hyphenateAcronyms rest) = c :: '-' :: wordwise rest
      rw [hyphenateHumps_of_free (endsHump_of_capital capital _), hyphenateHumps_of_free rfl,
        wordwise]
  | false =>
      rw [ends] at acronyms
      rw [wordwise, acronyms, endsWord, ends, Bool.false_or]
      change hyphenateHumps (c :: hyphenateAcronyms rest) = _
      rw [hyphenateHumps_cons, endsHump, head?_hyphenateAcronyms]
      rfl

theorem startsGap_wordwise (cs : List Char) : startsGap (wordwise cs) = startsGap cs :=
  startsGap_eq_of_head? ((head?_hyphenateHumps _).trans (head?_hyphenateAcronyms cs))

theorem isWordChar_of_isUpper (capital : c.isUpper = true) : isWordChar c = true := by
  rw [isWordChar, Char.isAlphanum, Char.isAlpha, capital, Bool.true_or, Bool.true_or]

/-- Where a word ends within a run, a capital comes next. -/
theorem capital_of_endsWord (ends : endsWord c rest = true) :
    ∃ d more, rest = d :: more ∧ d.isUpper = true := by
  rw [endsWord, Bool.or_eq_true] at ends
  rcases ends with ends | ends
  · match rest, ends with
    | d :: e :: more, ends =>
        rw [endsAcronym, Bool.and_eq_true, Bool.and_eq_true] at ends
        exact ⟨d, e :: more, rfl, ends.1.2⟩
  · cases rest with
    | nil => cases (endsHump_nil c).symm.trans ends
    | cons d more => exact ⟨d, more, rfl, (Bool.and_eq_true_iff.mp ends).2⟩

theorem isWordChar_of_endsWord (ends : endsWord c rest = true) : isWordChar c = true := by
  rw [endsWord, Bool.or_eq_true] at ends
  rcases ends with ends | ends
  · by_contra other
    have small : c.isUpper = false := by
      by_contra capital
      exact other (isWordChar_of_isUpper (eq_true_of_ne_false capital))
    rw [endsAcronym_of_small small] at ends
    cases ends
  · rw [endsHump, Bool.and_eq_true, Bool.or_eq_true] at ends
    rcases ends.1 with small | digit
    · rw [isWordChar, Char.isAlphanum, Char.isAlpha, small, Bool.or_true, Bool.true_or]
    · rw [isWordChar, Char.isAlphanum, digit, Bool.or_true]

theorem hyphenated_cons (c : Char) (rest : List Char) :
    hyphenated (c :: rest) = hyphenatedChar c rest ++ hyphenated rest := by
  rw [hyphenated, wordwise_cons, hyphenatedChar]
  by_cases word : isWordChar c = true
  · rw [if_pos word, hyphenateGaps, if_pos word]
    cases ends : endsWord c rest with
    | false => rfl
    | true =>
        obtain ⟨d, more, rfl, capital⟩ := capital_of_endsWord ends
        have closed : startsGap (wordwise (d :: more)) = false := by
          rw [startsGap_wordwise, startsGap, isWordChar_of_isUpper capital, Bool.not_true]
        change c :: hyphenateGaps ('-' :: wordwise (d :: more)) = c :: '-' :: hyphenated (d :: more)
        rw [hyphenateGaps, if_neg (by decide), if_neg (ne_true_of_eq_false closed), hyphenated]
  · have inside : endsWord c rest = false := by
      by_contra ends
      exact word (isWordChar_of_endsWord (eq_true_of_ne_false ends))
    rw [inside, if_neg word]
    change hyphenateGaps (c :: wordwise rest) = _
    rw [hyphenateGaps, if_neg word, startsGap_wordwise]
    cases startsGap rest <;> rfl

end Together

section Letters

theorem letters_append (xs ys : List Char) : letters (xs ++ ys) = letters xs ++ letters ys :=
  List.filter_append xs ys

theorem letters_hyphenatedChar (c : Char) (rest : List Char) :
    letters (hyphenatedChar c rest) = letters [c] := by
  have hyphen : ∀ b, letters (mark b) = [] := by decide
  unfold hyphenatedChar
  split
  · next word =>
    rw [← List.singleton_append, letters_append, hyphen, List.append_nil]
  · next gap =>
    rw [hyphen, letters, List.filter_cons_of_neg gap, List.filter_nil]

/-- What stands before a place decides nothing about what comes of the text from there on. -/
theorem hyphenated_append (before rest : List Char) :
    ∃ front, hyphenated (before ++ rest) = front ++ hyphenated rest ∧
      letters front = letters before := by
  induction before with
  | nil => exact ⟨[], rfl, rfl⟩
  | cons c before ih =>
      obtain ⟨front, made, same⟩ := ih
      refine ⟨hyphenatedChar c (before ++ rest) ++ front, ?_, ?_⟩
      · rw [List.cons_append, hyphenated_cons, made, List.append_assoc]
      · rw [letters_append, letters_hyphenatedChar, same, ← letters_append,
          List.singleton_append]

theorem letters_hyphenated (cs : List Char) : letters (hyphenated cs) = letters cs := by
  obtain ⟨front, made, same⟩ := hyphenated_append cs []
  rw [List.append_nil] at made
  rw [made, letters_append, same]
  exact List.append_nil _

end Letters

/-- A letter or digit `c` is apart from the next one `d`: something else is between them, or `d` is
a capital behind a small letter or digit, or the last capital of several before a small letter. -/
def Apart (c : Char) (between : List Char) (d : Char) (after : List Char) : Prop :=
  between ≠ [] ∨ (c.isLower ∨ c.isDigit) ∧ d.isUpper ∨
    c.isUpper ∧ d.isUpper ∧ ∃ e ∈ after.head?, e.isLower

instance (c : Char) (between : List Char) (d : Char) (after : List Char) :
    Decidable (Apart c between d after) :=
  inferInstanceAs (Decidable (between ≠ [] ∨ (c.isLower ∨ c.isDigit) ∧ d.isUpper ∨
    c.isUpper ∧ d.isUpper ∧ ∃ e ∈ after.head?, e.isLower))

section Separation

variable {between after : List Char}

theorem endsWord_iff : endsWord c (d :: after) = true ↔ Apart c [] d after := by
  have acronym : endsAcronym c (d :: after) = true ↔
      c.isUpper ∧ d.isUpper ∧ ∃ e ∈ after.head?, e.isLower := by
    cases after with
    | nil => simp [endsAcronym]
    | cons e more => simp [endsAcronym, and_assoc]
  rw [endsWord, Bool.or_eq_true, acronym, or_comm]
  simp [Apart, endsHump]

theorem hyphenated_gap (foreign : ∀ x ∈ between, isWordChar x = false) (some : between ≠ [])
    (word : isWordChar d = true) :
    hyphenated (between ++ d :: after) = '-' :: hyphenated (d :: after) := by
  induction between with
  | nil => exact absurd rfl some
  | cons x between ih =>
      have here := foreign x List.mem_cons_self
      rw [List.cons_append, hyphenated_cons, hyphenatedChar, if_neg (ne_true_of_eq_false here)]
      cases between with
      | nil =>
          rw [List.nil_append, startsGap, word]
          rfl
      | cons y between =>
          have next := foreign y (List.mem_cons_of_mem x List.mem_cons_self)
          rw [ih (fun z hz => foreign z (List.mem_cons_of_mem x hz)) (List.cons_ne_nil y between),
            List.cons_append, startsGap, next]
          rfl

/-- Between two letters or digits that follow one another there is a hyphen if they are apart, and
nothing if they are not. -/
theorem hyphenated_between (first : isWordChar c = true) (second : isWordChar d = true)
    (foreign : ∀ x ∈ between, isWordChar x = false) :
    hyphenated (c :: (between ++ d :: after)) =
      c :: (mark (Apart c between d after) ++ hyphenated (d :: after)) := by
  rw [hyphenated_cons, hyphenatedChar, if_pos first]
  cases between with
  | nil =>
      have same : endsWord c ([] ++ d :: after) = decide (Apart c [] d after) := by
        rw [List.nil_append, Bool.eq_iff_iff, endsWord_iff, decide_eq_true_iff]
      rw [same]
      rfl
  | cons x between =>
      have gap : endsWord c (x :: between ++ d :: after) = false := by
        by_contra ends
        obtain ⟨y, more, same, capital⟩ := capital_of_endsWord (eq_true_of_ne_false ends)
        cases same
        cases (foreign x List.mem_cons_self).symm.trans (isWordChar_of_isUpper capital)
      have apart : Apart c (x :: between) d after := .inl (List.cons_ne_nil x between)
      rw [gap, decide_eq_true apart, hyphenated_gap foreign (List.cons_ne_nil x between) second]
      rfl

end Separation

section Trimming

/-- The text without the hyphens at its end. -/
def trimHyphensEnd (cs : List Char) : List Char := (cs.reverse.dropWhile (· == '-')).reverse

theorem trimHyphensEnd_append (front : List Char) (word : c ≠ '-') (rest : List Char) :
    trimHyphensEnd (front ++ c :: rest) = front ++ c :: trimHyphensEnd rest := by
  have stop : (c :: front.reverse).dropWhile (· == '-') = c :: front.reverse :=
    List.dropWhile_cons_of_neg (by simpa using word)
  rw [trimHyphensEnd, trimHyphensEnd, List.reverse_append, List.reverse_cons, List.append_assoc,
    List.singleton_append, List.dropWhile_append]
  split
  · next none =>
    rw [List.isEmpty_iff.mp none, stop]
    simp
  · simp

theorem trimHyphensEnd_cons (word : c ≠ '-') (rest : List Char) :
    trimHyphensEnd (c :: rest) = c :: trimHyphensEnd rest := trimHyphensEnd_append [] word rest

theorem dropHyphens_append (word : c ≠ '-') (front rest : List Char) :
    (front ++ c :: rest).dropWhile (· == '-') = front.dropWhile (· == '-') ++ c :: rest := by
  rw [List.dropWhile_append]
  split
  · next none =>
    rw [List.isEmpty_iff.mp none, List.dropWhile_cons_of_neg (by simpa using word)]
    rfl
  · rfl

theorem letters_dropHyphens (cs : List Char) :
    letters (cs.dropWhile (· == '-')) = letters cs := by
  induction cs with
  | nil => rfl
  | cons c rest ih =>
      by_cases hyphen : c = '-'
      · subst hyphen
        exact ih
      · rw [List.dropWhile_cons_of_neg (by simpa using hyphen)]

theorem letters_trimHyphensEnd (cs : List Char) : letters (trimHyphensEnd cs) = letters cs := by
  have reversed : ∀ xs : List Char, letters xs.reverse = (letters xs).reverse :=
    fun xs => List.filter_reverse
  rw [trimHyphensEnd, reversed, letters_dropHyphens, reversed, List.reverse_reverse]

theorem letters_trimHyphens (cs : List Char) : letters (trimHyphens cs) = letters cs :=
  (letters_dropHyphens _).trans (letters_trimHyphensEnd cs)

/-- Trimming takes nothing from between two letters or digits. -/
theorem trimHyphens_around (first : c ≠ '-') (second : d ≠ '-') (front middle back : List Char) :
    ∃ front' back', trimHyphens (front ++ c :: (middle ++ d :: back)) =
        front' ++ c :: (middle ++ d :: back') ∧
      letters front' = letters front ∧ letters back' = letters back := by
  refine ⟨_, _, ?_, letters_dropHyphens front, letters_trimHyphensEnd back⟩
  rw [← List.cons_append, ← List.append_assoc]
  change (trimHyphensEnd _).dropWhile (· == '-') = _
  rw [trimHyphensEnd_append _ second, List.append_assoc, List.cons_append,
    dropHyphens_append first]

end Trimming

/-- Groups of small ASCII letters and digits, with single hyphens between them. -/
inductive Grouped : List Char → Prop
  | last {word : List Char} (some : word ≠ []) (small : ∀ c ∈ word, c.isLower ∨ c.isDigit) :
      Grouped word
  | more {word rest : List Char} (some : word ≠ []) (small : ∀ c ∈ word, c.isLower ∨ c.isDigit)
      (tail : Grouped rest) : Grouped (word ++ '-' :: rest)

namespace Grouped

theorem single (small : c.isLower ∨ c.isDigit) : Grouped [c] :=
  .last (List.cons_ne_nil c []) (by simpa using small)

theorem cons (small : c.isLower ∨ c.isDigit) (h : Grouped cs) : Grouped (c :: cs) := by
  cases h with
  | last some word => exact .last (List.cons_ne_nil c cs) (by simpa [small] using word)
  | @more group rest some word tail =>
      exact .more (List.cons_ne_nil c group) (by simpa [small] using word) tail

theorem hyphen (small : c.isLower ∨ c.isDigit) (h : Grouped cs) : Grouped (c :: '-' :: cs) := by
  have word : ∀ d ∈ [c], d.isLower ∨ d.isDigit := by simpa using small
  exact .more (List.cons_ne_nil c []) word h

theorem front (h : Grouped cs) : ∃ c rest, cs = c :: rest ∧ (c.isLower ∨ c.isDigit) := by
  cases h with
  | last some small =>
      obtain ⟨c, rest, rfl⟩ := List.exists_cons_of_ne_nil some
      exact ⟨c, rest, rfl, small c List.mem_cons_self⟩
  | more some small tail =>
      obtain ⟨c, rest, rfl⟩ := List.exists_cons_of_ne_nil some
      exact ⟨c, _, rfl, small c List.mem_cons_self⟩

end Grouped

section Groups

theorem isWordChar_of_small (small : c.isLower ∨ c.isDigit) : isWordChar c = true := by
  rw [isWordChar, Char.isAlphanum, Char.isAlpha]
  rcases small with small | digit
  · rw [small, Bool.or_true, Bool.true_or]
  · rw [digit, Bool.or_true]

theorem ne_hyphen_of_isWordChar (word : isWordChar c = true) : c ≠ '-' := by
  rintro rfl
  exact absurd word (by decide)

theorem not_isUpper_of_small (small : c.isLower ∨ c.isDigit) : ¬ c.isUpper := by
  rcases small with small | digit
  · exact Char.not_isUpper_of_isLower small
  · exact fun capital => not_isDigit_of_isUpper capital digit

theorem small_toLower (word : isWordChar c = true) : c.toLower.isLower ∨ c.toLower.isDigit := by
  rw [isWordChar, Char.isAlphanum, Bool.or_eq_true] at word
  rcases word with letter | digit
  · exact .inl ((Char.isLower_toLower_eq_isAlpha c).trans letter)
  · rw [Char.toLower_eq_of_not_isUpper (not_isUpper_of_small (.inr digit))]
    exact .inr digit

/-- What is left of a text without the hyphens at its end: groups, behind a hyphen if the text
begins with a gap. -/
inductive Trimmed : Bool → List Char → Prop
  | none (gap : Bool) : Trimmed gap []
  | word {cs : List Char} (groups : Grouped (cs.map Char.toLower)) : Trimmed false cs
  | gap {cs : List Char} (groups : Grouped (cs.map Char.toLower)) : Trimmed true ('-' :: cs)

theorem Trimmed.behind {gap : Bool} (word : isWordChar c = true) (h : Trimmed gap cs) :
    Trimmed false (c :: cs) := by
  have small := small_toLower word
  cases h with
  | none => exact .word (.single small)
  | word groups => exact .word (groups.cons small)
  | gap groups => exact .word (groups.hyphen small)

theorem trimHyphensEnd_hyphen (cs : List Char) : trimHyphensEnd ('-' :: cs) =
    if trimHyphensEnd cs = [] then [] else '-' :: trimHyphensEnd cs := by
  rw [trimHyphensEnd, trimHyphensEnd, List.reverse_cons, List.dropWhile_append]
  cases cs.reverse.dropWhile (· == '-') with
  | nil => rfl
  | cons c rest => simp

theorem Trimmed.hyphen (h : Trimmed false (trimHyphensEnd cs)) :
    Trimmed true (trimHyphensEnd ('-' :: cs)) := by
  rw [trimHyphensEnd_hyphen]
  generalize trimHyphensEnd cs = l at h ⊢
  split
  · exact .none true
  · next some =>
    cases h with
    | none => exact absurd rfl some
    | word groups => exact .gap groups

theorem hyphenated_trimmed (cs : List Char) :
    Trimmed (startsGap cs) (trimHyphensEnd (hyphenated cs)) := by
  induction cs with
  | nil => exact .none _
  | cons c rest ih =>
      rw [hyphenated_cons, hyphenatedChar, startsGap]
      by_cases word : isWordChar c = true
      · rw [if_pos word, word, List.cons_append,
          trimHyphensEnd_cons (ne_hyphen_of_isWordChar word)]
        cases ends : endsWord c rest with
        | false => exact ih.behind word
        | true =>
            obtain ⟨d, more, rfl, capital⟩ := capital_of_endsWord ends
            rw [startsGap, isWordChar_of_isUpper capital] at ih
            exact ih.hyphen.behind word
      · rw [if_neg word, eq_false_of_ne_true word]
        by_cases wide : startsGap rest = true
        · rw [wide] at ih ⊢
          exact ih
        · rw [eq_false_of_ne_true wide] at ih ⊢
          exact ih.hyphen

theorem kebabChars_grouped (cs : List Char) : kebabChars cs = [] ∨ Grouped (kebabChars cs) := by
  have trimmed := hyphenated_trimmed cs
  change List.map _ ((trimHyphensEnd (hyphenated cs)).dropWhile (· == '-')) = [] ∨
    Grouped (List.map _ ((trimHyphensEnd (hyphenated cs)).dropWhile (· == '-')))
  have begun : ∀ {l : List Char}, Grouped (l.map Char.toLower) →
      l.dropWhile (· == '-') = l := by
    intro l groups
    obtain ⟨c, rest, same, small⟩ := groups.front
    cases l with
    | nil => rfl
    | cons d l =>
        refine List.dropWhile_cons_of_neg fun hyphen => ?_
        rw [eq_of_beq hyphen, List.map_cons, List.cons.injEq] at same
        exact absurd (isWordChar_of_small small) (same.1 ▸ by decide)
  generalize trimHyphensEnd (hyphenated cs) = l at trimmed ⊢
  generalize startsGap cs = gap at trimmed
  cases trimmed with
  | none => exact .inl rfl
  | word groups =>
      rw [begun groups]
      exact .inr groups
  | gap groups =>
      rw [List.dropWhile_cons_of_pos rfl, begun groups]
      exact .inr groups

end Groups

section Fixed

variable {word tail : List Char}

theorem hyphenated_small (small : ∀ c ∈ word, c.isLower ∨ c.isDigit)
    (closed : ∀ d ∈ tail.head?, ¬ d.isUpper) :
    hyphenated (word ++ tail) = word ++ hyphenated tail := by
  induction word with
  | nil => rfl
  | cons c word ih =>
      have rest := fun d hd => small d (List.mem_cons_of_mem c hd)
      have inside : endsWord c (word ++ tail) = false := by
        by_contra ends
        obtain ⟨d, more, same, capital⟩ := capital_of_endsWord (eq_true_of_ne_false ends)
        cases word with
        | nil =>
            rw [List.nil_append] at same
            exact closed d (by rw [same]; rfl) capital
        | cons e word =>
            cases same
            exact not_isUpper_of_small (rest d List.mem_cons_self) capital
      rw [List.cons_append, hyphenated_cons, hyphenatedChar,
        if_pos (isWordChar_of_small (small c List.mem_cons_self)), inside, ih rest]
      rfl

theorem trimHyphensEnd_small (small : ∀ c ∈ word, c.isLower ∨ c.isDigit) (tail : List Char) :
    trimHyphensEnd (word ++ tail) = word ++ trimHyphensEnd tail := by
  induction word with
  | nil => rfl
  | cons c word ih =>
      have here := isWordChar_of_small (small c List.mem_cons_self)
      rw [List.cons_append, trimHyphensEnd_cons (ne_hyphen_of_isWordChar here),
        ih fun d hd => small d (List.mem_cons_of_mem c hd), List.cons_append]

theorem map_toLower_small (small : ∀ c ∈ word, c.isLower ∨ c.isDigit) :
    word.map Char.toLower = word := by
  refine (List.map_congr_left fun c hc => ?_).trans word.map_id
  exact Char.toLower_eq_of_not_isUpper (not_isUpper_of_small (small c hc))

namespace Grouped

theorem hyphenated_eq (h : Grouped cs) : hyphenated cs = cs := by
  induction h with
  | @last word some small =>
      have whole : hyphenated (word ++ []) = word ++ hyphenated [] :=
        hyphenated_small small (by simp)
      rwa [List.append_nil, show hyphenated [] = [] from rfl, List.append_nil] at whole
  | @more word rest some small tail ih =>
      obtain ⟨d, more, rfl, first⟩ := tail.front
      rw [hyphenated_small small (by simp), hyphenated_cons, hyphenatedChar,
        if_neg (by decide), startsGap, isWordChar_of_small first, ih]
      rfl

theorem trimHyphensEnd_eq (h : Grouped cs) : trimHyphensEnd cs = cs := by
  induction h with
  | @last word some small =>
      have whole := trimHyphensEnd_small small []
      rwa [List.append_nil, show trimHyphensEnd [] = [] from rfl, List.append_nil] at whole
  | @more word rest some small tail ih =>
      obtain ⟨d, more, rfl, first⟩ := tail.front
      rw [trimHyphensEnd_small small, trimHyphensEnd_hyphen, ih, if_neg (List.cons_ne_nil d more)]

theorem map_toLower_eq (h : Grouped cs) : cs.map Char.toLower = cs := by
  induction h with
  | last some small => exact map_toLower_small small
  | more some small tail ih =>
      rw [List.map_append, List.map_cons, map_toLower_small small, ih]
      rfl

/-- Groups with single hyphens between them are in kebab case. -/
theorem kebabChars_eq (h : Grouped cs) : kebabChars cs = cs := by
  change List.map _ ((trimHyphensEnd (hyphenated cs)).dropWhile (· == '-')) = cs
  obtain ⟨c, rest, same, small⟩ := h.front
  have first : c ≠ '-' := ne_hyphen_of_isWordChar (isWordChar_of_small small)
  have begun : cs.dropWhile (· == '-') = cs := by
    rw [same]
    exact List.dropWhile_cons_of_neg (by simpa using first)
  rw [h.hyphenated_eq, h.trimHyphensEnd_eq, begun, h.map_toLower_eq]

end Grouped

theorem kebabChars_kebabChars (cs : List Char) : kebabChars (kebabChars cs) = kebabChars cs := by
  rcases kebabChars_grouped cs with none | groups
  · rw [none]
    rfl
  · exact groups.kebabChars_eq

end Fixed

theorem isWordChar_toLower (c : Char) : isWordChar c.toLower = isWordChar c := by
  by_cases word : isWordChar c = true
  · rw [word]
    exact isAlphanum_toLower word
  · have small : ¬ c.isUpper := fun capital => word (isWordChar_of_isUpper capital)
    rw [Char.toLower_eq_of_not_isUpper small]

theorem letters_map_toLower (cs : List Char) :
    letters (cs.map Char.toLower) = (letters cs).map Char.toLower := by
  rw [letters, letters, List.filter_map]
  congr 1
  exact List.filter_congr fun c _ => isWordChar_toLower c

/-- Kebab case is empty or made of groups of small letters and digits with single hyphens between
them, and is its own kebab case. It has the letters and digits of the text, in order and small, and
there is a hyphen between two that follow one another if and only if they are apart in the text. -/
theorem kebab_canonical (v : String) :
    (kebab v = "" ∨ Grouped (kebab v).toList) ∧
    kebab (kebab v) = kebab v ∧
    letters (kebab v).toList = (letters v.toList).map Char.toLower ∧
    ∀ before c between d after, v.toList = before ++ c :: (between ++ d :: after) →
      isWordChar c = true → isWordChar d = true → (∀ x ∈ between, isWordChar x = false) →
      ∃ front back,
        (kebab v).toList = front ++ c.toLower ::
          ((if Apart c between d after then ['-'] else []) ++ d.toLower :: back) ∧
        letters front = (letters before).map Char.toLower ∧
        letters back = (letters after).map Char.toLower := by
  rw [kebab, kebab, String.toList_ofList]
  refine ⟨?_, ?_, ?_, ?_⟩
  · exact (kebabChars_grouped v.toList).imp (fun none => by rw [none]) id
  · rw [kebabChars_kebabChars]
  · rw [kebabChars, letters_map_toLower]
    exact congrArg _ ((letters_trimHyphens _).trans (letters_hyphenated _))
  · intro before c between d after text first second foreign
    obtain ⟨front, made, same⟩ := hyphenated_append before (c :: (between ++ d :: after))
    rw [hyphenated_between first second foreign, hyphenated_cons, hyphenatedChar,
      if_pos second, List.cons_append] at made
    obtain ⟨front', back', trimmed, left, right⟩ := trimHyphens_around
      (ne_hyphen_of_isWordChar first) (ne_hyphen_of_isWordChar second) front
      (mark (Apart c between d after)) (mark (endsWord d after) ++ hyphenated after)
    refine ⟨front'.map Char.toLower, back'.map Char.toLower, ?_, ?_, ?_⟩
    · rw [text, kebabChars]
      change (trimHyphens (hyphenated _)).map _ = _
      rw [made, trimmed, List.map_append, List.map_cons, List.map_append, List.map_cons]
      by_cases apart : Apart c between d after
      · rw [if_pos apart, decide_eq_true apart]
        rfl
      · rw [if_neg apart, decide_eq_false apart]
        rfl
    · rw [letters_map_toLower, left, same]
    · have hyphen : ∀ b, letters (mark b) = [] := by decide
      rw [letters_map_toLower, right, letters_append, hyphen, letters_hyphenated, List.nil_append]

/-- In `getHTTPUrl` the last capital of several begins a word of its own. -/
theorem kebab_getHTTPUrl :
    Apart 'P' [] 'U' ['r', 'l'] ∧
      ∃ front back, (kebab "getHTTPUrl").toList = front ++ 'p' :: (['-'] ++ 'u' :: back) ∧
        letters front = "gethtt".toList ∧ letters back = "rl".toList := by
  have apart : Apart 'P' [] 'U' ['r', 'l'] := .inr (.inr ⟨rfl, rfl, 'r', rfl, rfl⟩)
  obtain ⟨front, back, made, left, right⟩ := (kebab_canonical "getHTTPUrl").2.2.2
    "getHTT".toList 'P' [] 'U' ['r', 'l'] (by decide +kernel) (by decide) (by decide) (by simp)
  rw [if_pos apart] at made
  exact ⟨apart, front, back, made, left.trans (by decide +kernel), right.trans (by decide)⟩

end SdkBlueprint.Naming
