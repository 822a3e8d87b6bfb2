import Mathlib
import SdkBlueprint.Naming.Casing

/-! Pascal and camel case. Cutting a text before its capitals and giving every piece small letters
behind its front comes to the same as giving each run of letters and digits a capital at its front
and leaving the rest of it alone. The laws of casing follow from that. -/
namespace SdkBlueprint.Naming

variable {cs : List Char}

theorem isAlphanum_toUpper {c : Char} (h : c.isAlphanum) : c.toUpper.isAlphanum := by
  rw [Char.isAlphanum, Char.isAlpha_toUpper_eq_isAlpha, Bool.or_eq_true]
  rw [Char.isAlphanum, Bool.or_eq_true] at h
  by_cases letter : c.isAlpha
  · exact .inl letter
  · have small : ¬ c.isLower := fun small => letter (by rw [Char.isAlpha, small, Bool.or_true])
    rw [Char.toUpper_eq_of_not_isLower small]
    exact h

theorem isAlphanum_toLower {c : Char} (h : c.isAlphanum) : c.toLower.isAlphanum := by
  rw [Char.isAlphanum, Char.isAlpha_toLower_eq_isAlpha, Bool.or_eq_true]
  rw [Char.isAlphanum, Bool.or_eq_true] at h
  by_cases letter : c.isAlpha
  · exact .inl letter
  · have big : ¬ c.isUpper := fun big => letter (by rw [Char.isAlpha, big, Bool.true_or])
    rw [Char.toLower_eq_of_not_isUpper big]
    exact h

theorem toUpper_of_isUpper {c : Char} (h : c.isUpper) : c.toUpper = c :=
  Char.toUpper_eq_of_not_isLower (Char.not_isLower_of_isUpper h)

/-- The maximal runs of ASCII letters and digits, in order: what is left between all other
characters. -/
def runs (cs : List Char) : List (List Char) :=
  (cs.splitOnP fun c => !isWordChar c).filter fun run => !run.isEmpty

def capitalize : List Char → List Char
  | [] => []
  | c :: rest => c.toUpper :: rest

@[simp] theorem capitalize_capitalize (cs : List Char) :
    capitalize (capitalize cs) = capitalize cs := by
  cases cs with
  | nil => rfl
  | cons c rest => simp [capitalize]

@[simp] theorem capitalize_uncapitalize (cs : List Char) :
    capitalize (uncapitalize cs) = capitalize cs := by
  cases cs with
  | nil => rfl
  | cons c rest => simp [capitalize, uncapitalize]

/-- The letters and digits of a text, with a capital at the front of each run. `inside` tells that
the text goes on with a run. -/
def joined (inside : Bool) : List Char → List Char
  | [] => []
  | c :: rest =>
    if isWordChar c then (if inside then c else c.toUpper) :: joined true rest
    else joined false rest

section Joined

theorem joined_word {c : Char} (word : isWordChar c = true) (inside : Bool) (rest : List Char) :
    joined inside (c :: rest) = (if inside then c else c.toUpper) :: joined true rest := by
  rw [joined, if_pos word]

theorem joined_gap {c : Char} (gap : isWordChar c = false) (inside : Bool) (rest : List Char) :
    joined inside (c :: rest) = joined false rest := by
  rw [joined, gap, if_neg Bool.false_ne_true]

/-- Before a gap it is of no account whether a run goes on. -/
theorem joined_of_startsGap (gap : startsGap cs = true) (inside : Bool) :
    joined inside cs = joined false cs := by
  cases cs with
  | nil => cases gap
  | cons c rest =>
      have gap : isWordChar c = false := by simpa [startsGap] using gap
      rw [joined_gap gap, joined_gap gap]

theorem joined_alphanum (inside : Bool) (cs : List Char) :
    ∀ c ∈ joined inside cs, c.isAlphanum := by
  induction cs generalizing inside with
  | nil =>
      intro c hc
      cases hc
  | cons c rest ih =>
      by_cases word : isWordChar c = true
      · rw [joined_word word]
        intro d hd
        rcases List.mem_cons.mp hd with rfl | hd
        · split
          · exact word
          · exact isAlphanum_toUpper word
        · exact ih true d hd
      · rw [joined_gap (eq_false_of_ne_true word)]
        exact ih false

theorem joined_of_alphanum (word : ∀ c ∈ cs, c.isAlphanum) :
    joined true cs = cs ∧ joined false cs = capitalize cs := by
  induction cs with
  | nil => exact ⟨rfl, rfl⟩
  | cons c rest ih =>
      have here : isWordChar c = true := word c List.mem_cons_self
      have tail := (ih fun d hd => word d (List.mem_cons_of_mem c hd)).1
      rw [joined_word here, joined_word here, tail]
      exact ⟨rfl, rfl⟩

theorem capitalize_joined (cs : List Char) : capitalize (joined false cs) = joined false cs := by
  induction cs with
  | nil => rfl
  | cons c rest ih =>
      by_cases word : isWordChar c = true
      · rw [joined_word word]
        simp [capitalize]
      · rw [joined_gap (eq_false_of_ne_true word)]
        exact ih

/-- What stands behind a gap does not depend on what stands before it. -/
theorem joined_across {gap : List Char} (some : gap ≠ [])
    (foreign : ∀ c ∈ gap, isWordChar c = false) (inside : Bool) (before after : List Char) :
    joined inside (before ++ (gap ++ after)) = joined inside before ++ joined false after := by
  induction before generalizing inside with
  | nil =>
      rw [List.nil_append]
      induction gap generalizing inside with
      | nil => exact absurd rfl some
      | cons c gap ih =>
          rw [List.cons_append, joined_gap (foreign c List.mem_cons_self)]
          cases gap with
          | nil => rfl
          | cons d gap =>
              exact ih (List.cons_ne_nil d gap)
                (fun e he => foreign e (List.mem_cons_of_mem c he)) false
  | cons c before ih =>
      rw [List.cons_append]
      by_cases word : isWordChar c = true
      · rw [joined_word word, joined_word word, ih, List.cons_append]
      · rw [joined_gap (eq_false_of_ne_true word), joined_gap (eq_false_of_ne_true word), ih]

end Joined

/-- Empty parts add nothing to a text. -/
theorem flatMap_nonempty {f : List Char → List Char} (empty : f [] = [])
    (parts : List (List Char)) :
    (parts.filter fun part => !part.isEmpty).flatMap f = parts.flatMap f := by
  induction parts with
  | nil => rfl
  | cons part more ih =>
      cases part with
      | nil => rw [List.filter_cons_of_neg (by decide), ih, List.flatMap_cons, empty,
          List.nil_append]
      | cons c rest => rw [List.filter_cons_of_pos (by rfl), List.flatMap_cons, ih,
          List.flatMap_cons]

/-- The first piece holds no capital but perhaps at its front, since the text is cut before each of
them. So its letters may be made small or left alone, and the first piece goes on a run. -/
theorem pieces_joined (cs : List Char) : ∃ first more, pieces cs = first :: more ∧
    first.map Char.toLower = first ∧ first ++ more.flatMap title = joined true cs ∧
      title first ++ more.flatMap title = joined false cs := by
  induction cs with
  | nil => exact ⟨[], [], rfl, rfl, rfl, rfl⟩
  | cons c rest ih =>
      obtain ⟨first, more, cut, small, inside, outside⟩ := ih
      have opened : consPiece c (pieces rest) = (c :: first) :: more := by rw [cut, consPiece]
      have titled : title (c :: first) ++ more.flatMap title = c.toUpper :: joined true rest := by
        rw [title, small, List.cons_append, inside]
      by_cases word : isWordChar c = true
      · by_cases capital : c.isUpper = true
        · refine ⟨[], (c :: first) :: more, ?_, rfl, ?_, ?_⟩
          · simp only [pieces, if_pos word, if_pos capital, opened]
          · rw [joined_word word, List.nil_append, List.flatMap_cons, titled,
              toUpper_of_isUpper capital]
            rfl
          · rw [joined_word word, title, List.nil_append, List.flatMap_cons, titled]
            rfl
        · refine ⟨c :: first, more, ?_, ?_, ?_, ?_⟩
          · simp only [pieces, if_pos word, if_neg capital, opened]
          · rw [List.map_cons, small, Char.toLower_eq_of_not_isUpper capital]
          · rw [joined_word word, List.cons_append, inside]
            rfl
          · rw [joined_word word, titled]
            rfl
      · have gap := eq_false_of_ne_true word
        rw [joined_gap gap, joined_gap gap]
        by_cases wide : startsGap rest = true
        · refine ⟨first, more, ?_, small, ?_, outside⟩
          · simp only [pieces, if_neg word, if_pos wide, cut]
          · rw [inside, joined_of_startsGap wide]
        · refine ⟨[], first :: more, ?_, rfl, ?_, ?_⟩
          · simp only [pieces, if_neg word, if_neg wide, cut]
          · rw [List.nil_append, List.flatMap_cons, outside]
          · rw [title, List.nil_append, List.flatMap_cons, outside]

theorem runs_joined (cs : List Char) : ∃ first more,
    (cs.splitOnP fun c => !isWordChar c) = first :: more ∧
      first ++ more.flatMap capitalize = joined true cs ∧
        capitalize first ++ more.flatMap capitalize = joined false cs := by
  induction cs with
  | nil => exact ⟨[], [], List.splitOnP_nil, rfl, rfl⟩
  | cons c rest ih =>
      obtain ⟨first, more, cut, inside, outside⟩ := ih
      by_cases word : isWordChar c = true
      · refine ⟨c :: first, more, ?_, ?_, ?_⟩
        · rw [List.splitOnP_cons_eq_if_modifyHead, word, cut]
          rfl
        · rw [joined_word word, List.cons_append, inside]
          rfl
        · rw [joined_word word, capitalize, List.cons_append, inside]
          rfl
      · have gap := eq_false_of_ne_true word
        refine ⟨[], first :: more, ?_, ?_, ?_⟩
        · rw [List.splitOnP_cons_eq_if_modifyHead, gap, cut]
          rfl
        · rw [joined_gap gap, List.nil_append, List.flatMap_cons, outside]
        · rw [joined_gap gap, capitalize, List.nil_append, List.flatMap_cons, outside]

section Pascal

theorem pascalChars_eq_joined (cs : List Char) : pascalChars cs = joined false cs := by
  obtain ⟨first, more, cut, -, -, outside⟩ := pieces_joined cs
  rw [pascalChars, flatMap_nonempty rfl, cut, List.flatMap_cons, outside]

/-- Pascal case gives each run of letters and digits a capital at its front. -/
theorem pascalChars_eq (cs : List Char) : pascalChars cs = (runs cs).flatMap capitalize := by
  obtain ⟨first, more, cut, -, outside⟩ := runs_joined cs
  rw [pascalChars_eq_joined, runs, flatMap_nonempty rfl, cut, List.flatMap_cons, outside]

theorem pascalChars_alphanum (cs : List Char) : ∀ c ∈ pascalChars cs, c.isAlphanum :=
  pascalChars_eq_joined cs ▸ joined_alphanum false cs

theorem pascalChars_of_alphanum (word : ∀ c ∈ cs, c.isAlphanum) :
    pascalChars cs = capitalize cs :=
  (pascalChars_eq_joined cs).trans (joined_of_alphanum word).2

@[simp] theorem capitalize_pascalChars (cs : List Char) :
    capitalize (pascalChars cs) = pascalChars cs := by
  rw [pascalChars_eq_joined, capitalize_joined]

@[simp] theorem pascalChars_pascalChars (cs : List Char) :
    pascalChars (pascalChars cs) = pascalChars cs := by
  rw [pascalChars_of_alphanum (pascalChars_alphanum cs), capitalize_pascalChars]

theorem pascalChars_across {gap : List Char} (some : gap ≠ [])
    (foreign : ∀ c ∈ gap, c.isAlphanum = false) (before after : List Char) :
    pascalChars (before ++ gap ++ after) = pascalChars before ++ pascalChars after := by
  simp only [pascalChars_eq_joined, List.append_assoc, joined_across some foreign]

theorem camelChars_alphanum (cs : List Char) : ∀ c ∈ camelChars cs, c.isAlphanum := by
  have word := pascalChars_alphanum cs
  unfold camelChars
  generalize pascalChars cs = ps at word ⊢
  cases ps with
  | nil =>
      intro c hc
      cases hc
  | cons d rest =>
      intro c hc
      rcases List.mem_cons.mp hc with rfl | hc
      · exact isAlphanum_toLower (word d List.mem_cons_self)
      · exact word c (List.mem_cons_of_mem d hc)

@[simp] theorem pascalChars_camelChars (cs : List Char) :
    pascalChars (camelChars cs) = pascalChars cs := by
  rw [pascalChars_of_alphanum (camelChars_alphanum cs), camelChars, capitalize_uncapitalize,
    capitalize_pascalChars]

@[simp] theorem camelChars_pascalChars (cs : List Char) :
    camelChars (pascalChars cs) = camelChars cs := by
  rw [camelChars, camelChars, pascalChars_pascalChars]

@[simp] theorem camelChars_camelChars (cs : List Char) :
    camelChars (camelChars cs) = camelChars cs := by
  rw [camelChars, pascalChars_camelChars, camelChars]

end Pascal

/-- A name in Pascal case is its own Pascal case. -/
theorem pascal_pascal (s : String) : pascal (pascal s) = pascal s := by
  rw [pascal, pascal, String.toList_ofList, pascalChars_pascalChars]

theorem pascal_camel (s : String) : pascal (camel s) = pascal s := by
  rw [pascal, camel, String.toList_ofList, pascalChars_camelChars, pascal]

theorem camel_pascal (s : String) : camel (pascal s) = camel s := by
  rw [camel, pascal, String.toList_ofList, camelChars_pascalChars, camel]

theorem camel_camel (s : String) : camel (camel s) = camel s := by
  rw [camel, camel, String.toList_ofList, camelChars_camelChars]

end SdkBlueprint.Naming
