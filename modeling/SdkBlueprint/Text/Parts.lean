/-! Parts of a text: the runs between separators, and words somewhere in it. -/
namespace SdkBlueprint.Text

/-- The runs of characters between separators; there is one more than separators. -/
def parts (separator : Char) : List Char → List (List Char)
  | [] => [[]]
  | c :: rest =>
    if c == separator then [] :: parts separator rest
    else
      match parts separator rest with
      | [] => [[c]]
      | part :: more => (c :: part) :: more

def mentions (word : List Char) : List Char → Bool
  | [] => word.isEmpty
  | c :: rest => word.isPrefixOf (c :: rest) || mentions word rest

theorem parts_ne_nil (separator : Char) (cs : List Char) : parts separator cs ≠ [] := by
  cases cs with
  | nil => simp [parts]
  | cons c rest =>
    simp only [parts]
    split
    · simp
    · split <;> simp

/-- No part holds the separator. -/
theorem not_mem_of_mem_parts {separator : Char} {cs part : List Char}
    (h : part ∈ parts separator cs) : separator ∉ part := by
  induction cs generalizing part with
  | nil => simp [parts] at h; simp [h]
  | cons c rest ih =>
    simp only [parts] at h
    by_cases hc : c = separator
    · simp only [hc, beq_self_eq_true, if_true, List.mem_cons] at h
      rcases h with rfl | h
      · simp
      · exact ih h
    · have hb : (c == separator) = false := by simpa using hc
      simp only [hb, Bool.false_eq_true, if_false] at h
      split at h
      · next hn => exact absurd hn (parts_ne_nil _ _)
      · next first more hm =>
        rcases List.mem_cons.1 h with rfl | h
        · have hn : separator ∉ first := ih (by simp [hm])
          simp [hn, Ne.symm hc]
        · exact ih (by simp [hm, h])

end SdkBlueprint.Text
