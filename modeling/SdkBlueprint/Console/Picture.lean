import SdkBlueprint.Console.PictureTable
import SdkBlueprint.Text.Blank
import SdkBlueprint.Text.Letters
import SdkBlueprint.Text.Parts

/-! Pictographs in console markup. A name between colons stands for a pictograph;
an unknown one is ordinary text. A name may end in `-emoji` or `-text`, for the
coloured or the plain form. -/
namespace SdkBlueprint.Console

def pictureIn? (name : List Char) : List (List Char) → Option (List Char)
  | known :: picture :: rest => if known = name then some picture else pictureIn? name rest
  | _ => none

def picture? (name : List Char) : Option (List Char) :=
  pictureRows.findSome? fun row => pictureIn? name (Text.parts ' ' row.toList)

def selector (name : List Char) : List Char × List Char :=
  if "-emoji".toList.isSuffixOf name then (name.take (name.length - 6), ['\ufe0f'])
  else if "-text".toList.isSuffixOf name then (name.take (name.length - 5), ['\ufe0e'])
  else (name, [])

/-- The pictograph of a name with its ending, whatever the case of its letters. -/
def selected? (name : List Char) : Option (List Char) :=
  let (bare, variation) := selector name
  (picture? (Text.lowerChars bare)).map (· ++ variation)

/-- The name before the next colon, and what follows that colon. A name has no
blanks. -/
def colonName? : List Char → Option (List Char × List Char)
  | [] => none
  | c :: rest =>
    if c = ':' then some ([], rest)
    else if Text.isBlank c then none
    else (colonName? rest).map fun r => (c :: r.1, r.2)

def namedText (name : List Char) : List Char :=
  (selected? name).getD (':' :: name ++ [':'])

theorem colonName?_length {cs name after : List Char} (h : colonName? cs = some (name, after)) :
    after.length < cs.length := by
  induction cs generalizing name after with
  | nil => simp [colonName?] at h
  | cons c rest ih =>
    simp only [colonName?] at h
    split at h
    · simp at h; simp [h.2]
    · split at h
      · simp at h
      · obtain ⟨⟨before, left⟩, hr, he⟩ := Option.map_eq_some_iff.1 h
        simp only [Prod.mk.injEq] at he
        have := ih hr
        simp only [List.length_cons, ← he.2]
        omega

def withPictures (cs : List Char) : List Char :=
  match cs with
  | [] => []
  | c :: rest =>
    if c = ':' then
      match _h : colonName? rest with
      | some (name, after) => namedText name ++ withPictures after
      | none => c :: withPictures rest
    else c :: withPictures rest
termination_by cs.length
decreasing_by
  · have := colonName?_length _h; simp; omega
  · simp
  · simp

/-- Where there is no colon there are no names. -/
theorem withPictures_of_no_colon {cs : List Char} (h : ':' ∉ cs) : withPictures cs = cs := by
  induction cs with
  | nil => simp [withPictures]
  | cons c rest ih =>
    simp only [List.mem_cons, not_or] at h
    rw [withPictures, if_neg (Ne.symm h.1), ih h.2]

end SdkBlueprint.Console
