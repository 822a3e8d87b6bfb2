import SdkBlueprint.Proofs.Document.Members
import SdkBlueprint.Proofs.Settings.Fields
import SdkBlueprint.Proofs.Text.Parts
import SdkBlueprint.Settings.Layers

/-! Settings by layers. Each field has the value of the highest layer that sets it, whatever the
layers do with the other fields, and only the values that are selected so are checked. -/
namespace SdkBlueprint.Settings
open SdkBlueprint.Document SdkBlueprint.Text

/-- The words of a text are its pieces between commas, trimmed, without the empty ones. -/
def ListsWords (text : String) (words : List String) : Prop :=
  ∃ pieces cores : List (List Char),
    pieces ≠ [] ∧ (∀ p ∈ pieces, ',' ∉ p) ∧ [','].intercalate pieces = text.toList ∧
      List.Forall₂ Trims pieces cores ∧ words = (cores.filter (· ≠ [])).map String.ofList

theorem wordList_lists (text : String) : ListsWords text (wordList text) := by
  refine ⟨parts ',' text.toList, (parts ',' text.toList).map trimChars, parts_ne_nil _ _,
    fun p => not_mem_of_mem_parts, intercalate_parts _ _, ?_, ?_⟩
  · exact List.forall₂_map_right_iff.mpr (List.forall₂_same.mpr fun p _ => trims_trimChars p)
  · rw [wordList]
    generalize (parts ',' text.toList).map trimChars = cores
    rw [← List.filterMap_eq_map, ← List.filterMap_eq_filter, List.filterMap_filterMap]
    refine List.filterMap_congr fun core _ => ?_
    cases core <;> rfl

/-- What the command line sets. -/
def Flags.value? (flags : Flags) : Field → Option Value
  | .reservedSuffix => flags.reservedSuffix.map .text
  | .extraReservedWords => .none
  | .defaultTag => flags.defaultTag.map .text
  | .serviceSuffix => flags.serviceSuffix.map .text

/-- What the variables set. -/
def variableValue? (e : Environment) : Field → Option Value
  | .reservedSuffix => (e.valueOf? "SPECIR_RESERVED_SUFFIX").map .text
  | .extraReservedWords =>
    (e.valueOf? "SPECIR_EXTRA_RESERVED_WORDS").map fun text => .list ((wordList text).map .text)
  | .defaultTag => (e.valueOf? "SPECIR_DEFAULT_TAG").map .text
  | .serviceSuffix => (e.valueOf? "SPECIR_SERVICE_SUFFIX").map .text

/-- What the highest layer that sets the field sets: the command line before the variables, and
these before the entries of the project file. -/
def selected (e : Environment) (flags : Flags) (entries : List (Scalar × Value)) (f : Field) :
    Option Value :=
  (flags.value? f).or ((variableValue? e f).or (Value.member? f.name entries))

theorem member?_setText (name field : String) (value : Option String) :
    Value.member? name (setText field value).reverse =
      if field = name then value.map .text else none := by
  cases value with
  | none => simp [setText, Value.member?]
  | some t => rfl

theorem Flags.member?_layer (flags : Flags) (f : Field) :
    Value.member? f.name flags.layer.reverse = flags.value? f := by
  simp only [Flags.layer, List.reverse_append, Value.member?_append, member?_setText]
  cases f <;> simp [Field.name, Flags.value?]

theorem member?_variableLayer (e : Environment) (f : Field) :
    Value.member? f.name (variableLayer e).reverse = variableValue? e f := by
  simp only [variableLayer, List.reverse_append, Value.member?_append, member?_setText]
  cases words : e.valueOf? "SPECIR_EXTRA_RESERVED_WORDS" <;>
    cases f <;> simp [Field.name, variableValue?, Value.member?, words]

/-- Of each field the merged layers hold what is selected. -/
theorem merged_field? (e : Environment) (flags : Flags) {entries : List (Scalar × Value)}
    (plain : Value.Plain entries) (f : Field) :
    (merged [entries, variableLayer e, flags.layer]).field? f.name =
      selected e flags entries f := by
  have layers : [entries, variableLayer e, flags.layer].flatten.reverse =
      flags.layer.reverse ++ ((variableLayer e).reverse ++ entries.reverse) := by simp
  rw [merged, Value.field?, Value.member?_mapOf, layers, Value.member?_append,
    Value.member?_append, flags.member?_layer, member?_variableLayer, plain.member?_reverse,
    selected]

section ProjectFile

/-- The project file is there, and this is its text. -/
def Holds (e : Environment) (folder : Option String) (text : String) : Prop :=
  ∃ content raw, e.node? (projectFile folder) = some (.file content) ∧
    String.fromUTF8? content = some raw ∧ text = Environment.unified raw

/-- What the project file sets: the entries of its object, or nothing if it is not there. -/
inductive Declares (e : Environment) (folder : Option String) : List (Scalar × Value) → Prop
  | absent (missing : ∀ content, e.node? (projectFile folder) ≠ some (.file content)) :
      Declares e folder []
  | object {text entries} (holds : Holds e folder text)
      (read : Json.read text = .ok (.map entries)) : Declares e folder entries

/-- The text of the project file is no object. -/
inductive Malformed (e : Environment) (folder : Option String) : Prop
  | noJson {text reason} (holds : Holds e folder text)
      (read : Json.read text = .error (.malformed reason))
  | noObject {text v} (holds : Holds e folder text) (read : Json.read text = .ok v)
      (sort : v.isMap = false)

/-- Of these project files no error of settings speaks: one that is no text, and one with an
integer of too many digits. -/
inductive Slips (e : Environment) (folder : Option String) : Misuse → Prop
  | encoding {content} (there : e.node? (projectFile folder) = some (.file content))
      (noText : String.fromUTF8? content = none) : Slips e folder .badEncoding
  | integer {text} (holds : Holds e folder text) (long : Json.read text = .error .longInteger) :
      Slips e folder .badValue

variable {e : Environment} {flags : Flags} {folder : Option String} {text : String}
  {entries : List (Scalar × Value)} {cause : Misuse}

theorem project_cases (e : Environment) (folder : Option String) :
    (∃ entries, Declares e folder entries) ∨ Malformed e folder ∨
      ∃ cause, Slips e folder cause := by
  by_cases there : ∃ content, e.node? (projectFile folder) = some (.file content)
  · obtain ⟨content, there⟩ := there
    cases decoded : String.fromUTF8? content with
    | none => exact .inr (.inr ⟨_, .encoding there decoded⟩)
    | some raw =>
        have holds : Holds e folder (Environment.unified raw) :=
          ⟨content, raw, there, decoded, rfl⟩
        cases read : Json.read (Environment.unified raw) with
        | ok v =>
            cases v with
            | map entries => exact .inl ⟨entries, .object holds read⟩
            | _ => exact .inr (.inl (.noObject holds read rfl))
        | error refusal =>
            cases refusal with
            | malformed reason => exact .inr (.inl (.noJson holds read))
            | longInteger => exact .inr (.inr ⟨_, .integer holds read⟩)
  · exact .inl ⟨[], .absent fun content h => there ⟨content, h⟩⟩

theorem Declares.plain (h : Declares e folder entries) : Value.Plain entries := by
  cases h with
  | absent missing => exact ⟨by simp, List.nodup_nil⟩
  | object holds read => exact Json.read_plain read

theorem resolve_held (h : Holds e folder text) : resolve e flags folder =
    parseProject (projectFileLabel e folder) text >>= fun project =>
      ofLayers [project, variableLayer e, flags.layer] := by
  obtain ⟨content, raw, there, decoded, rfl⟩ := h
  have found : e.text? (projectFile folder) = .ok (some (Environment.unified raw)) := by
    simp only [Environment.text?, there, decoded]
  have layer : projectLayer? e folder =
      parseProject (projectFileLabel e folder) (Environment.unified raw) >>= fun project =>
        pure (some project) := by
    rw [projectLayer?, found]
    rfl
  rw [resolve, layer, bind_assoc]
  rfl

theorem resolve_declared (h : Declares e folder entries) :
    resolve e flags folder = ofLayers [entries, variableLayer e, flags.layer] := by
  cases h with
  | absent missing =>
      have none : e.text? (projectFile folder) = .ok none := by
        unfold Environment.text?
        split
        · next content there => exact absurd there (missing content)
        · rfl
      rw [resolve, projectLayer?, none]
      rfl
  | object holds read =>
      rw [resolve_held holds, parseProject, read]
      rfl

theorem resolve_malformed (h : Malformed e folder) :
    ∃ cause, resolve e flags folder = .error (.settings cause) := by
  cases h with
  | noJson holds read =>
      rw [resolve_held holds, parseProject, read]
      exact ⟨_, rfl⟩
  | @noObject text v holds read sort =>
      rw [resolve_held holds, parseProject, read]
      cases v with
      | map entries => cases sort
      | _ => exact ⟨_, rfl⟩

theorem resolve_slips (h : Slips e folder cause) :
    resolve e flags folder = .error (.misuse cause) := by
  cases h with
  | encoding there noText =>
      have refused : e.text? (projectFile folder) = misuse .badEncoding := by
        simp only [Environment.text?, there, noText]
      rw [resolve, projectLayer?, refused]
      rfl
  | integer holds long =>
      rw [resolve_held holds, parseProject, long]
      rfl

theorem ofLayers_cases (layers : List Layer) :
    (∃ s, ofLayers layers = .ok s) ∨
      ∃ faults, ofLayers layers = .error (.settings (.invalid faults)) := by
  unfold ofLayers
  split
  · exact .inl ⟨_, rfl⟩
  · exact .inr ⟨_, rfl⟩

theorem resolve_admitted (h : Declares e folder entries)
    (admitted : ∀ f, ∀ v ∈ selected e flags entries f, f.Admits v) :
    ∃ s, resolve e flags folder = .ok s ∧
      ∀ f, s.value f = (selected e flags entries f).getD (defaults.value f) := by
  have merge := merged_field? e flags h.plain
  obtain ⟨s, ok, values⟩ := check_admitted fun f v hv => admitted f v (merge f ▸ hv)
  refine ⟨s, ?_, fun f => merge f ▸ values f⟩
  rw [resolve_declared h, ofLayers, ok]

theorem resolve_refused (h : Declares e folder entries) {f : Field} {v : Value}
    (there : selected e flags entries f = some v) (refused : ¬ f.Admits v) :
    ∃ cause, resolve e flags folder = .error (.settings cause) := by
  obtain ⟨faults, failed⟩ :=
    check_refused ((merged_field? e flags h.plain f).trans there) refused
  refine ⟨.invalid faults, ?_⟩
  rw [resolve_declared h, ofLayers, failed]

theorem resolve_fails_iff : (∃ cause, resolve e flags folder = .error (.settings cause)) ↔
    Malformed e folder ∨ ∃ entries, Declares e folder entries ∧
      ∃ f, ∃ v ∈ selected e flags entries f, ¬ f.Admits v := by
  constructor
  · rintro ⟨cause, failed⟩
    rcases project_cases e folder with ⟨entries, declared⟩ | malformed | ⟨cause', slips⟩
    · refine .inr ⟨entries, declared, ?_⟩
      by_contra none
      have admitted : ∀ f, ∀ v ∈ selected e flags entries f, f.Admits v :=
        fun f v there => by_contra fun refused => none ⟨f, v, there, refused⟩
      obtain ⟨s, ok, _⟩ := resolve_admitted declared admitted
      cases ok.symm.trans failed
    · exact .inl malformed
    · cases (resolve_slips slips).symm.trans failed
  · rintro (malformed | ⟨entries, declared, f, v, there, refused⟩)
    · exact resolve_malformed malformed
    · exact resolve_refused declared there refused

theorem resolve_slips_iff : resolve e flags folder = .error (.misuse cause) ↔
    Slips e folder cause := by
  refine ⟨fun failed => ?_, resolve_slips⟩
  rcases project_cases e folder with ⟨entries, declared⟩ | malformed | ⟨cause', slips⟩
  · rw [resolve_declared declared] at failed
    rcases ofLayers_cases [entries, variableLayer e, flags.layer] with ⟨s, ok⟩ | ⟨faults, invalid⟩
    · cases ok.symm.trans failed
    · cases invalid.symm.trans failed
  · obtain ⟨other, settings⟩ : ∃ other, resolve e flags folder = .error (.settings other) :=
      resolve_malformed malformed
    cases settings.symm.trans failed
  · cases (resolve_slips slips).symm.trans failed
    exact slips

/-- What is not selected has no effect. -/
theorem resolve_congr {e' : Environment} {flags' : Flags} {folder' : Option String}
    {entries' : List (Scalar × Value)} (declared : Declares e folder entries)
    (declared' : Declares e' folder' entries')
    (same : ∀ f, selected e flags entries f = selected e' flags' entries' f) :
    resolve e flags folder = resolve e' flags' folder' := by
  have merge := merged_field? e flags declared.plain
  have merge' := merged_field? e' flags' declared'.plain
  have checks : check (merged [entries, variableLayer e, flags.layer]) =
      check (merged [entries', variableLayer e', flags'.layer]) :=
    check_congr fun f => (merge f).trans ((same f).trans (merge' f).symm)
  rw [resolve_declared declared, resolve_declared declared', ofLayers, ofLayers, checks]

end ProjectFile

/-- A project file that declares something gives settings if what is selected is admitted, and
every field then has what is selected for it. Errors of settings are for files that are no objects
and for selected values that are not admitted, and all else is one of the slips. -/
theorem settings_layered (e : Environment) (flags : Flags) (folder : Option String) :
    ((∃ entries, Declares e folder entries) ∨ Malformed e folder ∨
      ∃ cause, Slips e folder cause) ∧
    (∀ entries, Declares e folder entries →
      (∀ f, ∀ v ∈ selected e flags entries f, f.Admits v) →
        ∃ s, resolve e flags folder = .ok s ∧
          ∀ f, s.value f = (selected e flags entries f).getD (defaults.value f)) ∧
    ((∃ cause, resolve e flags folder = .error (.settings cause)) ↔
      Malformed e folder ∨ ∃ entries, Declares e folder entries ∧
        ∃ f, ∃ v ∈ selected e flags entries f, ¬ f.Admits v) ∧
    (∀ cause, resolve e flags folder = .error (.misuse cause) ↔ Slips e folder cause) ∧
    (∀ e' flags' folder' entries entries', Declares e folder entries →
      Declares e' folder' entries' →
      (∀ f, selected e flags entries f = selected e' flags' entries' f) →
        resolve e flags folder = resolve e' flags' folder') ∧
    ∀ text, ListsWords text (wordList text) :=
  ⟨project_cases e folder, fun _ => resolve_admitted, resolve_fails_iff,
    fun _ => resolve_slips_iff, fun _ _ _ _ _ => resolve_congr, wordList_lists⟩

/-- Both variables are there, and empty. The suffix would be refused. -/
def emptyVariables : Environment :=
  ⟨fun _ => none,
    fun name =>
      if name = "SPECIR_RESERVED_SUFFIX" ∨ name = "SPECIR_DEFAULT_TAG" then some "" else none,
    "", "", fun _ => .failed ""⟩

theorem settings_emptyVariables :
    Declares emptyVariables none [] ∧
      ∃ s, resolve emptyVariables ⟨some "X", none, none⟩ none = .ok s ∧
        s.value .reservedSuffix = .text "X" ∧ s.value .extraReservedWords = .list [] ∧
          s.value .defaultTag = .text "" ∧ s.value .serviceSuffix = .text "Service" := by
  have declared : Declares emptyVariables none [] := .absent nofun
  have admitted : ∀ f, ∀ v ∈ selected emptyVariables ⟨some "X", none, none⟩ [] f, f.Admits v := by
    intro f v hv
    cases f with
    | reservedSuffix =>
        cases hv
        exact ⟨"X", by decide, rfl⟩
    | extraReservedWords => cases hv
    | defaultTag =>
        cases hv
        exact ⟨"", rfl⟩
    | serviceSuffix => cases hv
  obtain ⟨-, settles, -⟩ := settings_layered emptyVariables ⟨some "X", none, none⟩ none
  obtain ⟨s, resolved, values⟩ := settles [] declared admitted
  exact ⟨declared, s, resolved, values .reservedSuffix, values .extraReservedWords,
    values .defaultTag, values .serviceSuffix⟩

/-- A working folder with this project file and nothing else. -/
def projectFolder (text : String) : Environment :=
  ⟨FolderTree.find? ⟨[], [([projectFileName], text.toUTF8)]⟩, fun _ => none, "", "",
    fun _ => .failed ""⟩

/-- The suffix of the file would be refused, and the colour is no setting. -/
example : resolve
    (projectFolder "\x7b\"reserved_suffix\": 5, \"colour\": 7, \"default_tag\": \"Pets\"\x7d")
    ⟨some "X", none, none⟩ none = .ok ⟨"X", [], "Pets", "Service"⟩ := by decide +kernel

theorem projectFolder_holds (text : String) :
    Holds (projectFolder text) none (Environment.unified text) := by
  refine ⟨text.toUTF8, text, rfl, ?_, rfl⟩
  exact dif_pos text.isValidUTF8

/-- A number of that many ones. -/
def ones (n : Nat) : String := String.ofList (List.replicate n '1')

theorem unified_ones (n : Nat) : Environment.unified (ones n) = ones n := by
  have lines : Environment.unifiedLines (List.replicate n '1') = List.replicate n '1' := by
    induction n with
    | zero => rfl
    | succ n ih =>
        rw [List.replicate_succ, Environment.unifiedLines, ih]
        · rfl
        · simp
  rw [Environment.unified, ones, String.toList_ofList, lines]

theorem read_ones {n : Nat} (long : maxIntegerDigits < n) :
    Json.read (ones n) = .error .longInteger := by
  obtain ⟨m, rfl⟩ : ∃ m, n = m + 1 := ⟨n - 1, by omega⟩
  have digits : ∀ c ∈ '1' :: List.replicate m '1', c.isDigit = true := by simp
  have more : maxIntegerDigits < ('1' :: List.replicate m '1').length := by simpa using long
  rw [Json.read, ones, String.toList_ofList, List.replicate_succ]
  generalize List.replicate m '1' = rest at digits more
  have number : Json.readNumber ('1' :: rest) = .error .longInteger := by
    have run : Json.readNumber ('1' :: rest) = Json.finishNumber false
        (('1' :: rest).takeWhile Char.isDigit) (('1' :: rest).dropWhile Char.isDigit) := rfl
    rw [run, List.takeWhile_eq_self_iff.mpr digits, List.dropWhile_eq_nil_iff.mpr digits]
    exact if_pos more
  have document : Json.readDocument ('1' :: rest) = .error .longInteger := by
    have atom : Json.readValue (2 * ('1' :: rest).length + 2) ('1' :: rest) =
        Json.readNumber ('1' :: rest) := rfl
    have start : Json.skipSpaces ('1' :: rest) = '1' :: rest := rfl
    rw [Json.readDocument, start, atom, number]
  rw [document]
  rfl

/-- A number is no object, and no error of settings speaks of this one. -/
theorem settings_slip :
    Holds (projectFolder (ones 4301)) none (ones 4301) ∧
      (∀ entries, Json.read (ones 4301) ≠ .ok (.map entries)) ∧
        ¬ ∃ cause, resolve (projectFolder (ones 4301)) .none none = .error (.settings cause) := by
  have long : Json.read (ones 4301) = .error .longInteger := read_ones (by decide)
  have holds : Holds (projectFolder (ones 4301)) none (ones 4301) := by
    simpa only [unified_ones] using projectFolder_holds (ones 4301)
  refine ⟨holds, fun entries object => ?_, ?_⟩
  · cases long.symm.trans object
  · rintro ⟨cause, failed⟩
    cases (resolve_slips (.integer holds long)).symm.trans failed

end SdkBlueprint.Settings
