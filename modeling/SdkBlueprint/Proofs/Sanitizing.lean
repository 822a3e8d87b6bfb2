import SdkBlueprint.Proofs.Journal
import SdkBlueprint.Proofs.Registry
import SdkBlueprint.Proofs.Services.Names
import SdkBlueprint.Proofs.Text.Letters

/-! Sanitizing of registries. The records with a reserved name, and no others, get the suffix, and
nothing else about any record changes. Casing leaves no underscore in a name, so that a suffix with
an underscore makes names that are neither reserved nor in use. -/
namespace SdkBlueprint
open SdkBlueprint.Document SdkBlueprint.Schema SdkBlueprint.Text

namespace Naming

/-- In lower case the name is a keyword, the name of a global type or one of the extra words. -/
def Reserved (extra : List String) (name : String) : Prop :=
  lower name ∈ keywords ∨ lower name ∈ globalTypes ∨ ∃ word ∈ extra, lower word = lower name

theorem isReserved_iff {extra : List String} {name : String} :
    isReserved extra name = true ↔ Reserved extra name := by
  unfold isReserved Reserved
  simp only [Bool.or_eq_true, List.contains_iff_mem, List.any_eq_true, beq_iff_eq, or_assoc]

instance (extra : List String) : DecidablePred (Reserved extra) :=
  fun _ => decidable_of_iff _ isReserved_iff

/-- The text has no underscore. -/
def Plain (s : String) : Prop := '_' ∉ s.toList

instance : DecidablePred Plain := fun s => inferInstanceAs (Decidable ('_' ∉ s.toList))

theorem keywords_plain : ∀ word ∈ keywords, Plain word := by decide +kernel

theorem globalTypes_plain : ∀ word ∈ globalTypes, Plain word := by decide +kernel

theorem pascal_plain (s : String) : Plain (pascal s) := by
  intro underscore
  rw [pascal, String.toList_ofList] at underscore
  exact absurd (pascalChars_alphanum _ _ underscore) (by decide)

theorem plain_lower {s : String} : Plain (lower s) ↔ Plain s := not_congr (underscore_mem_lower s)

/-- Where no extra word has an underscore, no name that has one is reserved. -/
theorem Reserved.plain {extra : List String} (words : ∀ word ∈ extra, Plain word) {name : String}
    (h : Reserved extra name) : Plain name := by
  rw [← plain_lower]
  rcases h with keyword | globalType | ⟨word, member, same⟩
  · exact keywords_plain _ keyword
  · exact globalTypes_plain _ globalType
  · exact same ▸ plain_lower.mpr (words word member)

end Naming

open Naming

namespace Settings

variable {settings : Settings} {name : String}

/-- Settings that pass the check come from fields without faults. -/
theorem faultless_of_ofValue {given : Value} (valid : ofValue given = .ok settings) :
    faults given = [] ∧
      settings.reservedSuffix = textField given "reserved_suffix" defaults.reservedSuffix := by
  have checked : check given = .ok settings := by
    unfold ofValue at valid
    split at valid
    · next h => exact (Except.ok.inj valid) ▸ h
    · cases valid
  unfold check at checked
  split at checked
  · next faultless =>
    cases checked
    exact ⟨faultless, rfl⟩
  · cases checked

theorem suffix_ne_empty {given : Option Value} (faultless : suffixFaults given = []) :
    (given.bind Value.textOf?).getD defaults.reservedSuffix ≠ "" := by
  unfold suffixFaults at faultless
  split at faultless
  · cases faultless
  · next other =>
    unfold textFaults at faultless
    split at faultless
    · decide
    · next s =>
      intro empty
      have none : s = "" := empty
      exact other (none ▸ rfl)
    · cases faultless

/-- Settings that pass the check have a suffix. -/
theorem suffix_of_ofValue {given : Value} (valid : ofValue given = .ok settings) :
    settings.reservedSuffix ≠ "" := by
  obtain ⟨faultless, taken⟩ := faultless_of_ofValue valid
  simp only [faults, List.append_eq_nil_iff] at faultless
  exact taken ▸ suffix_ne_empty faultless.1.1.1

theorem sanitized_eq (settings : Settings) (name : String) :
    settings.sanitized name =
      if Reserved settings.extraReservedWords name then name ++ settings.reservedSuffix
      else name := by
  unfold sanitized rename
  exact if_congr isReserved_iff rfl rfl

theorem sanitized_eq_self (suffix : settings.reservedSuffix ≠ "") :
    settings.sanitized name = name ↔ ¬ Reserved settings.extraReservedWords name := by
  rw [sanitized_eq]
  split
  · next reserved =>
    refine iff_of_false (fun same => suffix ?_) (not_not_intro reserved)
    have chars := congrArg String.toList same
    rw [String.toList_append, List.append_right_eq_self] at chars
    exact String.toList_inj.mp chars
  · next free => exact iff_of_true rfl free

/-- The suffix has an underscore, and no extra word has one. -/
structure Separating (settings : Settings) : Prop where
  suffix : '_' ∈ settings.reservedSuffix.toList
  words : ∀ word ∈ settings.extraReservedWords, Plain word

namespace Separating

theorem not_plain (h : settings.Separating) (name : String) :
    ¬ Plain (name ++ settings.reservedSuffix) := by
  rw [Plain, String.toList_append, not_not]
  exact List.mem_append_right _ h.suffix

theorem not_reserved (h : settings.Separating) (name : String) :
    ¬ Reserved settings.extraReservedWords (settings.sanitized name) := by
  rw [sanitized_eq]
  split
  · exact fun reserved => h.not_plain name (reserved.plain h.words)
  · next free => exact free

theorem sanitized_injective (h : settings.Separating) {name name' : String} (plain : Plain name)
    (plain' : Plain name') (same : settings.sanitized name = settings.sanitized name') :
    name = name' := by
  rw [sanitized_eq, sanitized_eq] at same
  split at same <;> split at same
  · have chars := congrArg String.toList same
    rw [String.toList_append, String.toList_append, List.append_cancel_right_eq] at chars
    exact String.toList_inj.mp chars
  · exact absurd (same ▸ plain') (h.not_plain name)
  · exact absurd (same.symm ▸ plain) (h.not_plain name')
  · exact same

end Separating
end Settings

namespace Registry

variable {settings : Settings} {reg : Registry}

/-- The entry is the warning about a reserved name with the key for its subject, and it tells the
name and the one that takes its place. -/
def WarnsOf (settings : Settings) (reg : Registry) (key : String) (e : Entry) : Prop :=
  ∃ message, e = .finding .sanitizing ⟨.reservedName, .warning, message, some key⟩ ∧
    Text.Holds message (reg.nameOf key) ∧
    Text.Holds message (reg.nameOf key ++ settings.reservedSuffix)

theorem warnsOf_entry (settings : Settings) (reg : Registry) (key : String) :
    WarnsOf settings reg key
      (Renaming.entry ⟨key, reg.nameOf key, reg.nameOf key ++ settings.reservedSuffix⟩) := by
  refine ⟨_, rfl, ?_⟩
  unfold Renaming.message
  exact ⟨(Text.Holds.last _ _).append _ |>.append _ |>.append _ |>.append _ |>.append _,
    (Text.Holds.last _ _).append _ |>.append _ |>.append _⟩

/-- The keys of the records whose names are reserved, in registry order. -/
def reservedKeys (settings : Settings) (reg : Registry) : List String :=
  reg.keys.filter fun key => Reserved settings.extraReservedWords (reg.nameOf key)

theorem nameOf_of_get? {key : String} {model : Model} (h : reg.get? key = some model) :
    reg.nameOf key = model.name := by
  rw [nameOf, nameIn, show reg.records.get? key = some model from h]

theorem nameOf_of_mem {e : String × Model} (member : e ∈ reg.records.entries) :
    reg.nameOf e.1 = e.2.name := nameOf_of_get? (Table.get?_eq_some_iff.mpr member)

theorem renamings_eq (suffix : settings.reservedSuffix ≠ "") (reg : Registry) :
    reg.renamings settings = (reg.reservedKeys settings).map fun key =>
      ⟨key, reg.nameOf key, reg.nameOf key ++ settings.reservedSuffix⟩ := by
  have each : ∀ es : List (String × Model), (∀ e ∈ es, e ∈ reg.records.entries) →
      (es.filterMap fun e =>
        let new := settings.sanitized e.2.name
        if new = e.2.name then none else some (Renaming.mk e.1 e.2.name new)) =
      ((es.map Prod.fst).filter fun key =>
        Reserved settings.extraReservedWords (reg.nameOf key)).map fun key =>
          ⟨key, reg.nameOf key, reg.nameOf key ++ settings.reservedSuffix⟩ := by
    intro es inside
    induction es with
    | nil => rfl
    | cons e es ih =>
        have known := nameOf_of_mem (inside e List.mem_cons_self)
        rw [List.map_cons, List.filterMap_cons, List.filter_cons, known,
          ih fun d hd => inside d (List.mem_cons_of_mem e hd)]
        simp only [Settings.sanitized_eq]
        by_cases reserved : Reserved settings.extraReservedWords e.2.name
        · simp [reserved, known, suffix]
        · simp [reserved]
  exact each reg.records.entries fun _ member => member

theorem sanitizeLogged_run (settings : Settings) (reg : Registry) (j : Journal) :
    (reg.sanitizeLogged settings).run j =
      (.ok (reg.sanitize settings, (reg.renamings settings).map Renaming.key),
        j ++ (reg.renamings settings).map Renaming.entry) := rfl

theorem sanitize_keys (settings : Settings) (reg : Registry) :
    (reg.sanitize settings).keys = reg.keys := Table.names_map _ _

theorem sanitize_get? (settings : Settings) (reg : Registry) (key : String) :
    (reg.sanitize settings).get? key =
      (reg.get? key).map fun m => m.withName (settings.sanitized m.name) :=
  Table.get?_map _ _ _

theorem sanitize_nameOf {key : String} (registered : key ∈ reg.keys) :
    (reg.sanitize settings).nameOf key = settings.sanitized (reg.nameOf key) := by
  obtain ⟨model, found⟩ := Table.mem_names.mp registered
  have stored := sanitize_get? settings reg key
  rw [show reg.get? key = some model from found, Option.map_some] at stored
  rw [nameOf_of_get? stored, nameOf_of_get? (show reg.get? key = some model from found)]
  rfl

/-- Where no name changes, the registry stays what it is. -/
theorem sanitize_eq_self (same : ∀ key ∈ reg.keys, settings.sanitized (reg.nameOf key) =
    reg.nameOf key) : reg.sanitize settings = reg := by
  have records : (reg.records.map fun _ m => m.withName (settings.sanitized m.name)) =
      reg.records := by
    refine Table.ext_get? (Table.names_map _ _) fun key => ?_
    rw [Table.get?_map]
    cases found : reg.records.get? key with
    | none => rfl
    | some model =>
        have kept := same key (Table.mem_names.mpr ⟨model, found⟩)
        rw [nameOf_of_get? found] at kept
        rw [Option.map_some, kept]
        rfl
  rw [sanitize, records]

theorem nameOf_discovered {schemas : Value} (found : discover schemas = .ok reg) {key : String}
    (registered : key ∈ reg.keys) : reg.nameOf key = pascal key := by
  obtain ⟨es, -, rfl⟩ := discover_pairs found
  obtain ⟨model, stored⟩ := Table.mem_names.mp registered
  rw [nameOf_of_get? (show Registry.get? _ key = some model from stored)]
  rw [Table.get?_map] at stored
  obtain ⟨schema, -, rfl⟩ := Option.map_eq_some_iff.mp stored
  rfl

/-- Sanitizing what was discovered gives the suffix to the reserved names, tells of each of them by
a warning, yields their keys in order, and leaves all else as it is. If the suffix has an underscore
and no extra word has one, then no reserved name is left, names that differ still differ, and
sanitizing again does and tells nothing. -/
theorem sanitizing_exact {schemas given : Value} {reg : Registry} {settings : Settings}
    (found : discover schemas = .ok reg) (valid : Settings.ofValue given = .ok settings)
    (j : Journal) :
    ∃ after warnings, (reg.sanitizeLogged settings).run j =
        (.ok (after, reg.reservedKeys settings), j ++ warnings) ∧
      List.Forall₂ (WarnsOf settings reg) (reg.reservedKeys settings) warnings ∧
      (reg.reservedKeys settings).Nodup ∧
      after.schemas = reg.schemas ∧ after.keys = reg.keys ∧
      (∀ key, after.get? key = (reg.get? key).map fun m => m.withName
        (if Reserved settings.extraReservedWords m.name then m.name ++ settings.reservedSuffix
          else m.name)) ∧
      (settings.Separating →
        (∀ key ∈ after.keys, ¬ Reserved settings.extraReservedWords (after.nameOf key)) ∧
        (∀ key ∈ reg.keys, ∀ key' ∈ reg.keys, reg.nameOf key ≠ reg.nameOf key' →
          after.nameOf key ≠ after.nameOf key') ∧
        ∀ k, (after.sanitizeLogged settings).run k = (.ok (after, []), k)) := by
  have suffix := Settings.suffix_of_ofValue valid
  have renamings := renamings_eq suffix reg
  refine ⟨reg.sanitize settings, (reg.reservedKeys settings).map fun key =>
      Renaming.entry ⟨key, reg.nameOf key, reg.nameOf key ++ settings.reservedSuffix⟩, ?_, ?_,
    reg.records.names_nodup.filter _, rfl, sanitize_keys settings reg, fun key => ?_,
    fun separating => ⟨?_, ?_, fun k => ?_⟩⟩
  · rw [sanitizeLogged_run, renamings, List.map_map, List.map_map]
    have keys : (Renaming.key ∘ fun key => Renaming.mk key (reg.nameOf key)
        (reg.nameOf key ++ settings.reservedSuffix)) = id := rfl
    rw [keys, List.map_id]
    rfl
  · exact List.forall₂_map_right_iff.mpr
      (List.forall₂_same.mpr fun key _ => warnsOf_entry settings reg key)
  · simp only [sanitize_get?, Settings.sanitized_eq]
  · intro key registered
    rw [sanitize_keys] at registered
    rw [sanitize_nameOf registered]
    exact separating.not_reserved _
  · intro key registered key' registered' differ same
    rw [sanitize_nameOf registered, sanitize_nameOf registered'] at same
    refine differ (separating.sanitized_injective ?_ ?_ same)
    · exact nameOf_discovered found registered ▸ pascal_plain key
    · exact nameOf_discovered found registered' ▸ pascal_plain key'
  · have settled : ∀ key ∈ (reg.sanitize settings).keys,
        ¬ Reserved settings.extraReservedWords ((reg.sanitize settings).nameOf key) := by
      intro key registered
      rw [sanitize_keys] at registered
      rw [sanitize_nameOf registered]
      exact separating.not_reserved _
    have none : (reg.sanitize settings).reservedKeys settings = [] :=
      List.filter_eq_nil_iff.mpr fun key registered => by simpa using settled key registered
    have same := sanitize_eq_self fun key registered =>
      (Settings.sanitized_eq_self suffix).mpr (settled key registered)
    rw [sanitizeLogged_run, renamings_eq suffix, none, same]
    simp

/-- A schema whose name is a keyword, and one whose name is not. -/
def classSchemas : Value := .map [(.text "class", .map []), (.text "Pet", .map [])]

theorem separating_defaults : Settings.defaults.Separating := ⟨by decide, by decide⟩

/-- The warning about the keyword. -/
def classWarning : Entry :=
  .finding .sanitizing ⟨.reservedName, .warning,
    "Model name 'Class' is a reserved word. Renaming to 'Class_' (schema key: class).",
    some "class"⟩

theorem sanitizing_classSchemas :
    Settings.ofValue (.map []) = .ok .defaults ∧ Settings.defaults.Separating ∧
      ∃ reg after, discover classSchemas = .ok reg ∧
        (reg.sanitizeLogged .defaults).run [] = (.ok (after, ["class"]), [classWarning]) ∧
        after.nameOf "class" = "Class_" ∧ after.nameOf "Pet" = "Pet" ∧
        (after.sanitizeLogged .defaults).run [] = (.ok (after, []), []) := by
  have valid : Settings.ofValue (.map []) = .ok .defaults := by decide
  have evaluated : (discover classSchemas).map (fun reg => (reg.reservedKeys .defaults,
      (reg.renamings .defaults).map Renaming.entry, (reg.sanitize .defaults).nameOf "class",
      (reg.sanitize .defaults).nameOf "Pet")) = .ok (["class"], [classWarning], "Class_", "Pet") := by
    decide +kernel
  obtain ⟨reg, found, facts⟩ := attempt_map_ok evaluated
  simp only [Prod.mk.injEq] at facts
  obtain ⟨keys, told, name, name'⟩ := facts
  obtain ⟨after, warnings, run, -, -, -, -, -, separated⟩ := sanitizing_exact found valid []
  have both := (sanitizeLogged_run .defaults reg []).symm.trans run
  have made : after = reg.sanitize .defaults :=
    (congrArg Prod.fst (Except.ok.inj (congrArg Prod.fst both))).symm
  have warned : [classWarning] = warnings := told ▸ congrArg Prod.snd both
  rw [keys, ← warned] at run
  refine ⟨valid, separating_defaults, reg, after, found, run, ?_, ?_, ?_⟩
  · rw [made, name]
  · rw [made, name']
  · exact (separated separating_defaults).2.2 []

end Registry
end SdkBlueprint
