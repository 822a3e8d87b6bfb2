import SdkBlueprint.Proofs.Document.YamlContent
import SdkBlueprint.Proofs.Document.YamlNode
import SdkBlueprint.Source.Basic

/-! What loading a document comes to. It gives an object or fails as a document does, but for texts
that get past the errors of documents: files that are no text, integers and
versions with too many digits, escapes of numbers that no character has, and scalars that do not fit
their tags. -/
namespace SdkBlueprint.Source
open SdkBlueprint.Document

/-- The text is read as YAML, for it is said to be, or it is no JSON and not said to be. -/
def TriesYaml (text : String) (format : Option Format) : Prop :=
  format = some .yaml ∨ format = none ∧ ∃ reason, Json.read text = .error (.malformed reason)

/-- A text of which no error of documents speaks, and what is wrong with it. -/
inductive Slips (text : String) (format : Option Format) : Misuse → Prop
  | integer (tried : format ≠ some .yaml) (long : Json.read text = .error .longInteger) :
      Slips text format .badValue
  | escape (tried : TriesYaml text format) (beyond : Yaml.EscapesBeyond text.toList) :
      Slips text format .badValue
  | version (tried : TriesYaml text format) (beyond : Yaml.VersionBeyond text.toList) :
      Slips text format .badValue
  | scalar {node cause} (tried : TriesYaml text format) (read : Yaml.node text = .ok node)
      (misfit : Yaml.Misfit node cause) : Slips text format cause

/-- What becomes of a text: an object, an error of documents, or neither for a slip. -/
inductive Parses (text : String) (format : Option Format) : Attempt Value → Prop
  | object {v} (map : v.isMap = true) : Parses text format (.ok v)
  | document (cause : DocumentFailure) : Parses text format (.error (.document cause))
  | slip {cause} (slips : Slips text format cause) : Parses text format (.error (.misuse cause))

theorem objectOf_parses (text : String) (format : Option Format) (origin : String) (v : Value) :
    Parses text format (objectOf origin v) := by
  unfold objectOf
  split
  · next map => exact .object map
  · exact .document _

/-- YAML that is refused for its use of the language is a slip. -/
theorem yaml_slips {text : String} {format : Option Format} {cause : Misuse}
    (tried : TriesYaml text format) (refused : Yaml.read text = .error (.misuse cause)) :
    Slips text format cause := by
  unfold Yaml.read at refused
  cases read : Yaml.node text with
  | error refusal =>
      rw [read] at refused
      cases refused
      rcases Yaml.node_refuses text _ read with ⟨_, ⟨⟩⟩ | ⟨⟨⟩, beyond | beyond⟩
      · exact .escape tried beyond
      · exact .version tried beyond
  | ok node =>
      rw [read] at refused
      exact .scalar tried read (Yaml.value_blames node _ refused cause rfl)

theorem parseYaml_parses {text : String} {format : Option Format} (origin : String)
    (jsonReason : Option String) (tried : TriesYaml text format) :
    Parses text format (parseYaml origin jsonReason text) := by
  unfold parseYaml
  split
  · exact objectOf_parses _ _ _ _
  · exact .document _
  · next refused => exact .slip (yaml_slips tried refused)

theorem parse_parses (text : String) (format : Option Format) (origin : String) :
    Parses text format (parse text format origin) := by
  unfold parse
  split
  · exact parseYaml_parses _ _ (.inl rfl)
  · next unknown =>
    split
    · exact objectOf_parses _ _ _ _
    · next long => exact .slip (.integer unknown long)
    · next reason malformed =>
      split
      · exact .document _
      · next free =>
        have free : format = none := by simpa using free
        exact parseYaml_parses _ _ (.inr ⟨free, reason, malformed⟩)

/-- What becomes of a source. A file may also have bytes that are no text. -/
inductive Loads (e : Environment) (source : String) : Attempt Value → Prop
  | object {v} (map : v.isMap = true) : Loads e source (.ok v)
  | document (cause : DocumentFailure) : Loads e source (.error (.document cause))
  | encoding {content} (origin : originOf source = .file)
      (there : e.node? (FilePath.ofText source) = some (.file content))
      (noText : String.fromUTF8? content = none) : Loads e source (.error (.misuse .badEncoding))
  | slip {doc cause} (found : find e source (originOf source) = .ok doc)
      (slips : Slips doc.text doc.format cause) : Loads e source (.error (.misuse cause))

theorem find_fails (e : Environment) (source : String) :
    FailsAs (fun f => Loads e source (.error f)) (find e source (originOf source)) := by
  cases origin : originOf source with
  | input =>
      unfold find fromInput
      simp only []
      split
      · exact .error (.document _)
      · exact .ok _
  | network =>
      unfold find fromNetwork
      simp only []
      split
      · exact .error (.document _)
      · split
        · exact .ok _
        · exact .error (.document _)
  | file =>
      unfold find fromFile
      refine FailsAs.bind ?_ fun text _ => ?_
      · unfold Environment.text?
        split
        · next content there =>
          split
          · exact .ok _
          · next noText => exact .error (.encoding origin there noText)
        · exact .ok none
      · split
        · exact .error (.document _)
        · split
          · exact .error (.document _)
          · exact .ok _

theorem load_result (e : Environment) (source : String) :
    (load e source).result =
      find e source (originOf source) >>= fun found => parse found.text found.format source := by
  simp only [load, Logged.remark, Logged.result, Logged.run_bind, Logged.run_note,
    Logged.run_attempt]
  cases find e source (originOf source) with
  | error f => rfl
  | ok found => rfl

theorem load_loads (e : Environment) (source : String) :
    Loads e source (load e source).result := by
  rw [load_result]
  cases found : find e source (originOf source) with
  | error f => exact find_fails e source f found
  | ok doc =>
      have outcome := parse_parses doc.text doc.format source
      change Loads e source (parse doc.text doc.format source)
      generalize parse doc.text doc.format source = r at outcome ⊢
      cases outcome with
      | object map => exact .object map
      | document cause => exact .document cause
      | slip slips => exact .slip found slips

/-- The failure of a step that fails. -/
def failure? {α : Type} : Attempt α → Option Failure
  | .ok _ => none
  | .error f => some f

end SdkBlueprint.Source
