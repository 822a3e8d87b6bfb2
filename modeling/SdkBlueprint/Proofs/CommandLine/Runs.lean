import SdkBlueprint.Proofs.Blueprint.Json
import SdkBlueprint.Proofs.CommandLine.Stages
import SdkBlueprint.Proofs.Console.Messages

/-! Runs of a conversion. The first stage that fails decides the exit code, and a run delivers all
or nothing. What the run tells beside is its own affair. -/
namespace SdkBlueprint.CommandLine
open SdkBlueprint.Console SdkBlueprint.Document

/-- What a run leaves behind but for what it tells: its exit code, its output and its files. -/
structure Effect where
  exitCode : Nat
  stdout : String
  files : List (FilePath × String)

def Outcome.effect (o : Outcome) : Effect := ⟨o.exitCode, o.output.stdout, o.output.files⟩

section Finishing

variable {p : Printer} {steps : Printing Nat} {data : String} {files : List (FilePath × String)}

theorem finish_ok {code : Nat} (h : Prints steps (.ok code) data files) :
    (finish p steps).effect = ⟨code, data, files⟩ := by
  obtain ⟨told, run⟩ := h .empty
  rw [finish, run]
  simp [Outcome.effect, Output.empty]

theorem finish_error {f : Failure} (h : Prints steps (.error f) data files) :
    (finish p steps).effect = ⟨f.exitCode, data, files⟩ := by
  obtain ⟨told, run⟩ := h .empty
  rw [finish, run]
  obtain ⟨more, said⟩ := p.error_tells (report f)
    ⟨Output.empty.stdout ++ data, Output.empty.stderr ++ told, Output.empty.files ++ files⟩
  simp only [said]
  simp [Outcome.effect, Output.empty]

end Finishing

/-- A run that leaves nothing behind. -/
def refusal (code : Nat) : Effect := ⟨code, "", []⟩

/-- The payload in its only place, with a line feed behind it. -/
def delivery (r : ConvertRequest) (b : Blueprint) : Effect :=
  match r.output with
  | none => ⟨0, payload r.indent b ++ "\n", []⟩
  | some path => ⟨0, "", [(path, payload r.indent b ++ "\n")]⟩

/-- What a run leaves behind. What it tells has no part in it. -/
def effectOf (e : Environment) (r : ConvertRequest) : Effect :=
  match checkOutput e r.output with
  | .error f => refusal f.exitCode
  | .ok () =>
    match (produce e r.flags r.source).run [] with
    | (.error f, _) => refusal f.exitCode
    | (.ok b, journal) =>
      if r.strict && 0 < journal.warnings.length then refusal strictExitCode
      else
        match payload? r.indent b with
        | .error f => refusal f.exitCode
        | .ok _ => delivery r b

theorem payload?_ok {indent : Nat} {b : Blueprint} {text : String}
    (h : payload? indent b = .ok text) : text = payload indent b := by
  rw [payload?, Json.written] at h
  split at h
  · exact (Except.ok.inj h).symm
  · cases h

theorem payload?_fails (indent : Nat) (b : Blueprint) :
    FailsAs Failure.IsUnexpected (payload? indent b) := Schema.written_fails _ _

theorem ended_payload (indent : Nat) (b : Blueprint) :
    ended (payload indent b) = payload indent b ++ "\n" := by
  rw [ended, payload, b.write_getLast?]
  rfl

theorem data_prints (r : ConvertRequest) (b : Blueprint) : Prints
    (Printer.data (payload r.indent b) r.output) (.ok ()) (delivery r b).stdout
      (delivery r b).files := by
  unfold Printer.data delivery
  rw [ended_payload]
  cases r.output with
  | none => exact toStdout_prints _
  | some path => exact toFile_prints path _

theorem delivery_eq (r : ConvertRequest) (b : Blueprint) :
    delivery r b = ⟨0, (delivery r b).stdout, (delivery r b).files⟩ := by
  unfold delivery
  split <;> rfl

theorem converted_prints (p : Printer) (common : Common) (verbose : Bool)
    (steps : Logged Blueprint) : Prints (converted p common verbose steps)
      ((steps.run []).1.map fun b => (b, (steps.run []).2)) "" [] := by
  unfold converted
  rcases steps.run [] with ⟨f | b, journal⟩
  · exact (p.journal_tells _ _).after (.fail (.attempt (.error f)))
  · exact (p.journal_tells _ _).after (.pure (b, journal))

theorem runConvert_effect (e : Environment) (common : Common) (r : ConvertRequest) :
    (runConvert e common r).effect = effectOf e r := by
  unfold runConvert convertSteps effectOf
  generalize common.printer e = p
  have read := converted_prints p common r.verbose (produce e r.flags r.source)
  cases checked : checkOutput e r.output with
  | error f => exact finish_error (Prints.fail (.attempt (.error f)))
  | ok =>
      have passed : Prints (attempt (.ok ())) (.ok ()) "" [] := .attempt _
      rcases run : (produce e r.flags r.source).run [] with ⟨f | b, journal⟩ <;> rw [run] at read
      · exact finish_error (passed.after read.fail)
      · simp only []
        by_cases refused : (r.strict && decide (0 < journal.warnings.length)) = true
        · rw [if_pos refused]
          refine finish_ok (passed.after (read.after ?_))
          simp only [refused, if_true]
          exact (p.error_tells _).after (.pure _)
        · rw [if_neg refused]
          cases written : payload? r.indent b with
          | error f =>
              refine finish_error (passed.after (read.after ?_))
              simp only [refused, written]
              exact Prints.fail (.attempt (.error f))
          | ok text =>
              simp only []
              rw [delivery_eq]
              refine finish_ok (passed.after (read.after ?_))
              simp only [refused, written, payload?_ok written]
              refine Prints.after (.attempt (.ok _)) ((data_prints r b).before ?_)
              refine .given (p.warning_tells _) ?_
              split
              · exact (p.success_tells _).after (.pure 0)
              · exact .pure 0

/-- The document at a source, once its version is known to be supported. -/
def documentAt (e : Environment) (source : String) : Logged Value := do
  let document ← Source.load e source
  let _ ← Source.checkVersion document
  return document

/-- The exit code of a run by the first stage that fails, and the blueprint if none does. Only
warnings make a strict run fail. -/
inductive Verdict (e : Environment) (r : ConvertRequest) : Nat → Option Blueprint → Prop
  | output {f} (refused : checkOutput e r.output = .error f) : Verdict e r 2 none
  | settings {f} (free : checkOutput e r.output = .ok ())
      (refused : Settings.resolve e r.flags none = .error f) : Verdict e r 1 none
  | document {s f j} (free : checkOutput e r.output = .ok ())
      (chosen : Settings.resolve e r.flags none = .ok s)
      (refused : (documentAt e r.source).run [] = (.error f, j)) : Verdict e r 7 none
  | conversion {s d f j k} (free : checkOutput e r.output = .ok ())
      (chosen : Settings.resolve e r.flags none = .ok s)
      (read : (documentAt e r.source).run [] = (.ok d, j))
      (refused : (convert s d).run j = (.error f, k)) : Verdict e r 8 none
  | strict {s d b j k} (free : checkOutput e r.output = .ok ())
      (chosen : Settings.resolve e r.flags none = .ok s)
      (read : (documentAt e r.source).run [] = (.ok d, j))
      (made : (convert s d).run j = (.ok b, k)) (strict : r.strict = true)
      (warned : ∃ f ∈ k.findings, f.severity = .warning) : Verdict e r 9 none
  | success {s d b j k} (free : checkOutput e r.output = .ok ())
      (chosen : Settings.resolve e r.flags none = .ok s)
      (read : (documentAt e r.source).run [] = (.ok d, j))
      (made : (convert s d).run j = (.ok b, k))
      (calm : r.strict = true → ∀ f ∈ k.findings, f.severity = .info) : Verdict e r 0 (some b)

/-- The failure ends a run whose output path is free: no blueprint is made, or one that is not
refused cannot be written. -/
def Arises (e : Environment) (r : ConvertRequest) (f : Failure) : Prop :=
  checkOutput e r.output = .ok () ∧
    ((produce e r.flags r.source).result = .error f ∨
      ∃ b k, (produce e r.flags r.source).run [] = (.ok b, k) ∧
        ¬ (r.strict = true ∧ 0 < k.warnings.length) ∧ payload? r.indent b = .error f)

/-- The JSON text of a blueprint with one line feed at its end, in the only place that is asked
for; without a blueprint there is nothing in any place. -/
def Delivered (r : ConvertRequest) (out : Output) : Option Blueprint → Prop
  | none => out.stdout = "" ∧ out.files = []
  | some b => ∃ text, Json.written (outputLayout r.indent) b.toValue = .ok text ∧
      text.toList.getLast? ≠ some '\n' ∧
      match r.output with
      | none => out.stdout = text ++ "\n" ∧ out.files = []
      | some path => out.stdout = "" ∧ out.files = [(path, text ++ "\n")]

section Stages

variable {e : Environment} {r : ConvertRequest}

theorem produce_eq (e : Environment) (flags : Settings.Flags) (source : String) :
    produce e flags source = Logged.attempt (Settings.resolve e flags none) >>= fun s =>
      documentAt e source >>= convert s := by
  simp only [produce, documentAt, bind_assoc, pure_bind]

theorem produce_chosen {flags : Settings.Flags} {s : Settings}
    (chosen : Settings.resolve e flags none = .ok s) (source : String) :
    produce e flags source = documentAt e source >>= convert s := by
  rw [produce_eq, chosen, Logged.attempt_ok_bind]

theorem documentAt_fails (e : Environment) (source : String) :
    FailsAs Failure.IsOfDocument ((documentAt e source).run []).1 := by
  have loads := Source.load_fails e source
  rw [documentAt, Logged.run_bind]
  rcases run : (Source.load e source).run [] with ⟨f | document, j⟩
  · exact .error (loads f (by rw [Logged.result, run]))
  · exact ((Source.checkVersion_fails document).bind fun _ => .pure document) j

theorem checkOutput_exitCode {f : Failure} (refused : checkOutput e r.output = .error f) :
    f.exitCode = 2 := by
  unfold checkOutput at refused
  split at refused
  · cases refused
  · split at refused
    · cases refused
      rfl
    · split at refused
      · cases refused
      · cases refused
        rfl

/-- A run that ends in a failure that is reported leaves nothing but the exit code of it. -/
theorem effectOf_failed {f : Failure} {k : Journal} {code : Nat}
    (reported : ∀ f, Arises e r f → ¬ f.IsUnexpected) (free : checkOutput e r.output = .ok ())
    (failed : (produce e r.flags r.source).run [] = (.error f, k))
    (known : ¬ f.IsUnexpected → f.exitCode = code) : effectOf e r = refusal code := by
  have arises : Arises e r f := ⟨free, .inl (by rw [Logged.result, failed])⟩
  simp only [effectOf, free, failed, known (reported f arises)]

theorem effectOf_made {b : Blueprint} {k : Journal} (free : checkOutput e r.output = .ok ())
    (made : (produce e r.flags r.source).run [] = (.ok b, k)) :
    effectOf e r = if r.strict && decide (0 < k.warnings.length) then refusal strictExitCode
      else
        match payload? r.indent b with
        | .error f => refusal f.exitCode
        | .ok _ => delivery r b := by
  simp only [effectOf, free, made]

theorem warned_iff {k : Journal} :
    0 < k.warnings.length ↔ ∃ f ∈ k.findings, f.severity = .warning := by
  rw [List.length_pos_iff_exists_mem]
  simp only [Journal.warnings, List.mem_filter, beq_iff_eq]

namespace Verdict

variable {code : Nat} {b? : Option Blueprint}

/-- A blueprint that is not refused can be written, since nothing unexpected arises. -/
theorem written {b : Blueprint} (h : Verdict e r code (some b))
    (reported : ∀ f, Arises e r f → ¬ f.IsUnexpected) :
    payload? r.indent b = .ok (payload r.indent b) := by
  cases h with
  | @success s d b j k free chosen read made calm =>
      cases outcome : payload? r.indent b with
      | ok text => rw [payload?_ok outcome]
      | error f =>
          have run : (produce e r.flags r.source).run [] = (.ok b, k) := by
            rw [produce_chosen chosen, Logged.run_bind, read]
            exact made
          have unrefused : ¬ (r.strict = true ∧ 0 < k.warnings.length) := by
            rintro ⟨isStrict, some⟩
            obtain ⟨d, hd, warning⟩ := warned_iff.mp some
            cases (calm isStrict d hd).symm.trans warning
          exact absurd (payload?_fails r.indent b f outcome)
            (reported f ⟨free, .inr ⟨b, k, run, unrefused, outcome⟩⟩)

/-- What a verdict leaves behind. -/
theorem leaves (h : Verdict e r code b?) (reported : ∀ f, Arises e r f → ¬ f.IsUnexpected) :
    effectOf e r = (b?.map (delivery r)).getD (refusal code) := by
  have verdict := h
  cases h with
  | output refused =>
      rw [effectOf, refused]
      exact congrArg refusal (checkOutput_exitCode refused)
  | @settings f free refused =>
      refine effectOf_failed (f := f) (k := []) reported free ?_ fun told => ?_
      · rw [produce_eq, refused]
        rfl
      · obtain ⟨cause, rfl⟩ := (Settings.resolve_fails e r.flags none f refused).resolve_left told
        rfl
  | @document s f j free chosen refused =>
      refine effectOf_failed (f := f) (k := j) reported free ?_ fun told => ?_
      · rw [produce_chosen chosen, Logged.run_bind, refused]
      · have sort := documentAt_fails e r.source f (by rw [refused])
        obtain ⟨cause, rfl⟩ := sort.resolve_left told
        rfl
  | @conversion s d f j k free chosen read refused =>
      refine effectOf_failed (f := f) (k := k) reported free ?_ fun told => ?_
      · rw [produce_chosen chosen, Logged.run_bind, read]
        exact refused
      · have sort := convert_fails s d j f (by rw [refused])
        obtain ⟨schema, reference, rfl⟩ := sort.resolve_left told
        rfl
  | @strict s d b j k free chosen read made strict warned =>
      have run : (produce e r.flags r.source).run [] = (.ok b, k) := by
        rw [produce_chosen chosen, Logged.run_bind, read]
        exact made
      rw [effectOf_made free run, if_pos (by simpa [strict] using warned_iff.mpr warned)]
      rfl
  | @success s d b j k free chosen read made calm =>
      have run : (produce e r.flags r.source).run [] = (.ok b, k) := by
        rw [produce_chosen chosen, Logged.run_bind, read]
        exact made
      rw [effectOf_made free run, if_neg ?_]
      · rw [verdict.written reported]
        rfl
      · intro refused
        rw [Bool.and_eq_true, decide_eq_true_iff, warned_iff] at refused
        obtain ⟨strict, f, hf, warning⟩ := refused
        cases (calm strict f hf).symm.trans warning

theorem total (e : Environment) (r : ConvertRequest) : ∃ code b?, Verdict e r code b? := by
  cases free : checkOutput e r.output with
  | error f => exact ⟨_, _, .output free⟩
  | ok =>
      cases chosen : Settings.resolve e r.flags none with
      | error f => exact ⟨_, _, .settings free chosen⟩
      | ok s =>
          rcases read : (documentAt e r.source).run [] with ⟨f | d, j⟩
          · exact ⟨_, _, .document free chosen read⟩
          · rcases made : (convert s d).run j with ⟨f | b, k⟩
            · exact ⟨_, _, .conversion free chosen read made⟩
            · by_cases refused : r.strict = true ∧ ∃ f ∈ k.findings, f.severity = .warning
              · exact ⟨_, _, .strict free chosen read made refused.1 refused.2⟩
              · refine ⟨_, _, .success free chosen read made fun strict f hf => ?_⟩
                cases severity : f.severity with
                | info => rfl
                | warning => exact absurd ⟨strict, f, hf, severity⟩ refused

end Verdict

theorem refusal_delivers {o : Outcome} {code : Nat} (h : o.effect = refusal code) :
    o.exitCode = code ∧ Delivered r o.output none := by
  obtain ⟨exit, out, files⟩ := Effect.mk.inj h
  exact ⟨exit, out, files⟩

theorem delivery_delivers {o : Outcome} {b : Blueprint} (h : o.effect = delivery r b)
    (written : payload? r.indent b = .ok (payload r.indent b)) :
    o.exitCode = 0 ∧ Delivered r o.output (some b) := by
  rw [delivery_eq] at h
  obtain ⟨exit, out, files⟩ := Effect.mk.inj h
  refine ⟨exit, payload r.indent b, written, ?_, ?_⟩
  · rw [payload, b.write_getLast?]
    decide
  · unfold delivery at out files
    cases place : r.output with
    | none =>
        rw [place] at out files
        exact ⟨out, files⟩
    | some path =>
        rw [place] at out files
        exact ⟨out, files⟩

end Stages

/-- Variables that only the printing of messages heeds. -/
def consoleVariables : List String := ["NO_COLOR", "TERM", "COLUMNS"]

/-- Surroundings that differ in the variables of the console alone. -/
structure SameButConsole (e e' : Environment) : Prop where
  rest : e' = { e with valueOf? := e'.valueOf? }
  valueOf? : ∀ name, name ∉ consoleVariables → e'.valueOf? name = e.valueOf? name

namespace SameButConsole

variable {e e' : Environment}

theorem resolve (h : SameButConsole e e') (flags : Settings.Flags) (folder : Option String) :
    Settings.resolve e' flags folder = Settings.resolve e flags folder := by
  have layer : Settings.variableLayer e' = Settings.variableLayer e := by
    simp only [Settings.variableLayer, h.valueOf? _ (by decide : "SPECIR_RESERVED_SUFFIX" ∉ _),
      h.valueOf? _ (by decide : "SPECIR_DEFAULT_TAG" ∉ _),
      h.valueOf? _ (by decide : "SPECIR_SERVICE_SUFFIX" ∉ _),
      h.valueOf? _ (by decide : "SPECIR_EXTRA_RESERVED_WORDS" ∉ _)]
  unfold Settings.resolve
  rw [layer, h.rest]
  rfl

theorem effectOf (h : SameButConsole e e') {r r' : ConvertRequest}
    (same : r' = { r with verbose := r'.verbose }) :
    CommandLine.effectOf e' r' = CommandLine.effectOf e r := by
  have checked : checkOutput e' r.output = checkOutput e r.output := by
    rw [h.rest]
    rfl
  have read : documentAt e' r.source = documentAt e r.source := by
    rw [h.rest]
    rfl
  have produced : produce e' r.flags r.source = produce e r.flags r.source := by
    rw [produce_eq, produce_eq, h.resolve, read]
  rw [same]
  unfold CommandLine.effectOf
  simp only [checked, produced]
  rfl

end SameButConsole

/-- A conversion has one verdict where nothing fails but what is reported. Its exit code is that
of the first stage that fails, and it delivers the whole result in one place or nothing anywhere.
How much is told, and how, makes no difference to that. -/
theorem convert_all_or_nothing {args : List String} {common : Common} {r : ConvertRequest}
    {e : Environment} (asked : request args = .ok (.convert common r))
    (reported : ∀ f, Arises e r f → ¬ f.IsUnexpected) :
    (∃ code b?, Verdict e r code b?) ∧
      (∀ code b?, Verdict e r code b? →
        (run e args).exitCode = code ∧ Delivered r (run e args).output b?) ∧
      ∀ e' args' common' r', SameButConsole e e' → request args' = .ok (.convert common' r') →
        r' = { r with verbose := r'.verbose } → (run e' args').effect = (run e args).effect := by
  have effect : ∀ {e args common r}, request args = .ok (.convert common r) →
      (run e args).effect = effectOf e r := by
    intro e args common r asked
    rw [run, asked]
    exact runConvert_effect e common r
  refine ⟨Verdict.total e r, fun code b? verdict => ?_,
    fun e' args' common' r' same asked' flags => ?_⟩
  · have left := (effect asked).trans (verdict.leaves reported)
    cases b? with
    | none => exact refusal_delivers left
    | some b =>
        have written := verdict.written reported
        cases verdict
        exact delivery_delivers left written
  · rw [effect asked, effect asked', same.effectOf flags]

deriving instance DecidableEq for Settings.Flags, Common, ConvertRequest, SummaryRequest, Request

theorem ok_of_toOption {ε α : Type} {x : Except ε α} {a : α} (h : x.toOption = some a) :
    x = .ok a := by
  cases x with
  | error e => cases h
  | ok b => exact congrArg Except.ok (Option.some.inj h)

/-- A document that comes in on the input, with an operation that declares no responses. -/
def pipedDocument : Environment :=
  ⟨fun _ => none, fun _ => none, "",
    "\x7b\"openapi\": \"3.0.0\", \"paths\": \x7b\"/pets\": \x7b\"get\": \x7b\x7d\x7d\x7d\x7d",
    fun _ => .failed ""⟩

def strictRequest : ConvertRequest := ⟨"-", none, 2, .none, true, false⟩

/-- The warning about the operation makes a strict run fail, and telling less of it or more
changes nothing. -/
theorem strict_pipedDocument :
    (∀ f, Arises pipedDocument strictRequest f → ¬ f.IsUnexpected) ∧
      Verdict pipedDocument strictRequest 9 none ∧
      (run pipedDocument ["convert", "-", "--strict"]).effect = refusal 9 ∧
      (run pipedDocument ["--quiet", "--no-color", "convert", "-v", "--strict", "-"]).effect =
        refusal 9 := by
  have asked : request ["convert", "-", "--strict"] =
      .ok (.convert ⟨false, false⟩ strictRequest) := ok_of_toOption (by decide +kernel)
  have asked' : request ["--quiet", "--no-color", "convert", "-v", "--strict", "-"] =
      .ok (.convert ⟨true, true⟩ { strictRequest with verbose := true }) :=
    ok_of_toOption (by decide +kernel)
  have made : Source.failure? (produce pipedDocument .none "-").result = none := by
    decide +kernel
  have reported : ∀ f, Arises pipedDocument strictRequest f → ¬ f.IsUnexpected := by
    rintro f ⟨_, failed | ⟨b, k, run, unrefused, _⟩⟩
    · change (produce pipedDocument .none "-").result = .error f at failed
      rw [failed] at made
      cases made
    · refine absurd ⟨rfl, ?_⟩ unrefused
      have warned : 0 < ((produce pipedDocument .none "-").run []).2.warnings.length := by
        decide +kernel
      change (produce pipedDocument .none "-").run [] = (.ok b, k) at run
      rwa [run] at warned
  have code : (run pipedDocument ["convert", "-", "--strict"]).exitCode = 9 := by decide +kernel
  obtain ⟨⟨code', b?, verdict⟩, outcome, same⟩ := convert_all_or_nothing asked reported
  have delivered := outcome code' b? verdict
  rw [code] at delivered
  obtain ⟨rfl, delivered⟩ := delivered
  cases verdict with
  | strict free chosen read made strict warned =>
      have left : (run pipedDocument ["convert", "-", "--strict"]).effect = refusal 9 :=
        congr (congr (congrArg Effect.mk code) delivered.1) delivered.2
      refine ⟨reported, .strict free chosen read made strict warned, left, ?_⟩
      exact (same _ _ _ _ ⟨rfl, fun _ _ => rfl⟩ asked' rfl).trans left

end SdkBlueprint.CommandLine
