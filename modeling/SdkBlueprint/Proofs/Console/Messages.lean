import SdkBlueprint.Console.Printer
import SdkBlueprint.Proofs.Console.Escaping
import SdkBlueprint.Proofs.Failures

/-! Messages of a run. They come out whatever they say, and on the error output alone. -/
namespace SdkBlueprint.Console

variable {α β : Type}

/-- What a step comes to and what it writes, but for the error output. -/
def Prints (x : Printing α) (result : Attempt α) (data : String)
    (files : List (FilePath × String)) : Prop :=
  ∀ o, ∃ told, x.run o = (result, ⟨o.stdout ++ data, o.stderr ++ told, o.files ++ files⟩)

/-- The step comes to an end and writes on the error output alone. -/
abbrev TellsOnly (x : Printing Unit) : Prop := Prints x (.ok ()) "" []

namespace Prints

variable {x : Printing α} {f : α → Printing β} {r : Attempt β} {data data' : String}
variable {files files' : List (FilePath × String)}

theorem pure (a : α) : Prints (Pure.pure a) (.ok a) "" [] := by
  intro o
  refine ⟨"", ?_⟩
  simp only [String.append_empty, List.append_nil]
  rfl

theorem attempt (r : Attempt α) : Prints (Console.attempt r) r "" [] := by
  cases r with
  | ok a => exact .pure a
  | error e =>
      intro o
      refine ⟨"", ?_⟩
      simp only [String.append_empty, List.append_nil]
      rfl

theorem bind {a : α} (hx : Prints x (.ok a) data files) (hf : Prints (f a) r data' files') :
    Prints (x >>= f) r (data ++ data') (files ++ files') := by
  intro o
  obtain ⟨told, run⟩ := hx o
  obtain ⟨more, rest⟩ := hf ⟨o.stdout ++ data, o.stderr ++ told, o.files ++ files⟩
  refine ⟨told ++ more, ?_⟩
  rw [StepFails.run_bind, run]
  simpa only [String.append_assoc, List.append_assoc] using rest

theorem fail {e : Failure} (hx : Prints x (.error e) data files) :
    Prints (x >>= f) (.error e) data files := by
  intro o
  obtain ⟨told, run⟩ := hx o
  exact ⟨told, by rw [StepFails.run_bind, run]⟩

/-- Steps that write nothing else leave what the others write as it is. -/
theorem after {a : α} (hx : Prints x (.ok a) "" []) (hf : Prints (f a) r data files) :
    Prints (x >>= f) r data files := by
  have both := hx.bind hf
  rwa [String.empty_append, List.nil_append] at both

theorem before {a : α} (hx : Prints x (.ok a) data files) (hf : Prints (f a) r "" []) :
    Prints (x >>= f) r data files := by
  have both := hx.bind hf
  rwa [String.append_empty, List.append_nil] at both

/-- What is told under a condition only. -/
theorem given {c : Prop} [Decidable c] {t : Printing Unit} {g : Unit → Printing β}
    (ht : TellsOnly t) (hg : Prints (g ()) r data files) :
    Prints (if c then t >>= g else g ()) r data files := by
  split
  · exact ht.after hg
  · exact hg

end Prints

theorem toStderr_tells (text : String) : TellsOnly (toStderr text) := by
  intro o
  refine ⟨text, ?_⟩
  simp only [String.append_empty, List.append_nil]
  rfl

theorem toStdout_prints (text : String) : Prints (toStdout text) (.ok ()) text [] := by
  intro o
  refine ⟨"", ?_⟩
  simp only [String.append_empty, List.append_nil]
  rfl

theorem toFile_prints (path : FilePath) (text : String) :
    Prints (toFile path text) (.ok ()) "" [(path, text)] := by
  intro o
  refine ⟨"", ?_⟩
  simp only [String.append_empty]
  rfl

theorem forM_tells {f : α → Printing Unit} (h : ∀ a, TellsOnly (f a)) (xs : List α) :
    TellsOnly (xs.forM f) := by
  induction xs with
  | nil => exact .pure ()
  | cons x xs ih => exact (h x).after ih

/-- A label in a style of its own, as warnings and errors begin. -/
theorem labelled_readable (style label : List Char) {cs : List Char} {opened : List (List Char)}
    (opens : tag? (style ++ [']']) = some (style, [])) (set : applyTag [] style = .ok opened)
    (closes : tag? ('/' :: style ++ [']']) = some ('/' :: style, []))
    (reset : applyTag opened ('/' :: style) = .ok [])
    (plain : label.all fun c => c != '\\' && c != '[') (h : Readable [] cs) :
    Readable [] (written style ++ (label ++ (written ('/' :: style) ++ (' ' :: cs)))) := by
  have gap : Readable [] (' ' :: cs) := .free (slashedTag?_other (by decide) (by decide) _) h
  refine .tag opens set (.word (fun c hc => ?_) (.tag closes reset gap))
  simpa using List.all_eq_true.mp plain c hc

namespace Printer

variable (p : Printer)

theorem journal_tells (least : Option Level) (j : Journal) : TellsOnly (p.journal least j) :=
  forM_tells (fun _ => toStderr_tells _) _

theorem message_tells {lead before after text : String}
    (readable : Readable [] (before.toList ++ escape text.toList ++ after.toList)) :
    TellsOnly (p.message lead before after text) := by
  unfold message
  split
  · obtain ⟨shown, known⟩ := shownText_total readable
    rw [showMarkup, known]
    exact toStderr_tells _
  · exact toStderr_tells _

theorem success_tells (text : String) : TellsOnly (p.success text) := by
  unfold success
  split
  · exact .pure ()
  · refine p.message_tells ?_
    have closing : Ending ["green".toList] (written "/green".toList) := .tag rfl rfl
    have green : tag? ("green".toList ++ [']']) = some ("green".toList, []) := rfl
    rw [List.append_assoc]
    exact .tag green rfl (escape_readable closing _)

theorem warning_tells (text : String) : TellsOnly (p.warning text) := by
  refine p.message_tells ?_
  have said : Readable [] (escape text.toList ++ []) := escape_readable .nil text.toList
  exact labelled_readable "yellow".toList "Warning:".toList rfl rfl rfl rfl rfl said

theorem error_tells (text : String) : TellsOnly (p.error text) := by
  refine p.message_tells ?_
  have said : Readable [] (escape text.toList ++ []) := escape_readable .nil text.toList
  exact labelled_readable "bold red".toList "Error:".toList rfl rfl rfl rfl rfl said

end Printer
end SdkBlueprint.Console
