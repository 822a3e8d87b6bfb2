import SdkBlueprint.Console.Grid
import SdkBlueprint.Environment
import SdkBlueprint.Journal

/-! Printing. Data goes to the output or to a file; messages and the journal go to
the error output. -/
namespace SdkBlueprint.Console

structure Printer where
  /-- Tables are drawn and messages are markup. -/
  styled : Bool
  quiet : Bool
  /-- Cells of a line. -/
  width : Nat

structure Output where
  stdout : String
  stderr : String
  /-- Files in the order in which they were written. -/
  files : List (FilePath × String)

def Output.empty : Output := ⟨"", "", []⟩

/-- A step that prints and may fail; what it printed before stays. -/
abbrev Printing (α : Type) := ExceptT Failure (StateM Output) α

def toStdout (text : String) : Printing Unit :=
  modify fun o => { o with stdout := o.stdout ++ text }

def toStderr (text : String) : Printing Unit :=
  modify fun o => { o with stderr := o.stderr ++ text }

def toFile (path : FilePath) (text : String) : Printing Unit :=
  modify fun o => { o with files := o.files ++ [(path, text)] }

def attempt {α : Type} : Attempt α → Printing α
  | .ok v => pure v
  | .error f => throw f

def ended (text : String) : String :=
  if text.toList.getLast? == some '\n' then text else text ++ "\n"

def lineText (lines : List (List Char)) : String :=
  String.ofList (lines.flatMap fun l => l ++ ['\n'])

namespace Printer

def defaultWidth : Nat := 80

def widthOf (e : Environment) : Nat :=
  match e.valueOf? "COLUMNS" with
  | some s =>
    if s != "" && s.toList.all Char.isDigit then s.toNat?.getD defaultWidth else defaultWidth
  | none => defaultWidth

def stylesOff (e : Environment) : Bool :=
  (e.valueOf? "NO_COLOR").isSome || e.valueOf? "TERM" == some "dumb"

def ofEnvironment (e : Environment) (noColour quiet : Bool) : Printer :=
  ⟨!(noColour || stylesOff e), quiet, widthOf e⟩

def data (text : String) (file : Option FilePath) : Printing Unit :=
  match file with
  | some path => toFile path (ended text)
  | none => toStdout (ended text)

/-- Lines of cells between tabs. -/
def plainTable (header : List String) (rows : List (List String)) : String :=
  String.join ((header :: rows).map fun row => ended ("\t".intercalate row))

def table (p : Printer) (header : List String) (rows : List (List String))
    (title : Option String) : Printing Unit := do
  if p.styled then toStdout (← attempt (drawTable p.width header rows title))
  else toStdout (plainTable header rows)

def showMarkup (p : Printer) (markup : List Char) : Printing Unit := do
  let shown ← attempt (shownText markup)
  toStderr (lineText (wrap .fold p.width shown))

/-- A message between two pieces of markup, or after a plain lead. -/
def message (p : Printer) (lead before after text : String) : Printing Unit :=
  if p.styled then p.showMarkup (before.toList ++ escape text.toList ++ after.toList)
  else toStderr (lead ++ text ++ "\n")

def info (p : Printer) (text : String) : Printing Unit :=
  if p.quiet then pure () else p.message "" "" "" text

def success (p : Printer) (text : String) : Printing Unit :=
  if p.quiet then pure () else p.message "" "[green]" "[/green]" text

def warning (p : Printer) (text : String) : Printing Unit :=
  p.message "Warning: " "[yellow]Warning:[/yellow] " "" text

def error (p : Printer) (text : String) : Printing Unit :=
  p.message "Error: " "[bold red]Error:[/bold red] " "" text

/-- Cells of a line before the text of a journal entry. -/
def labelWidth : Nat := 9

/-- Lines of an entry: the level, then the message beside it. -/
def entryLines (width : Nat) (e : Entry) : List (List Char) :=
  let label := Text.padCells labelWidth e.level.label.toList
  let gap := List.replicate labelWidth ' '
  let lines := wrap .fold (width - labelWidth) (e.message.toList.filter isShown)
  lines.zipIdx.map fun l => (if l.2 == 0 then label else gap) ++ l.1

/-- The entries of a journal from a level on; without a level none are shown. -/
def journal (p : Printer) (least : Option Level) (j : Journal) : Printing Unit :=
  (j.filter fun e => least.any fun l => l.rank ≤ e.level.rank).forM fun e =>
    toStderr (lineText (entryLines p.width e))

end Printer
end SdkBlueprint.Console
