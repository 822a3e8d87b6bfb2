import SdkBlueprint.CommandLine.Program

/-! The program itself: it looks at what the request names, runs, and writes what the
run has written. -/
namespace SdkBlueprint.Main
open SdkBlueprint.CommandLine

/-- Code of the error that reading a folder ends with. -/
def isFolderCode : UInt32 := 21

def nodeAt (path : FilePath) : IO (Option FileNode) := do
  try
    return some (.file (← IO.FS.readBinFile path.text))
  catch
    | .inappropriateType _ code _ => return if code == isFolderCode then some .folder else none
    | _ => return none

def pathsOf : Request → List FilePath
  | .convert _ r =>
    Settings.projectFile none :: FilePath.ofText r.source ::
      r.output.toList.flatMap fun path => [path, path.parent]
  | .summary _ r => [Settings.projectFile none, FilePath.ofText r.source]
  | _ => []

def readsInput : Request → Bool
  | .convert _ r => r.source == "-"
  | .summary _ r => r.source == "-"
  | _ => false

def variableNames : List String :=
  ["SPECIR_RESERVED_SUFFIX", "SPECIR_DEFAULT_TAG", "SPECIR_SERVICE_SUFFIX",
   "SPECIR_EXTRA_RESERVED_WORDS", "NO_COLOR", "TERM", "COLUMNS"]

/-- Looks at the surroundings before the run. There is no access to the network. -/
def look (r : Request) : IO Environment := do
  let nodes ← (pathsOf r).mapM fun path => return (path, ← nodeAt path)
  let known ← variableNames.mapM fun name => return (name, ← IO.getEnv name)
  let input ← if readsInput r then (← IO.getStdin).readToEnd else pure ""
  let folder ← IO.currentDir
  return {
    node? := fun path => (nodes.lookup path).join
    valueOf? := fun name => (known.lookup name).join
    workingFolder := folder.toString
    input := input
    reply := fun _ => .failed "no access to the network" }

def write (o : Outcome) : IO UInt32 := do
  for (path, text) in o.output.files do
    IO.FS.writeFile path.text text
  (← IO.getStdout).putStr o.output.stdout
  (← IO.getStderr).putStr o.output.stderr
  return UInt32.ofNat o.exitCode

end SdkBlueprint.Main

open SdkBlueprint SdkBlueprint.CommandLine in
def main (args : List String) : IO UInt32 := do
  match request args with
  | .ok r => Main.write (perform (← Main.look r) r)
  | .error problem => Main.write (refused problem)
