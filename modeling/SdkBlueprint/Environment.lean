import SdkBlueprint.Failure
import SdkBlueprint.FilePath

/-! What a run sees of its surroundings: files, variables, its input, and replies
from the network. -/
namespace SdkBlueprint

inductive FileNode where
  | folder
  | file (content : ByteArray)

/-- What comes back when a document is asked for over the network. -/
inductive Reply where
  | answer (status : Int) (contentType body : String)
  | failed (reason : String)
  deriving DecidableEq

structure Environment where
  node? : FilePath → Option FileNode
  /-- Value of a variable. -/
  valueOf? : String → Option String
  /-- Text of the working folder in messages. -/
  workingFolder : String
  input : String
  reply : String → Reply

namespace Environment

def isFolder (e : Environment) (p : FilePath) : Bool :=
  match e.node? p with
  | some .folder => true
  | _ => false

/-- Every line ends with a single line feed. -/
def unifiedLines : List Char → List Char
  | [] => []
  | '\r' :: '\n' :: rest => '\n' :: unifiedLines rest
  | c :: rest => (if c == '\r' then '\n' else c) :: unifiedLines rest

def unified (s : String) : String := String.ofList (unifiedLines s.toList)

def text? (e : Environment) (p : FilePath) : Attempt (Option String) :=
  match e.node? p with
  | some (.file content) =>
    match String.fromUTF8? content with
    | some s => .ok (some (unified s))
    | none => misuse .badEncoding
  | _ => .ok none

def inputText (e : Environment) : String := unified e.input

end Environment

/-- A finite working folder. Every part of a path but the last has to be a folder. -/
structure FolderTree where
  folders : List (List String)
  files : List (List String × ByteArray)

namespace FolderTree

def isFolder (t : FolderTree) (parts : List String) : Bool :=
  parts.isEmpty || t.folders.any parts.isPrefixOf ||
    t.files.any fun f => parts.isPrefixOf f.1 && f.1 != parts

def node? (t : FolderTree) (parts : List String) : Option FileNode :=
  if t.isFolder parts then some .folder
  else (t.files.lookup parts).map .file

/-- Where a walk stands; nothing is known of the folders above. -/
inductive Place where
  | inside (parts : List String)
  | above

def step (t : FolderTree) (place : Place) (part : String) : Option Place :=
  match place with
  | .above => if part == ".." then some .above else none
  | .inside here =>
    if !t.isFolder here then none
    else if part == ".." then
      some (if here.isEmpty then .above else .inside here.dropLast)
    else some (.inside (here ++ [part]))

def find? (t : FolderTree) (p : FilePath) : Option FileNode :=
  if p.fromRoot then (if p.parts.isEmpty then some .folder else none)
  else
    match p.parts.foldlM t.step (.inside []) with
    | some (.inside parts) => t.node? parts
    | some .above => some .folder
    | none => none

end FolderTree
end SdkBlueprint
