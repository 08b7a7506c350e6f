import RelStore.Files.Path
import RelStore.OrderedMap

/-!
File systems: which files and directories there are, and what one operation on a path does. An
operation that fails changes nothing. Renaming is one operation, so there is no moment at which
the new name leads to part of a file.
-/

namespace RelStore
set_option autoImplicit false

inductive FileFault where
  | notFound
  | notADirectory
  | isADirectory
  | nameTooLong
  | notText
  /-- A cause that only the surrounding system knows. -/
  | system (description : String)
deriving DecidableEq

namespace FileFault

def message : FileFault → String
  | .notFound => "No such file or directory (os error 2)"
  | .notADirectory => "Not a directory (os error 20)"
  | .isADirectory => "Is a directory (os error 21)"
  | .nameTooLong => "File name too long (os error 36)"
  | .notText => "stream did not contain valid UTF-8"
  | .system description => description

end FileFault

instance decidableEqContent : DecidableEq ByteArray := ByteArray.instDecidableEq

inductive FileNode where
  | file (content : ByteArray)
  | directory
deriving DecidableEq

/-- The place of a file or directory: the names on the way to it from the root. -/
abbrev Location := List String

inductive FileOp where
  | create (path : Path)
  | append (path : Path) (content : ByteArray)
  /-- Have a file's content kept through a power cut. -/
  | sync (path : Path)
  | rename (source target : Path)
  /-- Have a directory's entries kept through a power cut. -/
  | syncDirectory (path : Path)
  | remove (path : Path)
deriving DecidableEq

structure FileSystem where
  /-- All files and directories except the root. -/
  nodes : OrderedMap Location FileNode
  current : Location
deriving DecidableEq

namespace FileSystem

/-- The longest name that a file may have, in bytes. -/
def maxNameLength : Nat := 255

/-- The longest path that may be walked, in bytes as it is written. -/
def maxPathLength : Nat := 4095

def node? (fs : FileSystem) (l : Location) : Option FileNode :=
  if l.isEmpty then some .directory else fs.nodes.get? l

/-- The location that a walk from a location leads to. All but the last step must lead to
directories. -/
def walk (fs : FileSystem) (l : Location) : List PathStep → Except FileFault Location
  | [] => .ok l
  | step :: rest =>
    match fs.node? l with
    | none => .error .notFound
    | some (.file _) => .error .notADirectory
    | some .directory =>
      match step with
      | .stay => walk fs l rest
      | .up => walk fs l.dropLast rest
      | .name s =>
        if maxNameLength < s.utf8ByteSize then .error .nameTooLong else walk fs (l ++ [s]) rest

/-- The location that a path leads to, whether there is anything or not. -/
def locate (fs : FileSystem) (p : Path) : Except FileFault Location :=
  if p.isEmpty then .error .notFound
  else if maxPathLength < p.text.utf8ByteSize then .error .nameTooLong
  else walk fs (if p.absolute then [] else fs.current) p.steps

def find (fs : FileSystem) (p : Path) : Except FileFault (Location × FileNode) := do
  let l ← fs.locate p
  match fs.node? l with
  | none => .error .notFound
  | some (.file content) => if p.closed then .error .notADirectory else .ok (l, .file content)
  | some .directory => .ok (l, .directory)

def read (fs : FileSystem) (p : Path) : Except FileFault (Option ByteArray) :=
  match fs.find p with
  | .error _ => .ok none
  | .ok (_, .directory) => .error .isADirectory
  | .ok (_, .file content) => .ok (some content)

def put (fs : FileSystem) (l : Location) (n : FileNode) : FileSystem :=
  { fs with nodes := fs.nodes.insert l n }

def erase (fs : FileSystem) (l : Location) : FileSystem :=
  { fs with nodes := fs.nodes.erase l }

def apply (fs : FileSystem) : FileOp → Except FileFault FileSystem
  | .create p => do
    let l ← fs.locate p
    match fs.node? l with
    | some .directory => .error .isADirectory
    | _ => .ok (fs.put l (.file .empty))
  | .append p content => do
    match ← fs.find p with
    | (_, .directory) => .error .isADirectory
    | (l, .file before) => .ok (fs.put l (.file (before ++ content)))
  | .sync p => do
    let _ ← fs.find p
    return fs
  | .rename source target => do
    match ← fs.find source with
    | (_, .directory) => .error .isADirectory
    | (l, .file content) =>
      let l' ← fs.locate target
      if fs.node? l' = some .directory then .error .isADirectory
      else if target.closed then .error .notADirectory
      else .ok ((fs.erase l).put l' (.file content))
  | .syncDirectory p => do
    match ← fs.find p with
    | (_, .directory) => .ok fs
    | (_, .file _) => .error .notADirectory
  | .remove p => do
    match ← fs.find p with
    | (_, .directory) => .error .isADirectory
    | (l, .file _) => .ok (fs.erase l)

def filesIn (fs : FileSystem) (l : Location) : List (String × ByteArray) :=
  fs.nodes.entries.filterMap fun e =>
    match e.1.getLast?, e.2 with
    | some name, .file content => if e.1.dropLast = l then some (name, content) else none
    | _, _ => none

def entriesOf (fs : FileSystem) (l : Location) : List String :=
  let names := fs.nodes.keys.filterMap fun k => if k.dropLast = l then k.getLast? else none
  names.mergeSort (fun a b => decide (a ≤ b))

def makeDirectory? (fs : FileSystem) (l : Location) : Option FileSystem :=
  if fs.node? l = none ∧ fs.node? l.dropLast = some .directory then some (fs.put l .directory)
  else none

def removeDirectory? (fs : FileSystem) (l : Location) : Option FileSystem :=
  if fs.nodes.get? l = some .directory ∧ (fs.entriesOf l).isEmpty then some (fs.erase l) else none

/-- The location with `l` at its head replaced by `l'`, if `l` is there. -/
def relocate (l l' : Location) (k : Location) : Location :=
  if l.isPrefixOf k then l' ++ k.drop l.length else k

/-- The file system with a directory and what is in it at another location, where nothing may
be. -/
def moveDirectory? (fs : FileSystem) (l l' : Location) : Option FileSystem :=
  if fs.nodes.get? l = some .directory ∧ fs.node? l' = none then
    some { fs with nodes := .ofList (fs.nodes.entries.map fun e => (relocate l l' e.1, e.2)) }
  else none

end FileSystem
end RelStore
