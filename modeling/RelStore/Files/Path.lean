/-!
File paths. A path is walked from the root or from the working directory, one step per part
between slashes.
-/

namespace RelStore
set_option autoImplicit false

inductive PathStep where
  | stay
  | up
  | name (s : String)
deriving DecidableEq

def PathStep.ofText : String → PathStep
  | "." => .stay
  | ".." => .up
  | s => .name s

structure Path where
  /-- What stands between the slashes; empty parts lead nowhere. -/
  parts : List String
deriving DecidableEq

namespace Path

def ofText (s : String) : Path :=
  ⟨s.splitOn "/"⟩

def text (p : Path) : String :=
  "/".intercalate p.parts

def absolute (p : Path) : Bool :=
  p.parts.head? = some "" && p.parts.length ≠ 1

/-- Whether a slash stands at the end, so that only a directory will do. -/
def closed (p : Path) : Bool :=
  p.parts.getLast? = some "" && p.parts.length ≠ 1

def steps (p : Path) : List PathStep :=
  (p.parts.filter (· ≠ "")).map PathStep.ofText

/-- Whether a path is written as the empty text, which leads nowhere. -/
def isEmpty (p : Path) : Bool :=
  !p.absolute && p.steps.isEmpty

/-- Parts up to the last that is neither empty nor a dot. -/
def trimParts (parts : List String) : List String :=
  (parts.reverse.dropWhile fun part => part = "" || part = ".").reverse

/-- Parts up to the one before the last that is neither empty nor a dot. -/
def partsAbove (parts : List String) : List String :=
  trimParts (trimParts parts).dropLast

/-- The directory in which the last part of a path is looked up. -/
def parent (p : Path) : Path :=
  match p.parts with
  | "" :: rest =>
    if trimParts rest = [] then ⟨["."]⟩
    else if partsAbove rest = [] then ⟨["", ""]⟩
    else ⟨"" :: partsAbove rest⟩
  | "." :: rest => ⟨"." :: partsAbove rest⟩
  | parts => if partsAbove parts = [] then ⟨["."]⟩ else ⟨partsAbove parts⟩

def fileName? (p : Path) : Option String :=
  match (p.steps.filter (· ≠ .stay)).getLast? with
  | some (.name s) => some s
  | _ => none

def entry (p : Path) (name : String) : Path :=
  ⟨(if p.closed then p.parts.dropLast else p.parts) ++ [name]⟩

end Path
end RelStore
