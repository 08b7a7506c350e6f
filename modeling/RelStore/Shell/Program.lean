import RelStore.Shell.Arguments
import RelStore.Shell.Session
import RelStore.Shell.TypedLine

/-!
The command line as a whole: arguments are read, the database is opened, and the lines of the
input are read until one of them or the end of the input ends the session. A line that cannot be
read ends the program with an error.
-/

namespace RelStore
set_option autoImplicit false

namespace Shell

/-- The lines of a text; what follows the last line break is a line unless it is empty. -/
def linesFrom (line : List Char) : List Char → List (List Char)
  | [] => if line.isEmpty then [] else [line.reverse]
  | c :: rest => if c = '\n' then line.reverse :: linesFrom [] rest else linesFrom (c :: line) rest

def lines (input : String) : List String :=
  (linesFrom [] input.toList).map String.ofList

def indentRest (indent : String) (text : String) : String :=
  String.ofList (text.toList.flatMap fun c => if c = '\n' then '\n' :: indent.toList else [c])

/-- A line for each cause of an error; causes are numbered if there are several. -/
def causeLines (causes : List String) : List String :=
  match causes with
  | [cause] => ["    " ++ indentRest "    " cause]
  | causes =>
    causes.zipIdx.map fun (cause, n) =>
      let number := toString n
      String.ofList (List.replicate (5 - number.length) ' ') ++ number ++ ": " ++
        indentRest "       " cause

def report (error : String) (causes : List String) : String :=
  if causes.isEmpty then s!"Error: {error}\n"
  else unlines ([s!"Error: {error}", "", "Caused by:"] ++ causeLines causes)

/-- The causes of a database that cannot be opened, the nearest first. -/
def causes : LoadFault → List String
  | .file fault => [(LoadFault.file fault).message, fault.message]
  | .corrupt fault => [(LoadFault.corrupt fault).message]

def farewell : Output :=
  .out "Goodbye!\n"

def unreadable : Output :=
  .err "Error: a backspace cuts a character apart\n"

def unreadableCode : Nat := 101

end Shell

inductive Opening where
  | session (s : Session)
  | done (shown : Output) (code : Nat)

namespace Program

variable {m : Type → Type} [Monad m] [Disk m]

/-- What the program does with its arguments, as a writer with a number and in an environment that
may name a checkpoint. -/
def start (writer : Nat) (environment : Option String) (arguments : List String) :
    m Opening := do
  match Request.ofArguments (.ofEnvironment environment) arguments with
  | .error fault => return .done (.err (Shell.report fault.message [])) 1
  | .ok .help => return .done (.out Shell.usage) 0
  | .ok (.session settings) =>
    let store : Store := ⟨settings, writer⟩
    match ← store.openDatabase with
    | .ok database => return .session (.start store database)
    | .error fault =>
      let context := s!"failed to open database at {settings.path}"
      return .done (.err (Shell.report context (Shell.causes fault))) 1

/-- What the program shows for a whole input, and its exit code. -/
def run (writer : Nat) (environment : Option String) (arguments : List String) (input : String) :
    m (List Output × Nat) := do
  match ← start writer environment arguments with
  | .done shown code => return ([shown], code)
  | .session s =>
    let (lines, broken) := TypedLine.readAll (Shell.lines input)
    let (s, shown) ← s.readLines lines
    if broken && s.isSome then
      return (.out Shell.banner :: shown ++ [Shell.unreadable], Shell.unreadableCode)
    else
      return (.out Shell.banner :: shown ++ [Shell.farewell], 0)

end Program
end RelStore
