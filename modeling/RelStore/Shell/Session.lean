import RelStore.Database
import RelStore.Shell.ResultTable
import RelStore.Shell.Texts
import RelStore.Text.Blank

/-!
Sessions: lines are read one by one. A line that begins with a dot is a command if no statement
has been begun; other lines are put together, a blank between them, until one ends in a semicolon
or an empty one comes, and then they are carried out as one statement.
-/

namespace RelStore
set_option autoImplicit false

open Text

inductive Output where
  | out (text : String)
  | err (text : String)
deriving DecidableEq

structure Session where
  store : Store
  database : Database
  /-- The statement that has been begun, empty if none has. -/
  pending : String

namespace Session

def start (store : Store) (database : Database) : Session :=
  ⟨store, database, ""⟩

def showAnswer : Except Failure Answer → Output
  | .ok (.rows found) => .out (ResultTable.render found)
  | .ok (.notice n) => if n.isSuccess then .out (n.message ++ "\n") else .err (n.message ++ "\n")
  | .error failure => .err s!"Fatal: {failure.message}\n"

def showDescription (c : Catalog) (table : String) : Output :=
  match c.describe table with
  | .ok text => .out (text ++ "\n")
  | .error refusal => .err s!"Error: {refusal.message}\n"

def showTables : List String → List Output
  | [] => [.out "No tables found.\n"]
  | names => .out "Tables:\n" :: names.map fun name => .out s!"  {name}\n"

/-- What is shown for a command, given as its words; `none` ends the session. -/
def command (c : Catalog) : List String → Option (List Output)
  | [] => some []
  | name :: arguments =>
    if name = ".help" then some [.out Shell.helpText]
    else if name = ".quit" ∨ name = ".exit" then none
    else if name = ".tables" then some (showTables c.names)
    else if name = ".schema" then
      match arguments with
      | [] => some (c.names.map (showDescription c))
      | table :: _ => some [showDescription c table]
    else
      some [.err s!"Unknown command: {name}\n", .err "Type '.help' for available commands.\n"]

variable {m : Type → Type} [Monad m] [Disk m]

def finish (s : Session) (statement : String) : m (Session × List Output) := do
  let text := trim statement
  if text.isEmpty then
    return ({ s with pending := "" }, [])
  else
    let (answer, database) ← s.database.execute s.store.save text
    return ({ s with database, pending := "" }, [showAnswer answer])

/-- The session after a line, and what is shown; no session if the line ends it. -/
def readLine (s : Session) (line : String) : m (Option Session × List Output) := do
  let text := trim line
  if s.pending.isEmpty && text.startsWith "." then
    match command s.database.catalog (words text) with
    | some shown => return (some s, shown)
    | none => return (none, [])
  else if text.isEmpty then
    if s.pending.isEmpty then
      return (some s, [])
    else
      let (s, shown) ← s.finish s.pending
      return (some s, shown)
  else
    let statement := if s.pending.isEmpty then text else s.pending ++ " " ++ text
    if text.endsWith ";" then
      let (s, shown) ← s.finish statement
      return (some s, shown)
    else
      return (some { s with pending := statement }, [])

def readLines (s : Session) : List String → m (Option Session × List Output)
  | [] => return (some s, [])
  | line :: rest => do
    match ← s.readLine line with
    | (none, shown) => return (none, shown)
    | (some s, shown) =>
      let (s, further) ← readLines s rest
      return (s, shown ++ further)

end Session
end RelStore
