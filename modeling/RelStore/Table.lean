import RelStore.Attempt
import RelStore.KeyIndex
import RelStore.Schema

/-!
Tables: a schema, the rows in the order of their insertion, and an index over the primary key if
the schema has one. Rows are admitted as they are; `rowOf` and `restore` are where they are held
against the schema.
-/

namespace RelStore
set_option autoImplicit false

structure Table where
  name : String
  schema : Schema
  rows : List Row
  index : Option KeyIndex

inductive RowFault where
  | columnsDiffer (table : String)
  | duplicateKey (key : Value) (table : String)
  /-- Any other refusal of the row by the table, passed on as it is. -/
  | refused (refusal : Refusal)
deriving DecidableEq

namespace RowFault

def message : RowFault → String
  | .columnsDiffer table => s!"row in table '{table}' does not match its columns"
  | .duplicateKey key table => s!"duplicate primary key '{key.display}' in table '{table}'"
  | .refused refusal => refusal.message

end RowFault

namespace Table

def empty (name : String) (schema : Schema) : Table :=
  ⟨name, schema, [], schema.primaryKey.map KeyIndex.empty⟩

def rowOf (t : Table) (values : List Value) : Except Refusal Row :=
  if values.length = t.schema.columns.size then
    .ok (.ofList (t.schema.columnNames.zip values))
  else
    .error (.countMismatch t.name t.schema.columns.size values.length)

/-- With a primary key, a row must have a key, and one that no other row has; the key is put into
the index, with the position that the row is to have. -/
def enterKey (row : Row) (position : Nat) : Attempt Refusal Table Unit := do
  let t ← get
  match t.index with
  | none => return
  | some index =>
    match index.keyOf? row with
    | none => throw (.columnNotFound index.column t.name)
    | some key =>
      if index.contains key then
        throw (.duplicateKey key)
      else
        set { t with index := some (index.insert key position) }

def pushRow (t : Table) (row : Row) : Table :=
  { t with rows := t.rows ++ [row] }

/-- A row is put at the end of the table, its key into the index before that. -/
def insert (row : Row) : Attempt Refusal Table Nat := do
  let position := (← get).rows.length
  enterKey row position
  modify (·.pushRow row)
  return position

def insertValues (values : List Value) : Attempt Refusal Table Nat := do
  let row ← .check (·.rowOf values)
  insert row

/-- The table with a stored row put in, its fields in column order. The row must have exactly the
table's columns and a key of its own. -/
def accept (t : Table) (row : Row) : Except RowFault Table :=
  if row.size = t.schema.columns.size ∧ row.keys.all t.schema.hasColumn then
    match (insert (row.arrange t.schema.columnNames)).on t with
    | (.ok _, t') => .ok t'
    | (.error (.duplicateKey key), _) => .error (.duplicateKey key t.name)
    | (.error refusal, _) => .error (.refused refusal)
  else
    .error (.columnsDiffer t.name)

def restore (name : String) (schema : Schema) (rows : List Row) : Except RowFault Table :=
  rows.foldlM accept (empty name schema)

def lookup (t : Table) (key : Value) : Option Row := do
  let index ← t.index
  let position ← index.get? key
  t.rows[position]?

/-- The table without the rows that have a given text in a column, and how many those were. -/
def deleteWhere (t : Table) (column text : String) : Nat × Table :=
  let kept := t.rows.filter fun row => !row.fieldMatches column text
  let removed := t.rows.length - kept.length
  if removed = 0 then
    (0, t)
  else
    (removed, { t with rows := kept, index := t.index.map (·.rebuild kept) })

end Table
end RelStore
