import RelStore.OrderedMap
import RelStore.Refusal
import RelStore.Text.Casing

/-!
Table schemas: typed columns in the order of their declaration, and at most one column as primary
key. A column type documents intent; it does not decide which values a column takes.
-/

namespace RelStore
set_option autoImplicit false

inductive ColumnType where
  | integer
  | text
deriving DecidableEq, Inhabited

namespace ColumnType

def names : ColumnType → List String
  | .integer => ["int", "integer"]
  | .text => ["text", "str", "string", "varchar"]

/-- The type that a word names, in any letter case. -/
def ofName? (word : String) : Option ColumnType :=
  [ColumnType.integer, .text].find? fun t => t.names.any (·.toList == Text.lower word.toList)

def display : ColumnType → String
  | .integer => "INTEGER"
  | .text => "TEXT"

end ColumnType

structure Schema where
  columns : OrderedMap String ColumnType
  /-- The column whose values tell the rows apart. -/
  primaryKey : Option String
  key_mem : ∀ k, primaryKey = some k → k ∈ columns.keys
deriving DecidableEq

namespace Schema

def empty : Schema :=
  ⟨.empty, none, nofun⟩

instance : Inhabited Schema := ⟨empty⟩

def columnNames (s : Schema) : List String :=
  s.columns.keys

def hasColumn (s : Schema) (column : String) : Bool :=
  s.columns.contains column

/-- The schema with one more column, which must have a name of its own. -/
def addColumn (s : Schema) (column : String) (type : ColumnType) : Except Refusal Schema :=
  if s.hasColumn column then
    .error (.duplicateColumn column)
  else
    .ok {
      columns := s.columns.insert column type
      primaryKey := s.primaryKey
      key_mem := fun k h => by
        rw [OrderedMap.keys_insert]
        have := s.key_mem k h
        split
        · exact this
        · exact List.mem_append_left _ this }

/-- The schema with a declared column for its primary key; `table` is named in the refusal. -/
def setPrimaryKey (s : Schema) (table column : String) : Except Refusal Schema :=
  if h : s.hasColumn column then
    .ok {
      columns := s.columns
      primaryKey := some column
      key_mem := fun _ e => Option.some.inj e ▸ OrderedMap.contains_iff.1 h }
  else
    .error (.columnNotFound column table)

def ofColumns (table : String) (columns : List (String × ColumnType))
    (primaryKey : Option String) : Except Refusal Schema := do
  let s ← columns.foldlM (fun s c => s.addColumn c.1 c.2) empty
  match primaryKey with
  | none => .ok s
  | some column => s.setPrimaryKey table column

/-- Whether two schemas declare the same columns, in whatever order, and the same primary key. -/
def sameAs (s s' : Schema) : Bool :=
  s.columns.sameEntries s'.columns && s.primaryKey == s'.primaryKey

end Schema
end RelStore
