import RelStore.Catalog
import RelStore.Checkpoint.Encoding

/-!
Checkpoints: the JSON text that holds a whole catalog. It is an object with a member for each
table, in order; each table is an object with its columns as pairs of name and type, its primary
key or null, and its rows.
-/

namespace RelStore
set_option autoImplicit false

inductive CheckpointFault where
  /-- The text is not the JSON of a document of tables. -/
  | malformed
  | schema (refusal : Refusal)
  | rows (fault : RowFault)
  /-- The refusal of a table by the catalog, passed on as it is. -/
  | table (refusal : Refusal)
deriving DecidableEq

namespace CheckpointFault

def message : CheckpointFault → String
  | .malformed => "not a document of tables"
  | .schema refusal => refusal.message
  | .rows fault => fault.message
  | .table refusal => refusal.message

/-- The refusal that a fault is reported as, where it is not reported as a corrupt checkpoint. -/
def passedOn? : CheckpointFault → Option Refusal
  | .rows (.refused refusal) => some refusal
  | .table refusal => some refusal
  | _ => none

end CheckpointFault

/-- A table as a checkpoint states it. -/
structure TableDocument where
  columns : List (String × ColumnType)
  primaryKey : Option String
  rows : List Row
deriving DecidableEq

abbrev Document := OrderedMap String TableDocument

namespace TableDocument

def ofTable (t : Table) : TableDocument :=
  ⟨t.schema.columns.entries, t.schema.primaryKey, t.rows⟩

def keyToJson : Option String → Json
  | none => .null
  | some column => .ofText column

def toJson (d : TableDocument) : Json :=
  .ofMembers
    [("columns", .array (d.columns.map fun c => .array [.ofText c.1, c.2.toJson])),
     ("primary_key", keyToJson d.primaryKey),
     ("rows", .array (d.rows.map Row.toJson))]

/-- The column that JSON stands for: an array of its name and its type. -/
def columnOfJson? : Json → Option (String × ColumnType)
  | .array [name, type] => do
    let name ← name.text?
    let type ← ColumnType.ofJson? type
    return (name, type)
  | _ => none

def keyOfJson? : Json → Option (Option String)
  | .null => some none
  | v => v.text?.map some

def ofParts? (columns key rows : Json) : Option TableDocument := do
  let columns ← columns.items?
  let columns ← columns.mapM columnOfJson?
  let key ← keyOfJson? key
  let rows ← rows.items?
  let rows ← rows.mapM Row.ofJson?
  return ⟨columns, key, rows⟩

/-- The value of a member that occurs once, or none if it does not occur; a member that occurs
twice has no value. -/
def member? (key : String) (members : List (String × Json)) : Option (Option Json) :=
  match members.filter (·.1 = key) with
  | [] => some none
  | [m] => some (some m.2)
  | _ => none

/-- The table that JSON stands for: an object with the members `columns`, `rows` and, unless it is
null, `primary_key`, or an array of the three. Other members of the object count for nothing. -/
def ofJson? : Json → Option TableDocument
  | .array [columns, key, rows] => ofParts? columns key rows
  | v => do
    let members ← v.members?
    let columns ← (← member? "columns" members)
    let key ← member? "primary_key" members
    let rows ← (← member? "rows" members)
    ofParts? columns (key.getD .null) rows

end TableDocument

namespace Document

def ofCatalog (c : Catalog) : Document :=
  ⟨c.tables.map fun t => (t.name, .ofTable t), by
    rw [List.map_map]
    exact c.nodup⟩

def toJson (d : Document) : Json :=
  .ofMembers (d.entries.map fun e => (e.1, e.2.toJson))

/-- The document that JSON stands for. A table that is repeated keeps its place and takes the
later content. -/
def ofJson? (v : Json) : Option Document := do
  let members ← v.members?
  let entries ← members.mapM fun m => (TableDocument.ofJson? m.2).map (m.1, ·)
  return .ofList entries

def addTable (c : Catalog) (name : String) (d : TableDocument) :
    Except CheckpointFault Catalog := do
  let schema ← (Schema.ofColumns name d.columns d.primaryKey).mapError .schema
  let table ← (Table.restore name schema d.rows).mapError .rows
  let (added, c') := (Catalog.add table).on c
  added.mapError .table
  return c'

def toCatalog (d : Document) : Except CheckpointFault Catalog :=
  d.entries.foldlM (fun c e => addTable c e.1 e.2) .empty

end Document

namespace Catalog

def checkpoint (c : Catalog) (l : Json.Layout) : String :=
  (Document.ofCatalog c).toJson.render l

def ofCheckpoint (text : String) : Except CheckpointFault Catalog :=
  match (Json.read? text).bind Document.ofJson? with
  | some d => d.toCatalog
  | none => .error .malformed

end Catalog
end RelStore
