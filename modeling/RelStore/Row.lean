import RelStore.OrderedMap
import RelStore.Value

/-!
Rows: values by field name, in the order of the fields. A row of a table has the table's columns
for its fields; a row of a joined result has more.
-/

namespace RelStore
set_option autoImplicit false

abbrev Row := OrderedMap String Value

namespace Row

def fieldMatches (row : Row) (field text : String) : Bool :=
  match row.get? field with
  | some v => v.matchesText text
  | none => false

/-- The row with the fields of another one put in, each under its name after `label` and an
underscore. -/
def joinWith (row : Row) (label : String) (other : Row) : Row :=
  row.insertAll (other.entries.map fun e => (label ++ "_" ++ e.1, e.2))

def arrange (row : Row) (columns : List String) : Row :=
  .ofList (columns.filterMap fun c => (row.get? c).map (c, ·))

end Row
end RelStore
