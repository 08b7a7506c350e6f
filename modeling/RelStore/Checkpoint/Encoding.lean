import RelStore.Json.Read
import RelStore.Json.Write
import RelStore.Schema
import RelStore.Row

/-!
Values, rows and column types as JSON. An integer is a JSON integer that 64 bits with a sign hold,
a text is a JSON string, a row is an object with its fields for members.
-/

namespace RelStore
set_option autoImplicit false

namespace Value

def toJson : Value → Json
  | .integer n => .integer n.toInt
  | .text s => .ofText s

def ofJson? : Json → Option Value
  | .integer n =>
    if Int64.minValue.toInt ≤ n ∧ n ≤ Int64.maxValue.toInt then some (.integer (Int64.ofInt n))
    else none
  | .string content => content.map .text
  | _ => none

end Value

namespace Row

def toJson (row : Row) : Json :=
  .ofMembers (row.entries.map fun e => (e.1, e.2.toJson))

/-- The row that JSON stands for. A field that is repeated keeps its place and takes the later
value. -/
def ofJson? (v : Json) : Option Row := do
  let members ← v.members?
  let entries ← members.mapM fun m => (Value.ofJson? m.2).map (m.1, ·)
  return .ofList entries

end Row

namespace ColumnType

def tag : ColumnType → String
  | .integer => "integer"
  | .text => "text"

def toJson (t : ColumnType) : Json :=
  .ofText t.tag

def ofTag? (tag : String) : Option ColumnType :=
  [ColumnType.integer, .text].find? (·.tag == tag)

/-- The column type that JSON stands for: a name, or an object with the name for its only key and
null for its value. -/
def ofJson? : Json → Option ColumnType
  | .string content => content.bind ofTag?
  | .object [(key, .null)] => key.bind ofTag?
  | _ => none

end ColumnType
end RelStore
