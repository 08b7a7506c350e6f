import RelStore.Catalog
import RelStore.Statement

/-!
Plans: what is to be done for a statement, as a tree. `ofStatement` gives the plan that scans
tables; `useIndex` gives one that goes through the index where a condition is on a primary key.
-/

namespace RelStore
set_option autoImplicit false

inductive Plan where
  | scan (table : String)
  | lookup (table : String) (key : Value)
  /-- The rows of the input whose field `column`, or `fallback` where that is missing, has the
  text of a literal. -/
  | filter (input : Plan) (column fallback : String) (value : Literal)
  /-- The rows of the input, each with every row of the right table that agrees with it. -/
  | join (left : Plan) (leftTable leftColumn rightTable rightColumn : String)
  | createTable (table : String) (columns : List (String × ColumnType))
      (primaryKey : Option String)
  | insert (table : String) (values : List Literal)
  | delete (table column : String) (value : Literal)
deriving DecidableEq

namespace Plan

def isMutating : Plan → Bool
  | .createTable .. | .insert .. | .delete .. => true
  | _ => false

/-- The plan of a selection: the table, joined if a join is asked for, filtered if a condition is
given. A condition on a column that the rows lack falls back to the field that a join makes of a
column of that name in the selection's own table. -/
def ofSelect (table : String) (second : Option Join) (condition : Option Condition) : Plan :=
  let rows :=
    match second with
    | none => scan table
    | some j => .join (scan table) table j.left.column j.table j.right.column
  match condition with
  | none => rows
  | some f => .filter rows f.column (table ++ "_" ++ f.column) f.value

def ofStatement : Statement → Plan
  | .createTable table columns primaryKey => .createTable table columns primaryKey
  | .insert table values => .insert table values
  | .select table second condition => ofSelect table second condition
  | .delete table condition => .delete table condition.column condition.value

def isPrimaryKey (c : Catalog) (table column : String) : Bool :=
  match c.find? table with
  | some t => t.schema.primaryKey == some column
  | none => false

/-- The plan with each condition on the primary key of a scanned table made a lookup. -/
def useIndex (c : Catalog) : Plan → Plan
  | .filter (.scan table) column fallback value =>
    if isPrimaryKey c table column then .lookup table value.value
    else .filter (.scan table) column fallback value
  | .filter input column fallback value => .filter (useIndex c input) column fallback value
  | .join left leftTable leftColumn rightTable rightColumn =>
    .join (useIndex c left) leftTable leftColumn rightTable rightColumn
  | plan => plan

end Plan
end RelStore
