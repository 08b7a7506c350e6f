import RelStore.Plan.Answer

/-!
Running plans. A plan is carried out by an engine, which holds the catalog and notes whether the
catalog was changed. What the engine has done stands, whether the plan succeeds or fails.
-/

namespace RelStore
set_option autoImplicit false

inductive PlanFault where
  | refusal (r : Refusal)
  /-- A plan that returns no rows stands where rows are asked for. -/
  | noRows (plan : Plan)
deriving DecidableEq

namespace PlanFault

def message : PlanFault → String
  | .refusal r => r.message
  | .noRows _ => "Internal error: plan does not produce rows"

end PlanFault

structure Engine where
  catalog : Catalog
  /-- Whether the tables have to be saved. -/
  modified : Bool

namespace Engine

/-- A change of the catalog, noted when it is made, and the notice that reports it. -/
def change {α : Type} (report : α → Notice) (x : Attempt Refusal Catalog α) :
    Attempt Refusal Engine Answer := do
  let result ← x.part Engine.catalog fun e c => { e with catalog := c }
  modify fun e => { e with modified := true }
  return .notice (report result)

end Engine

namespace Plan

def tableOf (c : Catalog) (name : String) : Except PlanFault Table :=
  (c.table name).mapError .refusal

/-- Whether a row passes a filter: its field `column` decides, or `fallback` where it has no such
field. -/
def passes (column fallback text : String) (row : Row) : Bool :=
  match row.get? column with
  | some v => v.matchesText text
  | none => row.fieldMatches fallback text

/-- The joined rows of one row on the left: one for each right row with a value in `rightColumn`
that goes together with the left row's value in `leftColumn`. -/
def joinRow (leftColumn rightTable rightColumn : String) (right : List Row) (l : Row) : List Row :=
  match l.get? leftColumn with
  | none => []
  | some v =>
    (right.filter fun r => (r.get? rightColumn).any v.matchesValue).map (l.joinWith rightTable)

def rows (c : Catalog) : Plan → Except PlanFault (List Row)
  | .scan table => do
    let t ← tableOf c table
    return t.rows
  | .lookup table key => do
    let t ← tableOf c table
    return (t.lookup key).toList
  | .filter input column fallback value => do
    let found ← rows c input
    return found.filter (passes column fallback value.text)
  | .join left leftTable leftColumn rightTable rightColumn => do
    let found ← rows c left
    let l ← tableOf c leftTable
    let r ← tableOf c rightTable
    if !l.schema.hasColumn leftColumn then
      .error (.refusal (.columnNotFound leftColumn leftTable))
    else if !r.schema.hasColumn rightColumn then
      .error (.refusal (.columnNotFound rightColumn rightTable))
    else
      .ok (found.flatMap (joinRow leftColumn rightTable rightColumn r.rows))
  | plan => .error (.noRows plan)

def runCreate (table : String) (columns : List (String × ColumnType))
    (primaryKey : Option String) : Attempt Refusal Engine Answer := do
  if (← get).catalog.contains table then
    return .notice (.tableKept table)
  else
    let schema ← .check fun _ => Schema.ofColumns table columns primaryKey
    Engine.change (fun _ => .tableCreated table) (Catalog.add (.empty table schema))

def runInsert (table : String) (values : List Literal) : Attempt Refusal Engine Answer :=
  Engine.change (fun _ => .rowInserted)
    (Catalog.onTable table (Table.insertValues (values.map Literal.value)))

/-- The deletion of rows. The tables are to be saved even if there was none to delete. -/
def runDelete (table column : String) (value : Literal) : Attempt Refusal Engine Answer :=
  Engine.change .rowsDeleted
    (Catalog.onTable table (modifyGet (·.deleteWhere column value.text)))

def execute : Plan → Attempt PlanFault Engine Answer
  | .createTable table columns primaryKey =>
    (runCreate table columns primaryKey).mapError .refusal
  | .insert table values => (runInsert table values).mapError .refusal
  | .delete table column value => (runDelete table column value).mapError .refusal
  | plan => do
    let found ← .check fun e => rows e.catalog plan
    return .rows found

/-- What a plan comes to on a catalog, and the engine that has carried it out. -/
def run (c : Catalog) (plan : Plan) : Except PlanFault Answer × Engine :=
  plan.execute.on ⟨c, false⟩

end Plan
end RelStore
