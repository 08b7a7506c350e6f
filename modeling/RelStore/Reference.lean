import Mathlib.Data.List.Nodup
import RelStore.Plan.Answer

/-!
Statements answered plainly: the state is a list of tables with their rows, and each statement is
carried out on the rows themselves, without plans and without an index.
-/

namespace RelStore.Reference
set_option autoImplicit false

/-- A table: a name, columns, a primary key and rows. -/
structure Relation where
  name : String
  columns : List (String × ColumnType)
  primaryKey : Option String
  rows : List Row
deriving DecidableEq

abbrev State := List Relation

def find (state : State) (name : String) : Except Refusal Relation :=
  match state.find? (·.name = name) with
  | some r => .ok r
  | none => .error (.tableNotFound name)

def setRows (state : State) (name : String) (rows : List Row) : State :=
  state.map fun r => if r.name = name then { r with rows } else r

/-- The first name in a list that occurs again after it has occurred. -/
def firstRepeated (seen : List String) : List String → Option String
  | [] => none
  | name :: rest => if name ∈ seen then some name else firstRepeated (name :: seen) rest

def create (state : State) (table : String) (columns : List (String × ColumnType))
    (primaryKey : Option String) : Except Refusal (Answer × State) :=
  if table ∈ state.map Relation.name then
    .ok (.notice (.tableKept table), state)
  else
    match firstRepeated [] (columns.map Prod.fst) with
    | some column => .error (.duplicateColumn column)
    | none =>
      match primaryKey with
      | some column =>
        if column ∈ columns.map Prod.fst then
          .ok (.notice (.tableCreated table), state ++ [⟨table, columns, some column, []⟩])
        else
          .error (.columnNotFound column table)
      | none => .ok (.notice (.tableCreated table), state ++ [⟨table, columns, none, []⟩])

def keyOf? (r : Relation) (row : Row) : Option Value :=
  r.primaryKey.bind row.get?

def insert (state : State) (table : String) (literals : List Literal) :
    Except Refusal (Answer × State) := do
  let r ← find state table
  if literals.length ≠ r.columns.length then
    .error (.countMismatch table r.columns.length literals.length)
  else
    let row : Row := .ofList ((r.columns.map Prod.fst).zip (literals.map Literal.value))
    match (keyOf? r row).filter fun key => r.rows.any fun other => keyOf? r other == some key with
    | some key => .error (.duplicateKey key)
    | none => .ok (.notice .rowInserted, setRows state table (r.rows ++ [row]))

def delete (state : State) (table : String) (condition : Condition) :
    Except Refusal (Answer × State) := do
  let r ← find state table
  let holds (row : Row) : Bool :=
    (row.get? condition.column).any fun v => v.display == condition.value.text
  return (.notice (.rowsDeleted (r.rows.countP holds)),
    setRows state table (r.rows.filter fun row => !holds row))

/-- The pairs of rows that are displayed alike in a column of each, the left row first. -/
def joinPairs (left right : List Row) (leftColumn rightColumn : String) : List (Row × Row) :=
  left.flatMap fun l =>
    (right.filter fun r =>
      match l.get? leftColumn, r.get? rightColumn with
      | some v, some w => v.display == w.display
      | _, _ => false).map fun r => (l, r)

/-- The fields of a row of the second table under the names that they have in a joined row. -/
def renamed (table : String) (row : Row) : List (String × Value) :=
  row.entries.map fun e => (table ++ "_" ++ e.1, e.2)

/-- The fields of the left row in their places, with the right value where a field of the right row
has the name, and after them the other fields of the right row. -/
def joinedFields (table : String) (l r : Row) : List (String × Value) :=
  (l.entries.map fun e => (e.1, ((renamed table r).lookup e.1).getD e.2)) ++
    (renamed table r).filter fun e => e.1 ∉ l.keys

theorem nodup_renamed (table : String) (row : Row) :
    ((renamed table row).map Prod.fst).Nodup := by
  have hnames : (renamed table row).map Prod.fst = row.keys.map (table ++ "_" ++ ·) := by
    unfold renamed OrderedMap.keys
    rw [List.map_map, List.map_map]
    rfl
  rw [hnames]
  exact row.nodup.map fun _ _ h => (String.append_right_inj _).1 h

theorem nodup_joinedFields (table : String) (l r : Row) :
    ((joinedFields table l r).map Prod.fst).Nodup := by
  unfold joinedFields
  rw [List.map_append, List.map_map, List.nodup_append]
  refine ⟨l.nodup, (nodup_renamed table r).sublist (List.filter_sublist.map _), ?_⟩
  rintro _ hl _ hr rfl
  obtain ⟨e, he, hname⟩ := List.mem_map.1 hr
  have hnew : e.1 ∉ l.keys := of_decide_eq_true (List.mem_filter.1 he).2
  exact hnew (hname ▸ hl)

/-- The row that is made of a left row and a row of the second table. -/
def joinedRow (table : String) (l r : Row) : Row :=
  ⟨joinedFields table l r, nodup_joinedFields table l r⟩

def joined (state : State) (r : Relation) : Option Join → Except Refusal (List Row)
  | none => .ok r.rows
  | some j => do
    let other ← find state j.table
    if j.left.column ∉ r.columns.map Prod.fst then
      .error (.columnNotFound j.left.column r.name)
    else if j.right.column ∉ other.columns.map Prod.fst then
      .error (.columnNotFound j.right.column j.table)
    else
      return (joinPairs r.rows other.rows j.left.column j.right.column).map fun pair =>
        joinedRow j.table pair.1 pair.2

/-- Whether a row fulfils the condition of a selection. Without a join, a condition on the primary
key compares values; any other compares texts, and goes by the field that a join makes of the
column where a row lacks the column itself. -/
def fulfils (r : Relation) (isJoined : Bool) (condition : Condition) (row : Row) : Bool :=
  if !isJoined && r.primaryKey == some condition.column then
    row.get? condition.column == some condition.value.value
  else
    ((row.get? condition.column).or (row.get? (r.name ++ "_" ++ condition.column))).any
      fun v => v.display == condition.value.text

def select (state : State) (table : String) (join : Option Join) (condition : Option Condition) :
    Except Refusal Answer := do
  let r ← find state table
  let rows ← joined state r join
  match condition with
  | none => return .rows rows
  | some c => return .rows (rows.filter (fulfils r join.isSome c))

def carryOut (state : State) : Statement → Except Refusal (Answer × State)
  | .createTable table columns primaryKey => create state table columns primaryKey
  | .insert table literals => insert state table literals
  | .select table join condition => do
    let answer ← select state table join condition
    return (answer, state)
  | .delete table condition => delete state table condition

/-- The answer to a statement and the state after it; a statement that is refused changes
nothing. -/
def answer (state : State) (s : Statement) : Answer × State :=
  match carryOut state s with
  | .ok result => result
  | .error refusal => (.notice (.refused refusal), state)

end RelStore.Reference
