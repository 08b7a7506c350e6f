import RelStore.Checkpoint.Encoding
import RelStore.Plan

/-!
What a statement is answered with: rows, or a notice of what was done or why nothing was.
-/

namespace RelStore
set_option autoImplicit false

inductive Notice where
  | tableCreated (table : String)
  /-- The table was there already, and nothing was done. -/
  | tableKept (table : String)
  | rowInserted
  | rowsDeleted (count : Nat)
  | refused (refusal : Refusal)
  | notUnderstood
deriving DecidableEq

namespace Notice

def message : Notice → String
  | .tableCreated table => s!"Table '{table}' created."
  | .tableKept table => s!"Table '{table}' already exists. Skipping creation."
  | .rowInserted => "1 row inserted."
  | .rowsDeleted count => s!"{count} rows deleted."
  | .refused refusal => s!"Error: {refusal.message}"
  | .notUnderstood => "Syntax Error or Unknown Command"

def isSuccess : Notice → Bool
  | .refused _ | .notUnderstood => false
  | _ => true

end Notice

inductive Answer where
  | rows (rows : List Row)
  | notice (n : Notice)
deriving DecidableEq

namespace Answer

/-- Whether an answer is to a statement that was carried out; rows always are. -/
def isSuccess : Answer → Bool
  | .rows _ => true
  | .notice n => n.isSuccess

def toRows : Answer → List Row
  | .rows found => found
  | .notice _ => []

def toJson : Answer → Json
  | .rows found => .ofMembers [("rows", .array (found.map Row.toJson))]
  | .notice n =>
    .ofMembers
      [("status", .ofMembers [("message", .ofText n.message), ("success", .bool n.isSuccess)])]

end Answer
end RelStore
