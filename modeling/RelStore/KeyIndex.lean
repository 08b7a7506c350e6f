import RelStore.Row
import Std.Data.ExtTreeMap

/-!
The index of a table: for each value of one column, the position of the row that has it.
-/

namespace RelStore
set_option autoImplicit false

structure KeyIndex where
  column : String
  positions : Std.ExtTreeMap Value Nat

namespace KeyIndex

def empty (column : String) : KeyIndex :=
  ⟨column, ∅⟩

def keyOf? (index : KeyIndex) (row : Row) : Option Value :=
  row.get? index.column

def get? (index : KeyIndex) (key : Value) : Option Nat :=
  index.positions[key]?

def contains (index : KeyIndex) (key : Value) : Bool :=
  index.positions.contains key

def size (index : KeyIndex) : Nat :=
  index.positions.size

/-- The index in which a key has a given position, whether it had one before or not. -/
def insert (index : KeyIndex) (key : Value) (position : Nat) : KeyIndex :=
  { index with positions := index.positions.insert key position }

def insertRow (index : KeyIndex) (row : Row) (position : Nat) : KeyIndex :=
  match index.keyOf? row with
  | some key => index.insert key position
  | none => index

/-- The index over the same column of these rows and no others; of two rows with one key the
later one counts. -/
def rebuild (index : KeyIndex) (rows : List Row) : KeyIndex :=
  rows.zipIdx.foldl (fun index r => index.insertRow r.1 r.2) (empty index.column)

def build (column : String) (rows : List Row) : KeyIndex :=
  (empty column).rebuild rows

end KeyIndex
end RelStore
