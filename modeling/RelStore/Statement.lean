import RelStore.Schema

/-!
Statements. There are four shapes: a table is created, a row is inserted, rows are selected from
a table or from two tables joined, rows are deleted.
-/

namespace RelStore
set_option autoImplicit false

inductive Literal where
  | number (text : String)
  /-- A quoted text, without its quotes. -/
  | quoted (content : String)
  | word (text : String)
deriving DecidableEq

namespace Literal

def text : Literal → String
  | .number text => text
  | .quoted content => content
  | .word text => text

/-- The value that a literal is stored as; how it was written makes no difference. -/
def value (l : Literal) : Value :=
  .ofLiteral l.text

end Literal

structure ColumnRef where
  table : String
  column : String
deriving DecidableEq

structure Condition where
  column : String
  value : Literal
deriving DecidableEq

/-- The part of a selection that names a second table and the columns in which rows agree. -/
structure Join where
  table : String
  left : ColumnRef
  right : ColumnRef
deriving DecidableEq

inductive Statement where
  | createTable (table : String) (columns : List (String × ColumnType))
      (primaryKey : Option String)
  | insert (table : String) (values : List Literal)
  | select (table : String) (join : Option Join) (filter : Option Condition)
  | delete (table : String) (filter : Condition)
deriving DecidableEq

namespace Statement

def table : Statement → String
  | .createTable table _ _ => table
  | .insert table _ => table
  | .select table _ _ => table
  | .delete table _ => table

end Statement
end RelStore
