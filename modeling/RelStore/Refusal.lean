import RelStore.Value

/-!
The reasons for which a well-formed statement is refused by the tables it addresses.
-/

namespace RelStore
set_option autoImplicit false

inductive Refusal where
  | tableNotFound (table : String)
  | tableAlreadyExists (table : String)
  | columnNotFound (column table : String)
  | duplicateColumn (column : String)
  | countMismatch (table : String) (columns values : Nat)
  | duplicateKey (key : Value)
deriving DecidableEq

namespace Refusal

def message : Refusal → String
  | .tableNotFound table => s!"Table {table} not found."
  | .tableAlreadyExists table => s!"Table '{table}' already exists."
  | .columnNotFound column table => s!"Column '{column}' not found in table '{table}'"
  | .duplicateColumn column => s!"Column '{column}' declared more than once"
  | .countMismatch table columns values =>
    s!"Column count mismatch: table '{table}' has {columns} columns, got {values} values"
  | .duplicateKey key => s!"Duplicate entry for Primary Key '{key.display}'"

end Refusal
end RelStore
