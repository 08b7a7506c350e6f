import RelStore.Text.Casing

/-!
The keywords of statements. No word is reserved: a keyword is a word in a place where the grammar
asks for one, and it may be spelled in any letter case.
-/

namespace RelStore
set_option autoImplicit false

inductive Keyword where
  | create | table | primary | key | insert | into | values | select | from | join | on | where
  | delete
deriving DecidableEq

namespace Keyword

def all : List Keyword :=
  [.create, .table, .primary, .key, .insert, .into, .values, .select, .from, .join, .on, .where,
   .delete]

def text : Keyword → String
  | .create => "CREATE"
  | .table => "TABLE"
  | .primary => "PRIMARY"
  | .key => "KEY"
  | .insert => "INSERT"
  | .into => "INTO"
  | .values => "VALUES"
  | .select => "SELECT"
  | .from => "FROM"
  | .join => "JOIN"
  | .on => "ON"
  | .where => "WHERE"
  | .delete => "DELETE"

def ofWord? (word : String) : Option Keyword :=
  all.find? fun k => k.text.toList == Text.upper word.toList

theorem ofWord?_text (k : Keyword) : ofWord? k.text = some k := by
  cases k <;> decide

end Keyword
end RelStore
