import Mathlib.Data.List.Forall2
import RelStore.Statement.Read
import RelStore.Token.Spelling

/-!
The grammar of statements. A form is a statement as it is written: which words spell its keywords
and name its column types, in whatever letter case, and whether a semicolon closes it. A name is
any word at all, also one that spells a keyword. `tokens` is the row of tokens that a form is made
of, and `statement` is what it stands for. A text spells a statement if it is a layout of the tokens
of a form of it; that needs names that are words and numbers that are numbers.
-/

namespace RelStore
set_option autoImplicit false

namespace Text

/-- Whether a character is a letter in either case: the letter itself, its small letter if it is a
capital, its capital if it is small. Outside ASCII there are two more letters with an ASCII capital
and one with an ASCII small letter. -/
def IsCaseOf (c letter : Char) : Prop :=
  c = letter ∨
  letter.isUpper = true ∧ c.toNat = letter.toNat + 32 ∨
  letter.isLower = true ∧ c.toNat + 32 = letter.toNat ∨
  c = 'ı' ∧ letter = 'I' ∨ c = 'ſ' ∧ letter = 'S' ∨ c = '\u212a' ∧ letter = 'k'

instance (c letter : Char) : Decidable (IsCaseOf c letter) :=
  inferInstanceAs (Decidable (_ ∨ _))

/-- Whether a word is a name, letter by letter, in whatever case each of the letters is. -/
def InCase (word name : String) : Prop :=
  List.Forall₂ IsCaseOf word.toList name.toList

instance (word name : String) : Decidable (InCase word name) :=
  inferInstanceAs (Decidable (List.Forall₂ _ _ _))

end Text

/-- A word that spells a keyword. -/
@[ext] structure KeywordForm (k : Keyword) where
  word : String
  spells : Text.InCase word k.text

def KeywordForm.token {k : Keyword} (f : KeywordForm k) : Token :=
  .word f.word

/-- A word that names a column type. -/
structure TypeForm where
  word : String
  type : ColumnType
  names : ∃ name ∈ type.names, Text.InCase word name

structure ColumnForm where
  name : String
  type : TypeForm

namespace ColumnForm

def tokens (f : ColumnForm) : List Token :=
  [.word f.name, .word f.type.word]

def column (f : ColumnForm) : String × ColumnType :=
  (f.name, f.type.type)

end ColumnForm

def Literal.token : Literal → Token
  | .number text => .number text
  | .quoted content => .quoted content
  | .word text => .word text

def ColumnRef.tokens (r : ColumnRef) : List Token :=
  [.word r.table, .symbol .dot, .word r.column]

def Condition.tokens (c : Condition) : List Token :=
  [.word c.column, .symbol .equals, c.value.token]

/-- The clause that names the primary key. -/
structure KeyForm where
  primary : KeywordForm .primary
  key : KeywordForm .key
  column : String

def KeyForm.tokens (f : KeyForm) : List Token :=
  [f.primary.token, f.key.token, .word f.column]

structure JoinForm where
  join : KeywordForm .join
  on : KeywordForm .on
  clause : Join

def JoinForm.tokens (f : JoinForm) : List Token :=
  f.join.token :: .word f.clause.table :: f.on.token :: f.clause.left.tokens ++
    .symbol .equals :: f.clause.right.tokens

structure FilterForm where
  key : KeywordForm .where
  condition : Condition

def FilterForm.tokens (f : FilterForm) : List Token :=
  f.key.token :: f.condition.tokens

namespace Statement

/-- Rows of tokens with a comma between any two. -/
def withCommas (rows : List (List Token)) : List Token :=
  [Token.symbol .comma].intercalate rows

/-- The tokens of a clause that may be left out. -/
def optional {α : Type} (tokens : α → List Token) : Option α → List Token
  | none => []
  | some clause => tokens clause

/-- A statement as it is written, without what closes it. -/
inductive Phrase where
  | createTable (k₁ : KeywordForm .create) (k₂ : KeywordForm .table) (table : String)
      (columns : List ColumnForm) (some_column : columns ≠ []) (key : Option KeyForm)
  | insert (k₁ : KeywordForm .insert) (k₂ : KeywordForm .into) (table : String)
      (k₃ : KeywordForm .values) (literals : List Literal) (some_literal : literals ≠ [])
  | select (k₁ : KeywordForm .select) (k₂ : KeywordForm .from) (table : String)
      (join : Option JoinForm) (filter : Option FilterForm)
  | delete (k₁ : KeywordForm .delete) (k₂ : KeywordForm .from) (table : String)
      (k₃ : KeywordForm .where) (condition : Condition)

namespace Phrase

def tokens : Phrase → List Token
  | createTable k₁ k₂ table columns _ key =>
    k₁.token :: k₂.token :: .word table :: .symbol .openParen ::
      withCommas (columns.map ColumnForm.tokens) ++
      .symbol .closeParen :: optional KeyForm.tokens key
  | insert k₁ k₂ table k₃ literals _ =>
    k₁.token :: k₂.token :: .word table :: k₃.token :: .symbol .openParen ::
      withCommas (literals.map fun l => [l.token]) ++ [.symbol .closeParen]
  | select k₁ k₂ table join filter =>
    k₁.token :: .symbol .asterisk :: k₂.token :: .word table ::
      optional JoinForm.tokens join ++ optional FilterForm.tokens filter
  | delete k₁ k₂ table k₃ condition =>
    k₁.token :: k₂.token :: .word table :: k₃.token :: condition.tokens

def statement : Phrase → Statement
  | createTable _ _ table columns _ key =>
    .createTable table (columns.map ColumnForm.column) (key.map KeyForm.column)
  | insert _ _ table _ literals _ => .insert table literals
  | select _ _ table join filter =>
    .select table (join.map JoinForm.clause) (filter.map FilterForm.condition)
  | delete _ _ table _ condition => .delete table condition

end Phrase

/-- The token that closes a statement, if one does. -/
def closing (closed : Bool) : List Token :=
  if closed then [.symbol .semicolon] else []

/-- A statement as it is written, perhaps with a semicolon after it. -/
structure Form where
  phrase : Phrase
  closed : Bool

namespace Form

def tokens (f : Form) : List Token :=
  f.phrase.tokens ++ closing f.closed

def statement (f : Form) : Statement :=
  f.phrase.statement

end Form

/-- A text that spells a statement. -/
def SpelledBy (s : Statement) (text : String) : Prop :=
  ∃ f : Form, f.statement = s ∧ Token.Writes f.tokens text.toList

end Statement

def IsName (name : String) : Prop :=
  Token.IsWord name.toList

def Literal.Writable : Literal → Prop
  | .number text => Token.IsNumber text.toList
  | .quoted _ => True
  | .word text => IsName text

structure ColumnRef.Writable (r : ColumnRef) : Prop where
  table : IsName r.table
  column : IsName r.column

structure Condition.Writable (c : Condition) : Prop where
  column : IsName c.column
  value : c.value.Writable

structure Join.Writable (j : Join) : Prop where
  table : IsName j.table
  left : j.left.Writable
  right : j.right.Writable

/-- Lists are not empty, names and bare words are words, numbers are numbers; a quoted text may be
any. -/
def Statement.Writable : Statement → Prop
  | .createTable table columns key =>
    IsName table ∧ columns ≠ [] ∧ (∀ c ∈ columns, IsName c.1) ∧ ∀ column ∈ key, IsName column
  | .insert table values => IsName table ∧ values ≠ [] ∧ ∀ l ∈ values, l.Writable
  | .select table join filter =>
    IsName table ∧ (∀ j ∈ join, j.Writable) ∧ ∀ c ∈ filter, c.Writable
  | .delete table filter => IsName table ∧ filter.Writable

end RelStore
