import RelStore.Keyword

/-!
Tokens of statements: words, numbers, quoted texts and single-character symbols.
-/

namespace RelStore
set_option autoImplicit false

inductive Symbol where
  | openParen | closeParen | comma | semicolon | dot | equals | asterisk
deriving DecidableEq

namespace Symbol

def char : Symbol → Char
  | .openParen => '('
  | .closeParen => ')'
  | .comma => ','
  | .semicolon => ';'
  | .dot => '.'
  | .equals => '='
  | .asterisk => '*'

def ofChar? : Char → Option Symbol
  | '(' => some .openParen
  | ')' => some .closeParen
  | ',' => some .comma
  | ';' => some .semicolon
  | '.' => some .dot
  | '=' => some .equals
  | '*' => some .asterisk
  | _ => none

theorem ofChar?_char (s : Symbol) : ofChar? s.char = some s := by
  cases s <;> rfl

end Symbol

inductive Token where
  | number (text : String)
  /-- A quoted text without its quotes, each doubled quote in it made single. -/
  | quoted (content : String)
  | word (text : String)
  | symbol (s : Symbol)
deriving DecidableEq

namespace Token

/-- The keyword that a token spells; only words do. -/
def keyword? : Token → Option Keyword
  | .word text => Keyword.ofWord? text
  | _ => none

def display : Token → String
  | .number text => text
  | .quoted content => s!"'{content}'"
  | .word text => text
  | .symbol s => s.char.toString

end Token
end RelStore
