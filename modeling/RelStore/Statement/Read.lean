import RelStore.Statement
import RelStore.Token.Scan

/-!
The statement that a text spells. Each reader takes what it looks for from the head of a list of
tokens and returns it with the tokens that follow; the first token that does not fit is the one
that the fault names.

    CREATE TABLE name ( column type, ... ) [PRIMARY KEY column]
    INSERT INTO name VALUES ( literal, ... )
    SELECT * FROM name [JOIN name ON name.column = name.column] [WHERE column = literal]
    DELETE FROM name WHERE column = literal

A semicolon may follow, and nothing after it.
-/

namespace RelStore
set_option autoImplicit false

inductive Expectation where
  | statement
  | keyword (k : Keyword)
  | symbol (s : Symbol)
  | identifier
  | literal
  | endOfText
deriving DecidableEq

namespace Expectation

def display : Expectation → String
  | .statement => "CREATE, INSERT, SELECT, or DELETE"
  | .keyword k => k.text
  | .symbol s => s.char.toString
  | .identifier => "identifier"
  | .literal => "literal"
  | .endOfText => "EOF"

end Expectation

inductive SyntaxFault where
  | scan (fault : ScanFault)
  /-- A token, or the end of the text, stands where something else is asked for. -/
  | unexpectedToken (expected : Expectation) (found : Option Token)
  | unknownType (name : String)
deriving DecidableEq

namespace SyntaxFault

def message : SyntaxFault → String
  | .scan fault => fault.message
  | .unexpectedToken expected found =>
    let shown := (found.map Token.display).getD "EOF"
    s!"Parse error: unexpected token '{shown}', expected {expected.display}"
  | .unknownType name => s!"Parse error: unknown column type '{name}'"

end SyntaxFault

namespace Statement

def unexpected {α : Type} (expected : Expectation) (tokens : List Token) : Except SyntaxFault α :=
  .error (.unexpectedToken expected tokens.head?)

def startsWith (k : Keyword) (tokens : List Token) : Bool :=
  tokens.head?.bind Token.keyword? == some k

def readKeyword (k : Keyword) (tokens : List Token) : Except SyntaxFault (List Token) :=
  if startsWith k tokens then .ok tokens.tail else unexpected (.keyword k) tokens

def readSymbol (s : Symbol) (tokens : List Token) : Except SyntaxFault (List Token) :=
  if tokens.head? = some (.symbol s) then .ok tokens.tail else unexpected (.symbol s) tokens

/-- A name; any word will do. -/
def readIdentifier : List Token → Except SyntaxFault (String × List Token)
  | .word name :: rest => .ok (name, rest)
  | tokens => unexpected .identifier tokens

def literal? : Token → Option Literal
  | .number text => some (.number text)
  | .quoted content => some (.quoted content)
  | .word text => some (.word text)
  | .symbol _ => none

def readLiteral (tokens : List Token) : Except SyntaxFault (Literal × List Token) :=
  match tokens.head?.bind literal? with
  | some l => .ok (l, tokens.tail)
  | none => unexpected .literal tokens

def readColumns : List Token → Except SyntaxFault (List (String × ColumnType) × List Token)
  | .word name :: .word typeName :: rest =>
    match ColumnType.ofName? typeName with
    | none => .error (.unknownType typeName)
    | some type =>
      match rest with
      | .symbol .comma :: more =>
        (readColumns more).map fun (columns, after) => ((name, type) :: columns, after)
      | _ => .ok ([(name, type)], rest)
  | .word _ :: tokens => unexpected .identifier tokens
  | tokens => unexpected .identifier tokens

def readLiterals : List Token → Except SyntaxFault (List Literal × List Token)
  | [] => unexpected .literal []
  | t :: rest =>
    match literal? t with
    | none => unexpected .literal (t :: rest)
    | some l =>
      match rest with
      | .symbol .comma :: more =>
        (readLiterals more).map fun (literals, after) => (l :: literals, after)
      | _ => .ok ([l], rest)

def readPrimaryKey (tokens : List Token) : Except SyntaxFault (Option String × List Token) :=
  if startsWith .primary tokens then do
    let tokens ← readKeyword .key tokens.tail
    let (column, tokens) ← readIdentifier tokens
    return (some column, tokens)
  else
    .ok (none, tokens)

def readColumnRef (tokens : List Token) : Except SyntaxFault (ColumnRef × List Token) := do
  let (table, tokens) ← readIdentifier tokens
  let tokens ← readSymbol .dot tokens
  let (column, tokens) ← readIdentifier tokens
  return (⟨table, column⟩, tokens)

def readCondition (tokens : List Token) : Except SyntaxFault (Condition × List Token) := do
  let (column, tokens) ← readIdentifier tokens
  let tokens ← readSymbol .equals tokens
  let (value, tokens) ← readLiteral tokens
  return (⟨column, value⟩, tokens)

def readJoin (tokens : List Token) : Except SyntaxFault (Option Join × List Token) :=
  if startsWith .join tokens then do
    let (table, tokens) ← readIdentifier tokens.tail
    let tokens ← readKeyword .on tokens
    let (left, tokens) ← readColumnRef tokens
    let tokens ← readSymbol .equals tokens
    let (right, tokens) ← readColumnRef tokens
    return (some ⟨table, left, right⟩, tokens)
  else
    .ok (none, tokens)

def readFilter (tokens : List Token) : Except SyntaxFault (Option Condition × List Token) :=
  if startsWith .where tokens then do
    let (condition, tokens) ← readCondition tokens.tail
    return (some condition, tokens)
  else
    .ok (none, tokens)

def readCreateTable (tokens : List Token) : Except SyntaxFault (Statement × List Token) := do
  let tokens ← readKeyword .table tokens
  let (table, tokens) ← readIdentifier tokens
  let tokens ← readSymbol .openParen tokens
  let (columns, tokens) ← readColumns tokens
  let tokens ← readSymbol .closeParen tokens
  let (primaryKey, tokens) ← readPrimaryKey tokens
  return (.createTable table columns primaryKey, tokens)

def readInsert (tokens : List Token) : Except SyntaxFault (Statement × List Token) := do
  let tokens ← readKeyword .into tokens
  let (table, tokens) ← readIdentifier tokens
  let tokens ← readKeyword .values tokens
  let tokens ← readSymbol .openParen tokens
  let (values, tokens) ← readLiterals tokens
  let tokens ← readSymbol .closeParen tokens
  return (.insert table values, tokens)

def readSelect (tokens : List Token) : Except SyntaxFault (Statement × List Token) := do
  let tokens ← readSymbol .asterisk tokens
  let tokens ← readKeyword .from tokens
  let (table, tokens) ← readIdentifier tokens
  let (join, tokens) ← readJoin tokens
  let (filter, tokens) ← readFilter tokens
  return (.select table join filter, tokens)

def readDelete (tokens : List Token) : Except SyntaxFault (Statement × List Token) := do
  let tokens ← readKeyword .from tokens
  let (table, tokens) ← readIdentifier tokens
  let tokens ← readKeyword .where tokens
  let (filter, tokens) ← readCondition tokens
  return (.delete table filter, tokens)

def read (tokens : List Token) : Except SyntaxFault (Statement × List Token) :=
  match tokens.head?.bind Token.keyword? with
  | some .create => readCreateTable tokens.tail
  | some .insert => readInsert tokens.tail
  | some .select => readSelect tokens.tail
  | some .delete => readDelete tokens.tail
  | _ => unexpected .statement tokens

/-- Nothing, or one semicolon. -/
def readEnd (tokens : List Token) : Except SyntaxFault Unit :=
  let rest := if tokens.head? = some (.symbol .semicolon) then tokens.tail else tokens
  if rest.isEmpty then .ok () else unexpected .endOfText rest

def ofTokens (tokens : List Token) : Except SyntaxFault Statement := do
  let (statement, rest) ← read tokens
  readEnd rest
  return statement

def parse (text : String) : Except SyntaxFault Statement :=
  match Token.scan text with
  | .ok tokens => ofTokens tokens
  | .error fault => .error (.scan fault)

end Statement
end RelStore
