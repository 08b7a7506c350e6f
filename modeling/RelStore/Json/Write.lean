import RelStore.Json
import RelStore.Json.Quoted
import RelStore.Text.Decimal

/-!
JSON texts of values. The compact layout has no blanks; the indented one puts each item and member
on a line of its own, two blanks deeper than what it belongs to, and a blank after each colon.
-/

namespace RelStore.Json
set_option autoImplicit false

open Text

inductive Layout where
  | compact
  | indented
deriving DecidableEq

namespace Layout

/-- What comes before an item or a closing bracket at a depth. -/
def lineBreak : Layout → Nat → List Char
  | .compact, _ => []
  | .indented, depth => '\n' :: List.replicate (2 * depth) ' '

def colon : Layout → List Char
  | .compact => [':']
  | .indented => [':', ' ']

end Layout

mutual

/-- A value as it is written at a depth. A number that is not an integer is written as one that
reads back as no integer. -/
def write (l : Layout) (depth : Nat) : Json → List Char
  | .null => ['n', 'u', 'l', 'l']
  | .bool true => ['t', 'r', 'u', 'e']
  | .bool false => ['f', 'a', 'l', 's', 'e']
  | .integer n => Decimal.ofInt n
  | .fraction => ['-', '0']
  | .string content => quote content
  | .array [] => ['[', ']']
  | .array (v :: rest) =>
    '[' :: l.lineBreak (depth + 1) ++ write l (depth + 1) v ++ writeItems l (depth + 1) rest ++
      l.lineBreak depth ++ [']']
  | .object [] => ['{', '}']
  | .object ((key, v) :: rest) =>
    '{' :: l.lineBreak (depth + 1) ++ quote key ++ l.colon ++ write l (depth + 1) v ++
      writeMembers l (depth + 1) rest ++ l.lineBreak depth ++ ['}']

def writeItems (l : Layout) (depth : Nat) : List Json → List Char
  | [] => []
  | v :: rest => ',' :: l.lineBreak depth ++ write l depth v ++ writeItems l depth rest

def writeMembers (l : Layout) (depth : Nat) : List (Option String × Json) → List Char
  | [] => []
  | (key, v) :: rest =>
    ',' :: l.lineBreak depth ++ quote key ++ l.colon ++ write l depth v ++
      writeMembers l depth rest

end

def render (l : Layout) (v : Json) : String :=
  String.ofList (write l 0 v)

end RelStore.Json
