/-!
JSON values, as far as the store tells them apart. Numbers are integers of any size; a number with
a fraction, an exponent or the spelling `-0` stands for no stored value, and nothing more is kept
of it. A string may spell half of a surrogate pair, and then has no text.
-/

namespace RelStore
set_option autoImplicit false

inductive Json where
  | null
  | bool (b : Bool)
  | integer (n : Int)
  /-- A number that is not written as an integer. -/
  | fraction
  /-- A string with its text, or without one if it has a surrogate that is not part of a pair. -/
  | string (content : Option String)
  | array (items : List Json)
  /-- An object with its members in order; keys may repeat. -/
  | object (members : List (Option String × Json))
deriving Inhabited

namespace Json

def text? : Json → Option String
  | .string content => content
  | _ => none

def items? : Json → Option (List Json)
  | .array items => some items
  | _ => none

def members? : Json → Option (List (String × Json))
  | .object members => members.mapM fun m => m.1.map (·, m.2)
  | _ => none

def ofText (s : String) : Json :=
  .string (some s)

def ofMembers (members : List (String × Json)) : Json :=
  .object (members.map fun m => (some m.1, m.2))

end Json
end RelStore
