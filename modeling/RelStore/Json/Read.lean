import RelStore.Json.Token

/-!
The value that a JSON text spells. The tokens are taken one by one; in between stand the arrays
and objects that are still open, so values may be nested to any depth.
-/

namespace RelStore.Json
set_option autoImplicit false

/-- An array or object that is still open, with what it holds so far, the latest first. -/
inductive Frame where
  | array (items : List Json)
  /-- An object and the key of the value that is being read. -/
  | object (members : List (Option String × Json)) (key : Option String)

/-- What may come next; `outer` are the frames that are open, the innermost first. -/
inductive Stage where
  | value (outer : List Frame)
  | firstItem (outer : List Frame)
  | firstKey (outer : List Frame)
  | nextKey (members : List (Option String × Json)) (outer : List Frame)
  | colon (members : List (Option String × Json)) (key : Option String) (outer : List Frame)
  | after (v : Json) (outer : List Frame)

def Stage.start (outer : List Frame) : Token → Option Stage
  | .openArray => some (.firstItem outer)
  | .openObject => some (.firstKey outer)
  | .scalar v => some (.after v outer)
  | _ => none

/-- The stage after a token; `none` if the token may not come. -/
def Stage.step : Stage → Token → Option Stage
  | .value outer, t => start outer t
  | .firstItem outer, .closeArray => some (.after (.array []) outer)
  | .firstItem outer, t => start (.array [] :: outer) t
  | .firstKey outer, .closeObject => some (.after (.object []) outer)
  | .firstKey outer, .scalar (.string key) => some (.colon [] key outer)
  | .nextKey members outer, .scalar (.string key) => some (.colon members key outer)
  | .colon members key outer, .colon => some (.value (.object members key :: outer))
  | .after v (.array items :: outer), .comma => some (.value (.array (v :: items) :: outer))
  | .after v (.array items :: outer), .closeArray =>
    some (.after (.array (v :: items).reverse) outer)
  | .after v (.object members key :: outer), .comma => some (.nextKey ((key, v) :: members) outer)
  | .after v (.object members key :: outer), .closeObject =>
    some (.after (.object ((key, v) :: members).reverse) outer)
  | _, _ => none

def ofTokens? (tokens : List Token) : Option Json :=
  match tokens.foldlM Stage.step (.value []) with
  | some (.after v []) => some v
  | _ => none

def read? (text : String) : Option Json :=
  (tokens? text.toList).bind ofTokens?

end RelStore.Json
