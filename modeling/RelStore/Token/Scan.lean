import RelStore.Text.Alphabetic
import RelStore.Text.Blank
import RelStore.Text.Numeric
import RelStore.Token

/-!
The tokens of a text. Blanks separate tokens and are dropped; a token is taken as long as it
gets. A number is an optional minus sign, ASCII digits and at most one point between digits; a
word begins with a letter or an underscore; a quote ends at the next quote of its kind that is
not doubled.
-/

namespace RelStore
set_option autoImplicit false

open Text

/-- Why a text has no tokens; positions count characters from zero. -/
inductive ScanFault where
  | unexpectedCharacter (c : Char) (position : Nat)
  | unterminatedString (start : Nat)
deriving DecidableEq

namespace ScanFault

def message : ScanFault → String
  | .unexpectedCharacter c position =>
    s!"Lexer error: unexpected character '{c}' at position {position}"
  | .unterminatedString start =>
    s!"Lexer error: unterminated string literal starting at position {start}"

end ScanFault

namespace Token

def isWordStart (c : Char) : Bool :=
  isAlphabetic c || c == '_'

def isWordPart (c : Char) : Bool :=
  isAlphabetic c || isNumeric c || c == '_'

def isQuote (c : Char) : Bool :=
  c == '\'' || c == '"'

/-- The content of a quoted text whose opening quote has been read, and what follows its closing
quote; `none` if it is never closed. -/
def quotedRest (quote : Char) : List Char → Option (List Char × List Char)
  | [] => none
  | c :: rest =>
    if c = quote then
      match rest with
      | [] => some ([], [])
      | d :: rest' =>
        if d = quote then
          (quotedRest quote rest').map fun (content, after) => (quote :: content, after)
        else
          some ([], d :: rest')
    else
      (quotedRest quote rest).map fun (content, after) => (c :: content, after)

/-- The point and the digits at the head of a text, if a digit follows the point, and the rest. -/
def fraction : List Char → List Char × List Char
  | '.' :: d :: rest =>
    if d.isDigit then ('.' :: d :: rest.takeWhile Char.isDigit, rest.dropWhile Char.isDigit)
    else ([], '.' :: d :: rest)
  | rest => ([], rest)

def numberRest (s : List Char) : List Char × List Char :=
  let (tail, rest) := fraction (s.dropWhile Char.isDigit)
  (s.takeWhile Char.isDigit ++ tail, rest)

def startsNumber (c : Char) (rest : List Char) : Bool :=
  c.isDigit || (c == '-' && rest.head?.any Char.isDigit)

inductive HeadFault where
  | strayCharacter
  | openQuote

/-- The token at the head of a text that does not begin with a blank, and what follows it. -/
def head (c : Char) (rest : List Char) : Except HeadFault (Token × List Char) :=
  match Symbol.ofChar? c with
  | some s => .ok (.symbol s, rest)
  | none =>
    if isQuote c then
      match quotedRest c rest with
      | some (content, after) => .ok (.quoted (String.ofList content), after)
      | none => .error .openQuote
    else if startsNumber c rest then
      let (text, after) := numberRest rest
      .ok (.number (String.ofList (c :: text)), after)
    else if isWordStart c then
      .ok (.word (String.ofList (c :: rest.takeWhile isWordPart)), rest.dropWhile isWordPart)
    else
      .error .strayCharacter

theorem length_quotedRest {quote : Char} {s content after : List Char}
    (h : quotedRest quote s = some (content, after)) : after.length ≤ s.length := by
  fun_induction quotedRest quote s generalizing content after with
  | case1 => cases h
  | case2 =>
    cases h
    simp
  | case3 rest ih =>
    simp only [Option.map_eq_some_iff, Prod.exists, Prod.mk.injEq] at h
    obtain ⟨_, _, h, -, rfl⟩ := h
    have := ih h
    simp only [List.length_cons]
    omega
  | case4 =>
    cases h
    simp
  | case5 c rest _ ih =>
    simp only [Option.map_eq_some_iff, Prod.exists, Prod.mk.injEq] at h
    obtain ⟨_, _, h, -, rfl⟩ := h
    have := ih h
    simp only [List.length_cons]
    omega

theorem length_dropWhile_le (p : Char → Bool) (s : List Char) :
    (s.dropWhile p).length ≤ s.length :=
  (List.dropWhile_sublist p).length_le

theorem length_fraction (s : List Char) : (fraction s).2.length ≤ s.length := by
  unfold fraction
  split
  · rename_i d rest
    split
    · have := length_dropWhile_le Char.isDigit rest
      simp only [List.length_cons]
      omega
    · simp
  · simp

theorem length_numberRest (s : List Char) : (numberRest s).2.length ≤ s.length :=
  Nat.le_trans (length_fraction _) (length_dropWhile_le _ _)

theorem length_head {c : Char} {rest after : List Char} {t : Token}
    (h : head c rest = .ok (t, after)) : after.length ≤ rest.length := by
  unfold head at h
  split at h
  · cases h
    exact Nat.le_refl _
  · split at h
    · split at h
      · rename_i hq
        cases h
        exact length_quotedRest hq
      · cases h
    · split at h
      · cases h
        exact length_numberRest rest
      · split at h
        · cases h
          exact length_dropWhile_le _ _
        · cases h

/-- Where scanning stops: no token begins at the character `c`, which `rest` follows. -/
structure Stop where
  fault : HeadFault
  c : Char
  rest : List Char

def Stop.locate (length : Nat) (s : Stop) : ScanFault :=
  let position := length - (s.rest.length + 1)
  match s.fault with
  | .strayCharacter => .unexpectedCharacter s.c position
  | .openQuote => .unterminatedString position

def scanList : List Char → Except Stop (List Token)
  | [] => .ok []
  | c :: rest =>
    if isBlank c then
      scanList rest
    else
      match _h : head c rest with
      | .ok (t, after) => (t :: ·) <$> scanList after
      | .error fault => .error ⟨fault, c, rest⟩
termination_by s => s.length
decreasing_by
  · simp
  · have := length_head _h
    simp only [List.length_cons]
    omega

def scan (text : String) : Except ScanFault (List Token) :=
  (scanList text.toList).mapError (Stop.locate text.length)

end Token
end RelStore
