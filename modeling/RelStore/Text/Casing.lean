/-!
Letter case, as far as it decides whether a word spells an ASCII one. Full upper-casing sends
ten characters outside ASCII to ASCII letters, and full lower-casing sends one; every other
character outside ASCII keeps a character outside ASCII in either case. The maps below therefore
leave it alone: a word that has one equals no ASCII word in any case.
-/

namespace RelStore.Text
set_option autoImplicit false

/-- The upper case of a character where that is ASCII, else the character itself. -/
def upperAscii (c : Char) : List Char :=
  match c with
  | 'ı' => ['I']
  | 'ſ' => ['S']
  | 'ß' => ['S', 'S']
  | 'ﬀ' => ['F', 'F']
  | 'ﬁ' => ['F', 'I']
  | 'ﬂ' => ['F', 'L']
  | 'ﬃ' => ['F', 'F', 'I']
  | 'ﬄ' => ['F', 'F', 'L']
  | 'ﬅ' => ['S', 'T']
  | 'ﬆ' => ['S', 'T']
  | c => [c.toUpper]

/-- The lower case of a character where that is ASCII, else the character itself. The one
character outside ASCII with an ASCII lower case is the Kelvin sign. -/
def lowerAscii (c : Char) : Char :=
  if c = '\u212a' then 'k' else c.toLower

def upper (word : List Char) : List Char :=
  word.flatMap upperAscii

def lower (word : List Char) : List Char :=
  word.map lowerAscii

end RelStore.Text
