import RelStore.Text.Ranges

/-!
Blank characters, those with the Unicode property White_Space, and what is left of a text when
blanks are taken off its ends or cut it into words.
-/

namespace RelStore.Text
set_option autoImplicit false

/-- The code points with the property White_Space. -/
def blankRanges : List (Nat × Nat) :=
  [(0x9, 0xD), (0x20, 0x20), (0x85, 0x85), (0xA0, 0xA0), (0x1680, 0x1680), (0x2000, 0x200A),
   (0x2028, 0x2029), (0x202F, 0x202F), (0x205F, 0x205F), (0x3000, 0x3000)]

def isBlank (c : Char) : Bool :=
  inRanges c.toNat blankRanges

theorem ascendingFrom_blankRanges : ascendingFrom 0 blankRanges = true := by
  decide +kernel

/-- The text from its first to its last character that is not blank. -/
def trimmed (s : List Char) : List Char :=
  ((s.dropWhile isBlank).reverse.dropWhile isBlank).reverse

def trim (s : String) : String :=
  String.ofList (trimmed s.toList)

/-- The maximal runs of characters that are not blank; `word` is the run read so far, reversed. -/
def splitBlank (word : List Char) : List Char → List (List Char)
  | [] => if word.isEmpty then [] else [word.reverse]
  | c :: rest =>
    if isBlank c then
      if word.isEmpty then splitBlank [] rest else word.reverse :: splitBlank [] rest
    else splitBlank (c :: word) rest

def words (s : String) : List String :=
  (splitBlank [] s.toList).map String.ofList

end RelStore.Text
