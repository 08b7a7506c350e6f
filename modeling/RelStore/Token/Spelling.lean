import RelStore.Token.Scan

/-!
How tokens are spelled. A symbol has one spelling, a word and a number are spelled as they are, a
quoted text has one spelling for each kind of quote. A statement's text is a row of spellings with
blanks between them, and between two tokens there may be no blank only if the first could not be
read on into the second.
-/

namespace RelStore.Token
set_option autoImplicit false

open Text

/-- A content as it stands between quotes: each quote of the same kind is doubled. -/
def doubled (quote : Char) (content : List Char) : List Char :=
  content.flatMap fun c => if c = quote then [quote, quote] else [c]

/-- The part of a number from its point on. -/
inductive IsFraction : List Char → Prop where
  | none : IsFraction []
  | digits {d : Char} {rest : List Char} (h : ∀ c ∈ d :: rest, c.isDigit = true) :
      IsFraction ('.' :: d :: rest)

inductive IsUnsigned : List Char → Prop where
  | intro {d : Char} {digits tail : List Char} (h : ∀ c ∈ d :: digits, c.isDigit = true)
      (ht : IsFraction tail) : IsUnsigned (d :: digits ++ tail)

inductive IsNumber : List Char → Prop where
  | positive {s : List Char} (h : IsUnsigned s) : IsNumber s
  | negative {s : List Char} (h : IsUnsigned s) : IsNumber ('-' :: s)

inductive IsWord : List Char → Prop where
  | intro {c : Char} {rest : List Char} (hc : isWordStart c = true)
      (h : ∀ d ∈ rest, isWordPart d = true) : IsWord (c :: rest)

inductive Spelling : Token → List Char → Prop where
  | symbol (s : Symbol) : Spelling (.symbol s) [s.char]
  | word {s : List Char} (h : IsWord s) : Spelling (.word (String.ofList s)) s
  | number {s : List Char} (h : IsNumber s) : Spelling (.number (String.ofList s)) s
  | quoted {quote : Char} (h : isQuote quote = true) (content : List Char) :
      Spelling (.quoted (String.ofList content)) (quote :: doubled quote content ++ [quote])

def isSymbol : Token → Bool
  | .symbol _ => true
  | _ => false

/-- A row of tokens as it stands in a text, from its first token on. Blanks follow each token. They
may be left out next to a symbol and at the end. -/
inductive Layout : List Token → List Char → Prop where
  | nil : Layout [] []
  | cons {t : Token} {rest : List Token} {spelling gap text : List Char}
      (spells : Spelling t spelling) (blanks : ∀ c ∈ gap, isBlank c = true)
      (apart : gap ≠ [] ∨ t.isSymbol = true ∨ ∀ t' ∈ rest.head?, t'.isSymbol = true)
      (tail : Layout rest text) : Layout (t :: rest) (spelling ++ (gap ++ text))

/-- A text that spells a row of tokens. -/
def Writes (tokens : List Token) (text : List Char) : Prop :=
  ∃ lead body, text = lead ++ body ∧ (∀ c ∈ lead, isBlank c = true) ∧ Layout tokens body

theorem Spelling.ne_nil {t : Token} {s : List Char} (h : Spelling t s) : s ≠ [] := by
  cases h with
  | symbol s => simp
  | word h => cases h; simp
  | number h =>
    cases h with
    | positive h => cases h; simp
    | negative h => simp
  | quoted h content => simp

theorem quotedRest_doubled (quote : Char) (content after : List Char)
    (h : after.head? ≠ some quote) :
    quotedRest quote (doubled quote content ++ quote :: after) = some (content, after) := by
  induction content with
  | nil =>
    cases after with
    | nil => simp [doubled, quotedRest]
    | cons d rest =>
      have hd : d ≠ quote := by simpa using h
      simp [doubled, quotedRest, hd]
  | cons c rest ih =>
    by_cases hc : c = quote
    · simp only [doubled, List.flatMap_cons, hc, if_true, List.cons_append, List.nil_append]
      simp only [doubled] at ih
      simp [quotedRest, ih]
    · simp only [doubled, List.flatMap_cons, if_neg hc, List.cons_append, List.nil_append]
      simp only [doubled] at ih
      rw [quotedRest.eq_def]
      simp [hc, ih]

end RelStore.Token
