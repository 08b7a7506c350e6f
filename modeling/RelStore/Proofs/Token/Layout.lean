import Mathlib.Data.List.Chain
import RelStore.Proofs.Token.Partition

/-!
A layout of tokens is scanned as those tokens. Blanks and symbols do not go on with the token before
them, but for a point after a number.
-/

namespace RelStore.Token
set_option autoImplicit false

open Text

/-- What follows a token begins with a blank or a symbol, if anything follows. -/
def Ends (after : List Char) : Prop :=
  ∀ c ∈ after.head?, isBlank c = true ∨ ∃ s : Symbol, s.char = c

section Ends

variable {after : List Char}

theorem Ends.isWordPart (h : Ends after) : ∀ c ∈ after.head?, isWordPart c = false := by
  intro c hc
  rcases h c hc with hb | ⟨s, rfl⟩
  · exact isWordPart_of_isBlank hb
  · exact isWordPart_char s

theorem Ends.isDigit (h : Ends after) : ∀ c ∈ after.head?, c.isDigit = false := by
  intro c hc
  rw [Bool.eq_false_iff]
  intro hd
  have hpart := h.isWordPart c hc
  rw [isWordPart_of_isDigit hd] at hpart
  cases hpart

theorem Ends.ne_quote (h : Ends after) {quote : Char} (hq : isQuote quote = true) :
    after.head? ≠ some quote := by
  intro hc
  rcases h quote hc with hb | ⟨s, rfl⟩
  · rcases isQuote_iff.1 hq with rfl | rfl
    · cases hb
    · cases hb
  · rw [isQuote_char] at hq
    cases hq

end Ends

section Ended

variable {t : Token} {s after : List Char}

theorem IsWord.isWordPart_of_mem (h : IsWord s) : ∀ c ∈ s, isWordPart c = true := by
  obtain ⟨hc, hparts⟩ := h
  intro d hd
  rcases List.mem_cons.1 hd with rfl | hd
  · exact isWordPart_of_isWordStart hc
  · exact hparts d hd

theorem IsFraction.isDigit_of_mem (h : IsFraction s) : ∀ c ∈ s, c.isDigit = true ∨ c = '.' := by
  cases h with
  | none => exact nofun
  | digits hdigits =>
    intro c hc
    rcases List.mem_cons.1 hc with rfl | hc
    · exact .inr rfl
    · exact .inl (hdigits c hc)

theorem IsUnsigned.isDigit_of_mem (h : IsUnsigned s) : ∀ c ∈ s, c.isDigit = true ∨ c = '.' := by
  obtain ⟨hdigits, htail⟩ := h
  intro c hc
  rcases List.mem_append.1 hc with hc | hc
  · exact .inl (hdigits c hc)
  · exact htail.isDigit_of_mem c hc

theorem IsNumber.isDigit_of_mem (h : IsNumber s) :
    ∀ c ∈ s, c.isDigit = true ∨ c = '.' ∨ c = '-' := by
  intro c hc
  cases h with
  | positive h =>
    rcases h.isDigit_of_mem c hc with hd | hd
    · exact .inl hd
    · exact .inr (.inl hd)
  | negative h =>
    rcases List.mem_cons.1 hc with rfl | hc
    · exact .inr (.inr rfl)
    rcases h.isDigit_of_mem c hc with hd | hd
    · exact .inl hd
    · exact .inr (.inl hd)

theorem Ends.ne_minus (h : Ends after) : after.head? ≠ some '-' := by
  intro hc
  rcases h '-' hc with hb | ⟨s, hs⟩
  · cases hb
  · cases s <;> cases hs

/-- What begins with a blank or a symbol does not belong to the token before it, unless this is a
number and the symbol a point. -/
theorem Ends.ended (h : Ends after) (hs : Spelling t s)
    (hpoint : ∀ text, t = .number text → after.head? ≠ some '.') : Ended t s after := by
  cases hs with
  | symbol => trivial
  | word =>
    intro more hmore hw
    cases more with
    | nil => rfl
    | cons d more =>
      obtain ⟨left, rfl⟩ := hmore
      have hpart := hw.isWordPart_of_mem d (List.mem_append_right _ List.mem_cons_self)
      cases hpart.symm.trans (h.isWordPart d rfl)
  | number =>
    intro more hmore hn
    cases more with
    | nil => rfl
    | cons d more =>
      obtain ⟨left, rfl⟩ := hmore
      rcases hn.isDigit_of_mem d (List.mem_append_right _ List.mem_cons_self) with hd | rfl | rfl
      · cases hd.symm.trans (h.isDigit d rfl)
      · exact absurd rfl (hpoint _ rfl)
      · exact absurd rfl h.ne_minus
  | quoted hq => exact h.ne_quote hq

end Ended

section Layout

/-- Only the point itself is spelled with a point first. -/
theorem Spelling.eq_dot {t : Token} {s : List Char} (hs : Spelling t s)
    (h : s.head? = some '.') : t = .symbol .dot := by
  cases hs with
  | symbol sym =>
    obtain rfl : sym = .dot := by
      have hsym := ofChar?_eq_some_iff.2 (Option.some.inj h)
      exact (Option.some.inj hsym).symm
    rfl
  | word hs =>
    obtain ⟨hc, -⟩ := hs
    cases h
    exact absurd hc (by decide)
  | number hs =>
    cases hs with
    | positive hs =>
      obtain ⟨hdigits, -⟩ := hs
      cases h
      exact absurd (hdigits '.' List.mem_cons_self) (by decide)
    | negative => cases h
  | quoted hq =>
    cases h
    cases hq

/-- A point right after a number would be taken for the point in it. -/
def NoPoint (t t' : Token) : Prop :=
  ∀ text, t = .number text → t' ≠ .symbol .dot

variable {tokens : List Token} {gap text : List Char}

theorem Layout.ends (h : Layout tokens text) (hgap : ∀ c ∈ gap, isBlank c = true)
    (hsep : gap ≠ [] ∨ ∀ t ∈ tokens.head?, t.isSymbol = true) : Ends (gap ++ text) := by
  cases gap with
  | cons c gap =>
    rintro d ⟨⟩
    exact .inl (hgap c List.mem_cons_self)
  | nil =>
    cases h with
    | nil => exact nofun
    | @cons t _ _ _ _ hs _ _ _ =>
      have ht : t.isSymbol = true := hsep.resolve_left (absurd rfl) t rfl
      cases hs with
      | symbol s =>
        rintro c ⟨⟩
        exact .inr ⟨s, rfl⟩
      | word | number | quoted => cases ht

theorem Layout.head?_ne_point (h : Layout tokens text) (hgap : ∀ c ∈ gap, isBlank c = true)
    (hdot : tokens.head? ≠ some (.symbol .dot)) : (gap ++ text).head? ≠ some '.' := by
  cases gap with
  | cons c gap =>
    rintro ⟨⟩
    cases hgap '.' List.mem_cons_self
  | nil =>
    cases h with
    | nil => exact nofun
    | cons hs =>
      intro hpoint
      obtain ⟨c, s, rfl⟩ := List.exists_cons_of_ne_nil hs.ne_nil
      exact hdot (congrArg some (hs.eq_dot hpoint))

/-- A text that lays out tokens falls into their spellings and the blanks. -/
theorem Layout.partition (h : Layout tokens text) (hpoint : tokens.IsChain NoPoint) :
    Partition tokens text := by
  induction h with
  | nil => exact .nil nofun
  | @cons t rest s gap text hs hgap hsep tail ih =>
    have hnumber : ∀ n, t = .number n → (gap ++ text).head? ≠ some '.' := by
      intro n hn
      apply tail.head?_ne_point hgap
      intro hdot
      obtain ⟨rest', rfl⟩ := List.head?_eq_some_iff.1 hdot
      exact (List.isChain_cons_cons.1 hpoint).1 n hn rfl
    have hended : Ended t s (gap ++ text) := by
      rcases hsep with hsep | hsep | hsep
      · exact (tail.ends hgap (.inl hsep)).ended hs hnumber
      · cases hs with
        | symbol => trivial
        | word | number | quoted => cases hsep
      · exact (tail.ends hgap (.inr hsep)).ended hs hnumber
    exact .spelled hs hended ((ih hpoint.tail).blanks_append hgap)

theorem Writes.scan_eq {text : String} (h : Writes tokens text.toList)
    (hpoint : tokens.IsChain NoPoint) : scan text = .ok tokens := by
  obtain ⟨lead, body, htext, hlead, hbody⟩ := h
  unfold scan
  rw [htext, scanList_blanks hlead, (hbody.partition hpoint).scanList_eq]
  rfl

end Layout

end RelStore.Token
