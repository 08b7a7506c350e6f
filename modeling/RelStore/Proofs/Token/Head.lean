import Mathlib.Data.List.TakeWhile
import RelStore.Token.Spelling

/-!
The token at the head of a text. It has a spelling there that what follows does not go on with: a word
and a number are read as far as they reach, and the closing quote of a quoted text is not followed by
another. Such a spelling is all that decides which token is read; and where none is read, none is
spelled, or a quote is open.
-/

namespace RelStore
set_option autoImplicit false

namespace Text

/-- Whether no range of one table meets a range of the other. -/
def apart (ranges ranges' : List (Nat × Nat)) : Bool :=
  ranges.all fun r => ranges'.all fun r' => decide (r.2 < r'.1) || decide (r'.2 < r.1)

theorem inRanges_of_apart {n : Nat} {ranges ranges' : List (Nat × Nat)}
    (hascending : ascendingFrom 0 ranges = true) (hascending' : ascendingFrom 0 ranges' = true)
    (hapart : apart ranges ranges' = true) (h : inRanges n ranges = true) :
    inRanges n ranges' = false := by
  rw [Bool.eq_false_iff]
  intro h'
  obtain ⟨r, hr, hlo, hhi⟩ := (inRanges_iff hascending).1 h
  obtain ⟨r', hr', hlo', hhi'⟩ := (inRanges_iff hascending').1 h'
  have hmeet := List.all_eq_true.1 (List.all_eq_true.1 hapart r hr) r' hr'
  simp only [Bool.or_eq_true, decide_eq_true_eq] at hmeet
  omega

def digitRanges : List (Nat × Nat) :=
  [(0x30, 0x39)]

theorem ascendingFrom_digitRanges : ascendingFrom 0 digitRanges = true := rfl

theorem inRanges_digitRanges (c : Char) : inRanges c.toNat digitRanges = c.isDigit := by
  rw [Bool.eq_iff_iff, inRanges_iff ascendingFrom_digitRanges]
  simp only [digitRanges, List.mem_singleton, exists_eq_left, Char.isDigit, Bool.and_eq_true,
    decide_eq_true_eq, ge_iff_le, UInt32.le_iff_toNat_le]
  rfl

end Text

namespace Token

open Text

section Characters

variable {c : Char}

theorem isWordPart_of_isDigit (h : c.isDigit = true) : isWordPart c = true := by
  have hmem : (0x30, 0x39) ∈ numericRanges := List.mem_cons_self
  rw [← inRanges_digitRanges, inRanges_iff ascendingFrom_digitRanges] at h
  obtain ⟨r, hr, hlo, hhi⟩ := h
  obtain rfl := List.mem_singleton.1 hr
  have hnumeric : isNumeric c = true :=
    (inRanges_iff ascendingFrom_numericRanges).2 ⟨_, hmem, hlo, hhi⟩
  unfold isWordPart
  rw [hnumeric, Bool.or_true, Bool.true_or]

theorem isWordPart_of_isWordStart (h : isWordStart c = true) : isWordPart c = true := by
  unfold isWordStart at h
  unfold isWordPart
  rcases Bool.or_eq_true_iff.1 h with h | h
  · rw [h, Bool.true_or, Bool.true_or]
  · rw [h, Bool.or_true]

theorem isDigit_of_isWordStart (h : isWordStart c = true) : c.isDigit = false := by
  rcases Bool.or_eq_true_iff.1 h with h | h
  · rw [← inRanges_digitRanges]
    exact inRanges_of_apart ascendingFrom_alphabeticRanges ascendingFrom_digitRanges
      (by decide +kernel) h
  · obtain rfl := beq_iff_eq.1 h
    rfl

theorem isWordPart_of_isBlank (h : isBlank c = true) : isWordPart c = false := by
  have halphabetic : isAlphabetic c = false :=
    inRanges_of_apart ascendingFrom_blankRanges ascendingFrom_alphabeticRanges
      (by decide +kernel) h
  have hnumeric : isNumeric c = false :=
    inRanges_of_apart ascendingFrom_blankRanges ascendingFrom_numericRanges (by decide +kernel) h
  have hunderscore : (c == '_') = false := by
    rw [beq_eq_false_iff_ne]
    rintro rfl
    cases h
  unfold isWordPart
  rw [halphabetic, hnumeric, hunderscore]
  rfl

theorem isWordPart_char (s : Symbol) : isWordPart s.char = false := by
  cases s <;> decide

theorem isBlank_char (s : Symbol) : isBlank s.char = false := by
  cases s <;> rfl

theorem isQuote_char (s : Symbol) : isQuote s.char = false := by
  cases s <;> rfl

theorem ofChar?_eq_some_iff {s : Symbol} : Symbol.ofChar? c = some s ↔ s.char = c := by
  constructor
  · intro h
    unfold Symbol.ofChar? at h
    split at h <;> cases h <;> rfl
  · rintro rfl
    exact Symbol.ofChar?_char s

theorem ofChar?_of_isWordPart (h : isWordPart c = true) : Symbol.ofChar? c = none := by
  rw [Option.eq_none_iff_forall_ne_some]
  intro s hs
  rw [← ofChar?_eq_some_iff.1 hs, isWordPart_char] at h
  cases h

theorem isBlank_of_isWordPart (h : isWordPart c = true) : isBlank c = false := by
  rw [Bool.eq_false_iff]
  intro hb
  rw [isWordPart_of_isBlank hb] at h
  cases h

theorem isQuote_iff : isQuote c = true ↔ c = '\'' ∨ c = '"' := by
  unfold isQuote
  rw [Bool.or_eq_true, beq_iff_eq, beq_iff_eq]

theorem isQuote_of_isWordPart (h : isWordPart c = true) : isQuote c = false := by
  rw [Bool.eq_false_iff, ne_eq, isQuote_iff]
  rintro (rfl | rfl)
  · exact absurd h (by decide)
  · exact absurd h (by decide)

end Characters

/-- What follows a spelled token does not belong to it. No character of it reads on a word or a number,
and none doubles the closing quote of a quoted text. -/
def Ended : Token → List Char → List Char → Prop
  | .symbol _, _, _ => True
  | .word _, s, after => ∀ more, more <+: after → IsWord (s ++ more) → more = []
  | .number _, s, after => ∀ more, more <+: after → IsNumber (s ++ more) → more = []
  | .quoted _, s, after => after.head? ≠ s.head?

variable {t : Token} {s after rest : List Char} {c : Char}

/-- Less of what follows does not go on with the token either. -/
theorem Ended.of_append (hs : Spelling t s) (h : Ended t s (after ++ rest)) : Ended t s after := by
  cases hs with
  | symbol => trivial
  | word =>
    intro more hm
    exact h more (hm.trans (List.prefix_append after rest))
  | number =>
    intro more hm
    exact h more (hm.trans (List.prefix_append after rest))
  | quoted =>
    intro he
    cases after with
    | nil => cases he
    | cons => exact h he

/-- A text splits into a part that has a property and what follows it, and every part with the property
that the text begins with is part of this one. -/
structure Longest (P : List Char → Prop) (text taken left : List Char) : Prop where
  split : taken ++ left = text
  holds : P taken
  covers : ∀ s after, P s → s ++ after = text → s <+: taken

section Longest

variable {P : List Char → Prop} {text taken left : List Char}

theorem Longest.ended (h : Longest P text taken left) :
    ∀ more, more <+: left → P (taken ++ more) → more = [] := by
  intro more hmore hP
  obtain ⟨after, rfl⟩ := hmore
  have hcovers := h.covers (taken ++ more) after hP ((List.append_assoc _ _ _).trans h.split)
  have hlength := hcovers.length_le
  rw [List.length_append] at hlength
  apply List.eq_nil_of_length_eq_zero
  omega

/-- Any part that has the property and cannot be read on is the longest one. -/
theorem Longest.unique (h : Longest P text taken left) (hs : P s) (hsplit : s ++ after = text)
    (hended : ∀ more, more <+: after → P (s ++ more) → more = []) : s = taken ∧ after = left := by
  obtain ⟨more, rfl⟩ := h.covers s after hs hsplit
  have hafter : after = more ++ left := by
    apply List.append_cancel_left
    rw [hsplit, ← h.split, List.append_assoc]
  obtain rfl := hended more ⟨left, hafter.symm⟩ h.holds
  exact ⟨(List.append_nil s).symm, hafter⟩

end Longest

section Words

theorem longest_word (hc : isWordStart c = true) (rest : List Char) :
    Longest IsWord (c :: rest) (c :: rest.takeWhile isWordPart) (rest.dropWhile isWordPart) where
  split := congrArg (c :: ·) List.takeWhile_append_dropWhile
  holds := .intro hc fun _ hd => List.mem_takeWhile_imp hd
  covers := by
    intro s after hs h
    obtain ⟨-, hparts⟩ := hs
    rw [List.cons_append] at h
    obtain ⟨rfl, rfl⟩ := List.cons.inj h
    rw [List.takeWhile_append_of_pos hparts]
    exact List.prefix_append (_ :: _) _

theorem head_of_isWordStart (hc : isWordStart c = true) (rest : List Char) :
    head c rest =
      .ok (.word (String.ofList (c :: rest.takeWhile isWordPart)), rest.dropWhile isWordPart) := by
  have hpart := isWordPart_of_isWordStart hc
  have hminus : (c == '-') = false := by
    rw [beq_eq_false_iff_ne]
    rintro rfl
    exact absurd hc (by decide)
  have hnumber : startsNumber c rest = false := by
    unfold startsNumber
    rw [isDigit_of_isWordStart hc, hminus]
    rfl
  unfold head
  rw [ofChar?_of_isWordPart hpart]
  simp only [isQuote_of_isWordPart hpart, hnumber, hc, if_true, Bool.false_eq_true, if_false]

end Words

section Numbers

theorem isFraction_fraction (s : List Char) : IsFraction (fraction s).1 := by
  unfold fraction
  split
  · split
    · rename_i d rest hd
      apply IsFraction.digits
      intro c hc
      rcases List.mem_cons.1 hc with rfl | hc
      · exact hd
      · exact List.mem_takeWhile_imp hc
    · exact .none
  · exact .none

theorem fraction_append_rest (s : List Char) : (fraction s).1 ++ (fraction s).2 = s := by
  unfold fraction
  split
  · split
    · simp
    · rfl
  · rfl

theorem fst_numberRest (s : List Char) :
    (numberRest s).1 = s.takeWhile Char.isDigit ++ (fraction (s.dropWhile Char.isDigit)).1 :=
  rfl

theorem numberRest_append_rest (s : List Char) : (numberRest s).1 ++ (numberRest s).2 = s := by
  unfold numberRest
  rw [List.append_assoc, fraction_append_rest, List.takeWhile_append_dropWhile]

theorem numberRest_cons (hc : c.isDigit = true) (rest : List Char) :
    numberRest (c :: rest) = (c :: (numberRest rest).1, (numberRest rest).2) := by
  unfold numberRest
  rw [List.takeWhile_cons_of_pos hc, List.dropWhile_cons_of_pos hc]
  rfl

theorem isUnsigned_numberRest (hc : c.isDigit = true) (rest : List Char) :
    IsUnsigned (c :: (numberRest rest).1) := by
  have hdigits : ∀ d ∈ c :: rest.takeWhile Char.isDigit, d.isDigit = true := by
    intro d hd
    rcases List.mem_cons.1 hd with rfl | hd
    · exact hc
    · exact List.mem_takeWhile_imp hd
  exact .intro hdigits (isFraction_fraction _)

/-- A number without a sign is part of what is read of a text that begins with it. -/
theorem IsUnsigned.isPrefix_numberRest (hs : IsUnsigned s) (after : List Char) :
    s <+: (numberRest (s ++ after)).1 := by
  obtain ⟨hdigits, htail⟩ := hs
  rename_i d digits tail
  rw [fst_numberRest, List.append_assoc, List.takeWhile_append_of_pos hdigits,
    List.dropWhile_append_of_pos hdigits, List.append_assoc]
  cases htail with
  | none =>
    rw [List.append_nil]
    exact List.prefix_append _ _
  | @digits e tail he =>
    have htail : ∀ c ∈ tail, c.isDigit = true := fun c hc => he c (List.mem_cons_of_mem e hc)
    have hfraction : (fraction ('.' :: e :: tail ++ after)).1 =
        '.' :: e :: tail ++ after.takeWhile Char.isDigit := by
      rw [List.cons_append, List.cons_append]
      change (if e.isDigit = true then _ else _ : List Char × List Char).1 = _
      rw [if_pos (he e List.mem_cons_self), List.takeWhile_append_of_pos htail]
      rfl
    -- the point is no digit, so the digits before it end there
    have htake : ('.' :: e :: tail ++ after).takeWhile Char.isDigit = [] := rfl
    have hdrop : ('.' :: e :: tail ++ after).dropWhile Char.isDigit = '.' :: e :: tail ++ after := rfl
    rw [htake, hdrop, hfraction, List.nil_append, ← List.append_assoc]
    exact List.prefix_append _ _

theorem isNumber_of_startsNumber (h : startsNumber c rest = true) :
    IsNumber (c :: (numberRest rest).1) := by
  unfold startsNumber at h
  rcases Bool.or_eq_true_iff.1 h with hc | h
  · exact .positive (isUnsigned_numberRest hc rest)
  · obtain ⟨hc, hd⟩ := Bool.and_eq_true_iff.1 h
    obtain rfl := beq_iff_eq.1 hc
    cases rest with
    | nil => cases hd
    | cons d rest =>
      have hdigit : d.isDigit = true := hd
      rw [numberRest_cons hdigit]
      exact .negative (isUnsigned_numberRest hdigit rest)

theorem longest_number (h : startsNumber c rest = true) :
    Longest IsNumber (c :: rest) (c :: (numberRest rest).1) (numberRest rest).2 where
  split := congrArg (c :: ·) (numberRest_append_rest rest)
  holds := isNumber_of_startsNumber h
  covers := by
    intro s after hs h
    cases hs with
    | positive hs =>
      have hread := hs.isPrefix_numberRest after
      obtain ⟨hdigits, -⟩ := hs
      rw [h] at hread
      obtain ⟨rfl, -⟩ := List.cons.inj h
      rw [numberRest_cons (hdigits _ List.mem_cons_self)] at hread
      exact hread
    | negative hs =>
      have hread := hs.isPrefix_numberRest after
      rw [List.cons_append] at h
      obtain ⟨rfl, rfl⟩ := List.cons.inj h
      exact List.cons_prefix_cons.2 ⟨rfl, hread⟩

/-- What a text begins with that begins with a number. -/
theorem IsNumber.starts (hs : IsNumber s) (h : s ++ after = c :: rest) :
    startsNumber c rest = true ∧ Symbol.ofChar? c = none ∧ isQuote c = false ∧
      isBlank c = false := by
  cases hs with
  | positive hs =>
    obtain ⟨hdigits, -⟩ := hs
    obtain ⟨rfl, -⟩ := List.cons.inj h
    have hc := hdigits _ List.mem_cons_self
    have hpart := isWordPart_of_isDigit hc
    refine ⟨?_, ofChar?_of_isWordPart hpart, isQuote_of_isWordPart hpart,
      isBlank_of_isWordPart hpart⟩
    unfold startsNumber
    rw [hc, Bool.true_or]
  | negative hs =>
    obtain ⟨hdigits, -⟩ := hs
    rw [List.cons_append] at h
    obtain ⟨rfl, rfl⟩ := List.cons.inj h
    refine ⟨?_, rfl, rfl, rfl⟩
    unfold startsNumber
    rw [List.cons_append, List.cons_append, List.head?_cons, Option.any_some,
      hdigits _ List.mem_cons_self]
    rfl

theorem head_of_startsNumber (hsymbol : Symbol.ofChar? c = none) (hquote : isQuote c = false)
    (hnumber : startsNumber c rest = true) :
    head c rest = .ok (.number (String.ofList (c :: (numberRest rest).1)), (numberRest rest).2) := by
  unfold head
  rw [hsymbol]
  simp only [hquote, hnumber, if_true, Bool.false_eq_true, if_false]

end Numbers

section Quotes

variable {quote : Char} {content : List Char}

theorem doubled_cons_self (quote : Char) (content : List Char) :
    doubled quote (quote :: content) = quote :: quote :: doubled quote content := by
  simp [doubled]

theorem doubled_cons_of_ne (hc : c ≠ quote) (content : List Char) :
    doubled quote (c :: content) = c :: doubled quote content := by
  simp [doubled, hc]

theorem of_quotedRest_eq_some (h : quotedRest quote rest = some (content, after)) :
    rest = doubled quote content ++ quote :: after ∧ after.head? ≠ some quote := by
  fun_induction quotedRest quote rest generalizing content after with
  | case1 => cases h
  | case2 =>
    cases h
    refine ⟨rfl, ?_⟩
    intro he
    cases he
  | case3 rest ih =>
    obtain ⟨⟨content, after⟩, hrest, he⟩ := Option.map_eq_some_iff.1 h
    cases he
    obtain ⟨rfl, hafter⟩ := ih hrest
    rw [doubled_cons_self]
    exact ⟨rfl, hafter⟩
  | case4 d rest hd =>
    cases h
    exact ⟨rfl, fun he => hd (Option.some.inj he)⟩
  | case5 c rest hc ih =>
    obtain ⟨⟨content, after⟩, hrest, he⟩ := Option.map_eq_some_iff.1 h
    cases he
    obtain ⟨rfl, hafter⟩ := ih hrest
    rw [doubled_cons_of_ne hc]
    exact ⟨rfl, hafter⟩

/-- A quote is never closed only if it occurs in the rest in doubled pairs alone. -/
theorem exists_doubled_of_quotedRest (h : quotedRest quote rest = none) :
    ∃ content, rest = doubled quote content := by
  fun_induction quotedRest quote rest with
  | case1 => exact ⟨[], rfl⟩
  | case2 => cases h
  | case3 rest ih =>
    obtain ⟨content, rfl⟩ := ih (Option.map_eq_none_iff.1 h)
    exact ⟨quote :: content, (doubled_cons_self quote content).symm⟩
  | case4 => cases h
  | case5 c rest hc ih =>
    obtain ⟨content, rfl⟩ := ih (Option.map_eq_none_iff.1 h)
    exact ⟨c :: content, (doubled_cons_of_ne hc content).symm⟩

theorem ofChar?_of_isQuote (hq : isQuote c = true) : Symbol.ofChar? c = none := by
  rcases isQuote_iff.1 hq with rfl | rfl
  · rfl
  · rfl

theorem isBlank_of_isQuote (hq : isQuote c = true) : isBlank c = false := by
  rcases isQuote_iff.1 hq with rfl | rfl
  · rfl
  · rfl

end Quotes

section Head

theorem head_symbol (s : Symbol) (after : List Char) :
    head s.char after = .ok (.symbol s, after) := by
  unfold head
  rw [Symbol.ofChar?_char]

/-- A token that is read is spelled, and what follows does not belong to it. -/
theorem exists_spelling_of_head (h : head c rest = .ok (t, after)) :
    ∃ s, c :: rest = s ++ after ∧ Spelling t s ∧ Ended t s after := by
  unfold head at h
  split at h
  · rename_i sym hsym
    cases h
    rw [← ofChar?_eq_some_iff.1 hsym]
    exact ⟨_, rfl, .symbol sym, trivial⟩
  split at h
  · rename_i hq
    split at h
    · rename_i content after' hrest
      cases h
      obtain ⟨rfl, hafter⟩ := of_quotedRest_eq_some hrest
      exact ⟨c :: doubled c content ++ [c], by simp, .quoted hq content, hafter⟩
    · cases h
  split at h
  · rename_i hnumber
    cases h
    have hlongest := longest_number hnumber
    exact ⟨_, hlongest.split.symm, .number hlongest.holds, hlongest.ended⟩
  split at h
  · rename_i hc
    cases h
    have hlongest := longest_word hc rest
    exact ⟨_, hlongest.split.symm, .word hlongest.holds, hlongest.ended⟩
  · cases h

/-- A token that is spelled is read, if what follows does not belong to it. -/
theorem Spelling.head_eq (hs : Spelling t s) (he : Ended t s after) (h : s ++ after = c :: rest) :
    isBlank c = false ∧ head c rest = .ok (t, after) := by
  cases hs with
  | symbol sym =>
    cases h
    exact ⟨isBlank_char sym, head_symbol sym after⟩
  | word hs =>
    obtain ⟨hc⟩ := id hs
    obtain ⟨rfl, -⟩ := List.cons.inj h
    obtain ⟨htaken, rfl⟩ := (longest_word hc rest).unique hs h he
    rw [head_of_isWordStart hc, htaken]
    exact ⟨isBlank_of_isWordPart (isWordPart_of_isWordStart hc), rfl⟩
  | number hs =>
    obtain ⟨hnumber, hsymbol, hquote, hblank⟩ := hs.starts h
    obtain ⟨htaken, rfl⟩ := (longest_number hnumber).unique hs h he
    rw [head_of_startsNumber hsymbol hquote hnumber, htaken]
    exact ⟨hblank, rfl⟩
  | @quoted quote hq content =>
    rw [List.cons_append, List.cons_append, List.append_assoc] at h
    obtain ⟨rfl, rfl⟩ := List.cons.inj h
    refine ⟨isBlank_of_isQuote hq, ?_⟩
    unfold head
    rw [ofChar?_of_isQuote hq, if_pos hq]
    have hclosed := quotedRest_doubled quote content after he
    simp only [List.singleton_append, hclosed]

theorem Spelling.not_isPrefix_of_strayCharacter (hs : Spelling t s)
    (h : head c rest = .error .strayCharacter) : ¬ s <+: c :: rest := by
  rintro ⟨after, hsplit⟩
  cases hs with
  | symbol sym =>
    cases hsplit
    rw [head_symbol] at h
    cases h
  | word hs =>
    obtain ⟨hc⟩ := hs
    obtain ⟨rfl, -⟩ := List.cons.inj hsplit
    rw [head_of_isWordStart hc] at h
    cases h
  | number hs =>
    obtain ⟨hnumber, hsymbol, hquote, -⟩ := hs.starts hsplit
    rw [head_of_startsNumber hsymbol hquote hnumber] at h
    cases h
  | quoted hq =>
    obtain ⟨rfl, -⟩ := List.cons.inj hsplit
    unfold head at h
    simp only [ofChar?_of_isQuote hq, hq, if_true] at h
    split at h
    · cases h
    · cases h

theorem exists_doubled_of_openQuote (h : head c rest = .error .openQuote) :
    isQuote c = true ∧ ∃ content, rest = doubled c content := by
  unfold head at h
  split at h
  · cases h
  split at h
  · rename_i hq
    split at h
    · cases h
    · rename_i hrest
      exact ⟨hq, exists_doubled_of_quotedRest hrest⟩
  split at h
  · cases h
  split at h
  · cases h
  · cases h

end Head

end Token
end RelStore
