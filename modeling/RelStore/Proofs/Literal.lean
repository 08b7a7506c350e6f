import RelStore.Proofs.Value

/-!
Literals and what they are stored as. A numeral is stored as its number, and the number is displayed
without zeros in front; any other literal is stored and displayed as it is written. So a literal is
displayed as it is written unless it is a numeral padded with zeros; and what is displayed, taken as a
literal again, is stored as the same value.
-/

namespace RelStore
set_option autoImplicit false

namespace Text.Decimal

theorem exists_digitChar {c : Char} (h : c.isDigit = true) : ∃ d < 10, Nat.digitChar d = c := by
  have hbounds : 48 ≤ c.toNat ∧ c.toNat ≤ 57 := by
    simp only [Char.isDigit, Bool.and_eq_true, decide_eq_true_eq, ge_iff_le,
      UInt32.le_iff_toNat_le] at h
    exact h
  refine ⟨c.toNat - 48, by omega, Char.toNat_inj.1 ?_⟩
  rw [Nat.toNat_digitChar_of_lt_ten (by omega)]
  omega

/-- Digits after the text of a number are read on from that number. -/
theorem toDigits_append_digits {n : Nat} (hn : 0 < n) {digits : List Char}
    (h : ∀ c ∈ digits, c.isDigit = true) :
    Nat.toDigits 10 n ++ digits = Nat.toDigits 10 (Nat.ofDigitChars 10 digits n) := by
  induction digits generalizing n with
  | nil => rw [List.append_nil, Nat.ofDigitChars_nil]
  | cons c rest ih =>
    obtain ⟨d, hd, rfl⟩ := exists_digitChar (h c List.mem_cons_self)
    have hrest : ∀ c ∈ rest, c.isDigit = true := fun c hc => h c (List.mem_cons_of_mem _ hc)
    calc Nat.toDigits 10 n ++ Nat.digitChar d :: rest
        = (Nat.toDigits 10 n ++ Nat.toDigits 10 d) ++ rest := by
          rw [Nat.toDigits_of_lt_base hd, List.append_assoc, List.singleton_append]
      _ = Nat.toDigits 10 (10 * n + d) ++ rest := by
          rw [Nat.toDigits_append_toDigits (by decide) hn hd]
      _ = Nat.toDigits 10 (Nat.ofDigitChars 10 (Nat.digitChar d :: rest) n) := by
          rw [Nat.ofDigitChars_cons_digitChar_of_lt_ten hd]
          exact ih (by omega) hrest

/-- A row of digits is the text of its number unless it begins with a zero that is not all of it. -/
theorem toDigits_toNat_eq_iff {digits : List Char} (hne : digits ≠ [])
    (h : ∀ c ∈ digits, c.isDigit = true) :
    Nat.toDigits 10 (toNat digits) = digits ↔ ¬ ∃ rest, rest ≠ [] ∧ digits = '0' :: rest := by
  constructor
  · rintro he ⟨rest, hrest, rfl⟩
    by_cases hzero : toNat ('0' :: rest) = 0
    · rw [hzero, Nat.toDigits_zero, List.cons.injEq] at he
      exact hrest he.2.symm
    · have hhead := head?_toDigits hzero
      rw [he] at hhead
      exact hhead rfl
  · intro hzero
    obtain ⟨c, rest, rfl⟩ := List.exists_cons_of_ne_nil hne
    obtain ⟨d, hd, rfl⟩ := exists_digitChar (h c List.mem_cons_self)
    have hread : toNat (Nat.digitChar d :: rest) = Nat.ofDigitChars 10 rest d := by
      unfold toNat
      rw [Nat.ofDigitChars_cons_digitChar_of_lt_ten hd, Nat.mul_zero, Nat.zero_add]
    rw [hread]
    by_cases hpos : 0 < d
    · rw [← toDigits_append_digits hpos fun c hc => h c (List.mem_cons_of_mem _ hc),
        Nat.toDigits_of_lt_base hd, List.singleton_append]
    · -- the one digit is the zero, and nothing comes after it
      obtain rfl : d = 0 := by omega
      cases rest with
      | nil => rfl
      | cons c rest => exact absurd ⟨c :: rest, List.cons_ne_nil c rest, rfl⟩ hzero

end Text.Decimal

namespace Value

open Text

/-- The text is a row of digits whose number 64 bits with a sign can hold. -/
def IsNumeral (text : String) : Prop :=
  text.toList ≠ [] ∧ (∀ c ∈ text.toList, c.isDigit = true) ∧
    Decimal.toNat text.toList ≤ Int64.maxValue.toNatClampNeg

/-- A numeral of two or more digits of which the first is a zero. -/
def IsPadded (text : String) : Prop :=
  IsNumeral text ∧ ∃ rest, rest ≠ [] ∧ text.toList = '0' :: rest

theorem ofLiteral_of_isNumeral {text : String} (h : IsNumeral text) :
    ofLiteral text = .integer (Int64.ofNat (Decimal.toNat text.toList)) := by
  refine if_pos ?_
  simp only [Bool.and_eq_true, Bool.not_eq_true', List.isEmpty_eq_false_iff, List.all_eq_true,
    decide_eq_true_eq]
  exact and_assoc.2 h

theorem ofLiteral_of_not_isNumeral {text : String} (h : ¬ IsNumeral text) :
    ofLiteral text = .text text := by
  refine if_neg fun hc => h ?_
  simp only [Bool.and_eq_true, Bool.not_eq_true', List.isEmpty_eq_false_iff, List.all_eq_true,
    decide_eq_true_eq] at hc
  exact and_assoc.1 hc

theorem display_ofLiteral_of_isNumeral {text : String} (h : IsNumeral text) :
    (ofLiteral text).display = String.ofList (Nat.toDigits 10 (Decimal.toNat text.toList)) := by
  have hmax : Int64.maxValue.toNatClampNeg = 2 ^ 63 - 1 := by decide
  have hlt : Decimal.toNat text.toList < 2 ^ 63 := by
    have hle := h.2.2
    omega
  rw [ofLiteral_of_isNumeral h, display, Int64.toInt_ofNat_of_lt hlt]
  rfl

/-- The digits of a number are a numeral if 64 bits with a sign can hold the number. -/
theorem isNumeral_toDigits {n : Nat} (h : n ≤ Int64.maxValue.toNatClampNeg) :
    IsNumeral (String.ofList (Nat.toDigits 10 n)) := by
  rw [IsNumeral, String.toList_ofList, Decimal.toNat_toDigits]
  refine ⟨Decimal.toDigits_ne_nil n, ?_, h⟩
  intro c hc
  exact Decimal.isDigit_of_mem hc

/-- The displayed text of the value of a literal is a literal for the same value. -/
theorem ofLiteral_display_ofLiteral (text : String) :
    ofLiteral (ofLiteral text).display = ofLiteral text := by
  by_cases h : IsNumeral text
  · rw [display_ofLiteral_of_isNumeral h, ofLiteral_of_isNumeral (isNumeral_toDigits h.2.2),
      ofLiteral_of_isNumeral h, String.toList_ofList, Decimal.toNat_toDigits]
  · have htext : (ofLiteral text).display = text := by
      rw [ofLiteral_of_not_isNumeral h]
      rfl
    rw [htext]

theorem display_ofLiteral_eq_iff (text : String) :
    (ofLiteral text).display = text ↔ ¬ IsPadded text := by
  by_cases h : IsNumeral text
  · rw [display_ofLiteral_of_isNumeral h, ← String.toList_inj, String.toList_ofList,
      Decimal.toDigits_toNat_eq_iff h.1 h.2.1, IsPadded, and_iff_right h]
  · rw [ofLiteral_of_not_isNumeral h]
    exact iff_of_true rfl fun hp => h hp.1

end Value
end RelStore
