import RelStore.Json.Quoted

/-!
Strings read back as they were written. An escape is read as the character that it was made for;
no character is a surrogate, so the code points that are read make up the text again. The
surrogate that stands for a string without a text is read as one.
-/

namespace RelStore.Json
set_option autoImplicit false

theorem hexValue?_hexDigit : ∀ n < 16, hexValue? (hexDigit n) = some n := by
  decide

theorem hexUnit?_hexDigit {n : Nat} (h : n < 0x20) :
    hexUnit? '0' '0' (hexDigit (n / 16)) (hexDigit (n % 16)) = some n := by
  have hzero : hexValue? '0' = some 0 := by decide
  unfold hexUnit?
  rw [hzero, hexValue?_hexDigit (n / 16) (by omega), hexValue?_hexDigit (n % 16) (by omega)]
  change some (((0 * 16 + 0) * 16 + n / 16) * 16 + n % 16) = some n
  exact congrArg some (by omega)

theorem bind_unquote (n : Nat) (s : List Char) :
    (do
      let (units, after) ← unquote s
      return (n :: units, after) : Option (List Nat × List Char)) =
        (unquote s).map fun r => (n :: r.1, r.2) := by
  cases unquote s <;> rfl

theorem unquote_hexUnit {a b c d : Char} {n : Nat} (h : hexUnit? a b c d = some n)
    (s : List Char) :
    unquote ('\\' :: 'u' :: a :: b :: c :: d :: s) =
      (unquote s).map fun r => (n :: r.1, r.2) := by
  rw [unquote.eq_def]
  change (hexUnit? a b c d >>= _) = _
  rw [h]
  exact bind_unquote n s

theorem unquote_escape (c : Char) (s : List Char) :
    unquote (escape c ++ s) = (unquote s).map fun r => (c.toNat :: r.1, r.2) := by
  unfold escape
  split
  iterate 7
    · exact bind_unquote _ s
  · split
    · rename_i hlt
      exact unquote_hexUnit (hexUnit?_hexDigit hlt) s
    · rename_i hq hb _ _ _ _ _ hge
      rw [List.singleton_append, unquote.eq_def]
      dsimp only
      rw [if_neg hq, if_neg hb, if_neg hge]
      exact bind_unquote c.toNat s

theorem unquote_end (rest : List Char) : unquote ('"' :: rest) = some ([], rest) := by
  unfold unquote
  rfl

/-- A text is read back, as code points, up to its closing quote. -/
theorem unquote_flatMap_escape (s rest : List Char) :
    unquote (s.flatMap escape ++ '"' :: rest) = some (s.map Char.toNat, rest) := by
  induction s with
  | nil => exact unquote_end rest
  | cons c s ih =>
    rw [List.flatMap_cons, List.append_assoc, unquote_escape, ih]
    rfl

theorem not_surrogate (c : Char) : isHigh c.toNat = false ∧ isLow c.toNat = false := by
  have hvalid := c.valid
  have hcases : c.toNat < 0xD800 ∨ 0xDFFF < c.toNat ∧ c.toNat < 0x110000 := hvalid
  unfold isHigh isLow
  simp only [Bool.and_eq_false_iff, decide_eq_false_iff_not]
  omega

theorem characters?_map_toNat (s : List Char) : characters? (s.map Char.toNat) = some s := by
  induction s with
  | nil => rfl
  | cons c s ih =>
    obtain ⟨hhigh, hlow⟩ := not_surrogate c
    rw [List.map_cons, characters?.eq_def]
    dsimp only
    rw [hhigh, hlow, ih]
    exact congrArg (fun d => some (d :: s)) (Char.ofNat_toNat c)

/-- What follows the opening quote of a string is read as its content. -/
theorem unquote_tail_quote (content : Option String) (rest : List Char) :
    ∃ units, unquote ((quote content).tail ++ rest) = some (units, rest) ∧
      (characters? units).map String.ofList = content := by
  cases content with
  | none =>
    refine ⟨[0xD800], ?_, rfl⟩
    have hunit : hexUnit? 'd' '8' '0' '0' = some 0xD800 := by decide
    refine (unquote_hexUnit hunit ('"' :: rest)).trans ?_
    rw [unquote_end]
    rfl
  | some s =>
    refine ⟨s.toList.map Char.toNat, ?_, ?_⟩
    · change unquote ((s.toList.flatMap escape ++ ['"']) ++ rest) = _
      rw [List.append_assoc]
      exact unquote_flatMap_escape s.toList rest
    · rw [characters?_map_toNat, Option.map_some, String.ofList_toList]

end RelStore.Json
