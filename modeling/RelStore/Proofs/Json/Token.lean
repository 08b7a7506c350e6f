import RelStore.Json.Token
import RelStore.Proofs.Json.Quoted
import RelStore.Proofs.Value

/-!
Tokens read back as they were written. A number is read as far as its digits go, so what follows
it must not go on with a digit, a point or an exponent; any other token is read whatever follows.
-/

namespace RelStore.Json
set_option autoImplicit false

open Text

/-- Nothing at the head of a text carries on a number before it. -/
def EndsNumber (s : List Char) : Prop :=
  ∀ c ∈ s.head?, c.isDigit = false ∧ c ≠ '.' ∧ c ≠ 'e' ∧ c ≠ 'E'

theorem endsNumber_nil : EndsNumber [] :=
  nofun

theorem endsNumber_cons {c : Char} (h : c.isDigit = false ∧ c ≠ '.' ∧ c ≠ 'e' ∧ c ≠ 'E')
    (s : List Char) : EndsNumber (c :: s) := by
  intro d hd
  cases hd
  exact h

section Number

variable {s : List Char}

theorem EndsNumber.takeWhile_eq (h : EndsNumber s) : s.takeWhile Char.isDigit = [] := by
  cases s with
  | nil => rfl
  | cons c s => rw [List.takeWhile_cons, (h c rfl).1]; rfl

theorem EndsNumber.dropWhile_eq (h : EndsNumber s) : s.dropWhile Char.isDigit = s := by
  cases s with
  | nil => rfl
  | cons c s => rw [List.dropWhile_cons, (h c rfl).1]; rfl

theorem EndsNumber.pointRest_eq (h : EndsNumber s) : pointRest s = some (false, s) := by
  unfold pointRest
  split
  · exact absurd rfl (h '.' rfl).2.1
  · rfl

theorem EndsNumber.powerRest_eq (h : EndsNumber s) : powerRest s = some (false, s) := by
  unfold powerRest
  split
  · rfl
  · rename_i c s
    obtain ⟨-, -, he, hE⟩ := h c rfl
    exact if_neg (not_or.2 ⟨he, hE⟩)

/-- Written digits are not empty and do not begin with a zero that others follow. -/
theorem canonical_toDigits (n : Nat) : (!(Nat.toDigits 10 n).isEmpty &&
    ((Nat.toDigits 10 n).head? != some '0' || (Nat.toDigits 10 n).length == 1)) = true := by
  by_cases hn : n = 0
  · subst hn
    rfl
  · have hempty : (Nat.toDigits 10 n).isEmpty = false :=
      List.isEmpty_eq_false_iff.2 (Decimal.toDigits_ne_nil n)
    have hhead : ((Nat.toDigits 10 n).head? != some '0') = true :=
      bne_iff_ne.2 (Decimal.head?_toDigits hn)
    rw [hempty, hhead]
    rfl

/-- The digits of a number are read as that number, and only those digits. A zero with a minus
sign is no integer. -/
theorem number?_toDigits (negative : Bool) (n : Nat) (h : EndsNumber s) :
    number? negative (Nat.toDigits 10 n ++ s) =
      some (if negative && n == 0 then .fraction else .integer (if negative then -n else n), s) := by
  have hdigits : ∀ c ∈ Nat.toDigits 10 n, c.isDigit = true := fun c hc => Decimal.isDigit_of_mem hc
  have htake : (Nat.toDigits 10 n ++ s).takeWhile Char.isDigit = Nat.toDigits 10 n := by
    rw [List.takeWhile_append_of_pos hdigits, h.takeWhile_eq, List.append_nil]
  have hdrop : (Nat.toDigits 10 n ++ s).dropWhile Char.isDigit = s := by
    rw [List.dropWhile_append_of_pos hdigits, h.dropWhile_eq]
  unfold number?
  rw [htake, hdrop]
  dsimp only
  rw [canonical_toDigits]
  change (pointRest s >>= _) = _
  rw [h.pointRest_eq]
  change (powerRest s >>= _) = _
  rw [h.powerRest_eq]
  change (if (negative && Decimal.toNat (Nat.toDigits 10 n) == 0) = true then some (Json.fraction, s)
    else some (.integer (if negative then -(Decimal.toNat (Nat.toDigits 10 n) : Int)
      else Decimal.toNat (Nat.toDigits 10 n)), s)) = _
  rw [Decimal.toNat_toDigits]
  split <;> rfl

end Number

theorem head?_of_isDigit {c : Char} (h : c.isDigit = true) (rest : List Char) :
    head? c rest = (number? false (c :: rest)).map fun r => (.scalar r.1, r.2) := by
  unfold head?
  split
  iterate 11
    · exact absurd h (by decide)
  · exact if_pos h

theorem not_isBlank_of_isDigit {c : Char} (h : c.isDigit = true) : isBlank c = false := by
  unfold isBlank
  simp only [Bool.or_eq_false_iff, beq_eq_false_iff_ne, ne_eq]
  refine ⟨⟨⟨?_, ?_⟩, ?_⟩, ?_⟩ <;>
  · rintro rfl
    exact absurd h (by decide)

theorem head?_ofInt (n : Int) {rest : List Char} (h : EndsNumber rest) :
    ∃ c s, Decimal.ofInt n ++ rest = c :: s ∧ isBlank c = false ∧
      head? c s = some (.scalar (.integer n), rest) := by
  cases n with
  | ofNat n =>
    obtain ⟨c, s, hcs⟩ := List.exists_cons_of_ne_nil (Decimal.toDigits_ne_nil n)
    have hc : c.isDigit = true := Decimal.isDigit_of_mem (n := n) (hcs ▸ List.mem_cons_self)
    have hread := number?_toDigits false n h
    refine ⟨c, s ++ rest, congrArg (· ++ rest) hcs, not_isBlank_of_isDigit hc, ?_⟩
    rw [hcs, List.cons_append] at hread
    rw [head?_of_isDigit hc, hread]
    rfl
  | negSucc n =>
    have hread := number?_toDigits true (n + 1) h
    refine ⟨'-', Nat.toDigits 10 (n + 1) ++ rest, rfl, rfl, ?_⟩
    change (number? true _).map _ = _
    rw [hread]
    rfl

theorem head?_fraction {rest : List Char} (h : EndsNumber rest) :
    head? '-' ('0' :: rest) = some (.scalar .fraction, rest) := by
  have hread := number?_toDigits true 0 h
  change (number? true _).map _ = _
  rw [show '0' :: rest = Nat.toDigits 10 0 ++ rest from rfl, hread]
  rfl

theorem head?_quote (content : Option String) (rest : List Char) :
    ∃ s, quote content ++ rest = '"' :: s ∧
      head? '"' s = some (.scalar (.string content), rest) := by
  obtain ⟨units, hunits, hcontent⟩ := unquote_tail_quote content rest
  have hquote : quote content ++ rest = '"' :: ((quote content).tail ++ rest) := by
    cases content <;> rfl
  refine ⟨_, hquote, ?_⟩
  change (unquote _ >>= _) = _
  rw [hunits]
  change some (Token.scalar (.string ((characters? units).map String.ofList)), rest) = _
  rw [hcontent]

end RelStore.Json
