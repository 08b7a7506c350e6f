import RelStore.Value

/-!
Decimal texts and the comparison of values. A number has one decimal text, which begins with a
zero for zero alone, so two values go together in a condition just if they are displayed alike.
-/

namespace RelStore
set_option autoImplicit false

namespace Text.Decimal

theorem isDigit_of_mem {n : Nat} {c : Char} (h : c ∈ Nat.toDigits 10 n) : c.isDigit = true :=
  Nat.isDigit_of_mem_toDigits (by decide) (by decide) h

theorem toDigits_injective {m n : Nat} (h : Nat.toDigits 10 m = Nat.toDigits 10 n) : m = n := by
  rw [← toNat_toDigits m, h, toNat_toDigits]

theorem minus_not_mem_toDigits (n : Nat) : '-' ∉ Nat.toDigits 10 n :=
  fun h => absurd (isDigit_of_mem h) (by decide)

theorem toDigits_ne_nil (n : Nat) : Nat.toDigits 10 n ≠ [] := by
  rw [Nat.toDigits_eq_if (by decide)]
  split <;> simp

theorem digitChar_ne_zero : ∀ n < 10, n ≠ 0 → Nat.digitChar n ≠ '0' := by
  decide

theorem head?_toDigits {n : Nat} (h : n ≠ 0) : (Nat.toDigits 10 n).head? ≠ some '0' := by
  induction n using Nat.strongRecOn with
  | ind n ih =>
    by_cases hlt : n < 10
    · rw [Nat.toDigits_of_lt_base hlt]
      exact fun he => digitChar_ne_zero n hlt h (Option.some.inj he)
    · rw [Nat.toDigits_of_base_le (by decide) (Nat.le_of_not_lt hlt), List.head?_append,
        List.head?_eq_some_head (toDigits_ne_nil _)]
      have hrest := ih (n / 10) (by omega) (by omega)
      rw [List.head?_eq_some_head (toDigits_ne_nil _)] at hrest
      exact hrest

theorem ofInt_injective {a b : Int} (h : ofInt a = ofInt b) : a = b := by
  cases a with
  | ofNat m =>
    cases b with
    | ofNat n => exact congrArg Int.ofNat (toDigits_injective h)
    | negSucc n =>
      have hm : '-' ∈ Nat.toDigits 10 m := by
        change Nat.toDigits 10 m = '-' :: Nat.toDigits 10 (n + 1) at h
        rw [h]
        exact List.mem_cons_self
      exact absurd hm (minus_not_mem_toDigits m)
  | negSucc m =>
    cases b with
    | ofNat n =>
      have hm : '-' ∈ Nat.toDigits 10 n := by
        change '-' :: Nat.toDigits 10 (m + 1) = Nat.toDigits 10 n at h
        rw [← h]
        exact List.mem_cons_self
      exact absurd hm (minus_not_mem_toDigits n)
    | negSucc n =>
      have hn := toDigits_injective (List.cons.inj h).2
      exact congrArg Int.negSucc (Nat.succ.inj hn)

end Text.Decimal

namespace Value

theorem display_integer_inj {m n : Int64} :
    (integer m).display = (integer n).display ↔ m = n := by
  constructor
  · intro h
    exact Int64.toInt_inj.1 (Text.Decimal.ofInt_injective (String.ofList_injective h))
  · exact fun h => h ▸ rfl

/-- Two values go together in a condition just if they are displayed alike. -/
theorem matchesValue_eq_display (v w : Value) : v.matchesValue w = (v.display == w.display) := by
  cases v with
  | integer m =>
    cases w with
    | integer n =>
      change (m == n) = _
      rw [Bool.eq_iff_iff, beq_iff_eq, beq_iff_eq, display_integer_inj]
    | text t => exact matchesText_eq (.integer m) t
  | text s =>
    cases w with
    | integer n =>
      change (integer n).matchesText s = _
      rw [matchesText_eq, Bool.eq_iff_iff, beq_iff_eq, beq_iff_eq]
      exact eq_comm
    | text t => rfl

end Value
end RelStore
