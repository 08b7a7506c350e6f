/-!
Decimal text of whole numbers: ASCII digits without leading zeros, after a minus sign if the
number is negative. `toNat_toDigits` says that written digits read back as their number.
-/

namespace RelStore.Text.Decimal
set_option autoImplicit false

def ofInt : Int → List Char
  | .ofNat n => Nat.toDigits 10 n
  | .negSucc n => '-' :: Nat.toDigits 10 (n + 1)

/-- The number that a row of ASCII digits stands for; leading zeros are allowed. -/
def toNat (digits : List Char) : Nat :=
  Nat.ofDigitChars 10 digits 0

theorem toNat_toDigits (n : Nat) : toNat (Nat.toDigits 10 n) = n :=
  Nat.ofDigitChars_ten_toDigits

end RelStore.Text.Decimal
