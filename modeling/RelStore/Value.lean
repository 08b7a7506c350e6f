import RelStore.Text.Decimal

/-!
Stored values: 64-bit integers and texts. Values have two comparisons. Equality is typed, so the
integer 1 and the text "1" differ; `matchesText` and `matchesValue` go by the displayed text, so
there they agree. Keys are told apart by the first, conditions hold by the second.
-/

namespace RelStore
set_option autoImplicit false

open Text

inductive Value where
  | integer (n : Int64)
  | text (s : String)
deriving DecidableEq, Inhabited

namespace Value

/-- The value of a literal: an integer if the text is a row of ASCII digits that 64 bits with a
sign hold, else the text itself. -/
def ofLiteral (literal : String) : Value :=
  let digits := literal.toList
  if !digits.isEmpty && digits.all Char.isDigit &&
      decide (Decimal.toNat digits ≤ Int64.maxValue.toNatClampNeg) then
    .integer (Int64.ofNat (Decimal.toNat digits))
  else
    .text literal

def display : Value → String
  | .integer n => String.ofList (Decimal.ofInt n.toInt)
  | .text s => s

def matchesText (v : Value) (text : String) : Bool :=
  match v with
  | .integer n => String.ofList (Decimal.ofInt n.toInt) == text
  | .text s => s == text

/-- Whether two values go together in a condition: values of one type if they are equal, values
of two types if they are displayed alike. -/
def matchesValue : Value → Value → Bool
  | .integer m, .integer n => m == n
  | .text s, .text t => s == t
  | v, .text t => v.matchesText t
  | .text s, w => w.matchesText s

/-- Integers come before texts and are ordered as numbers; texts are ordered by their code
points. -/
protected def compare : Value → Value → Ordering
  | .integer m, .integer n => Ord.compare m n
  | .integer _, .text _ => .lt
  | .text _, .integer _ => .gt
  | .text s, .text t => Ord.compare s t

instance : Ord Value := ⟨Value.compare⟩

instance : Std.TransOrd Value where
  eq_swap := by
    intro v w
    cases v with
    | integer m =>
      cases w with
      | integer n => exact @Std.OrientedCmp.eq_swap Int64 compare _ m n
      | text _ => rfl
    | text s =>
      cases w with
      | integer _ => rfl
      | text t => exact @Std.OrientedCmp.eq_swap String compare _ s t
  isLE_trans := by
    intro u v w huv hvw
    cases u with
    | integer l =>
      cases w with
      | text _ => rfl
      | integer n =>
        cases v with
        | integer m => exact @Std.TransCmp.isLE_trans Int64 compare _ l m n huv hvw
        | text _ => cases hvw
    | text r =>
      cases v with
      | integer _ => cases huv
      | text s =>
        cases w with
        | integer _ => cases hvw
        | text t => exact @Std.TransCmp.isLE_trans String compare _ r s t huv hvw

instance : Std.LawfulEqOrd Value where
  compare_self := by
    intro v
    cases v with
    | integer n => exact @Std.ReflCmp.compare_self Int64 compare _ n
    | text s => exact @Std.ReflCmp.compare_self String compare _ s
  eq_of_compare := by
    intro v w h
    cases v with
    | integer m =>
      cases w with
      | integer n => exact congrArg Value.integer (@Std.LawfulEqCmp.eq_of_compare Int64 compare _ m n h)
      | text _ => cases h
    | text s =>
      cases w with
      | integer _ => cases h
      | text t => exact congrArg Value.text (@Std.LawfulEqCmp.eq_of_compare String compare _ s t h)

theorem matchesText_eq (v : Value) (text : String) : v.matchesText text = (v.display == text) := by
  cases v <;> rfl

end Value
end RelStore
