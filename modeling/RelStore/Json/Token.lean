import RelStore.Json
import RelStore.Json.Quoted
import RelStore.Text.Decimal

/-!
The tokens of JSON texts: brackets, separators and scalar values, with blanks between them.
-/

namespace RelStore.Json
set_option autoImplicit false

open Text

inductive Token where
  | openArray | closeArray | openObject | closeObject | colon | comma
  | scalar (v : Json)

def isBlank (c : Char) : Bool :=
  c == ' ' || c == '\n' || c == '\t' || c == '\r'

/-- Whether a point with digits is at the head of a text, and what follows it; `none` if a point
is there without digits. -/
def pointRest : List Char → Option (Bool × List Char)
  | '.' :: rest =>
    if rest.head?.any Char.isDigit then some (true, rest.dropWhile Char.isDigit) else none
  | rest => some (false, rest)

def afterSign : List Char → List Char
  | '+' :: rest => rest
  | '-' :: rest => rest
  | rest => rest

/-- Whether an exponent is at the head of a text, and what follows it; `none` if the exponent has
no digits. -/
def powerRest : List Char → Option (Bool × List Char)
  | [] => some (false, [])
  | c :: rest =>
    if c = 'e' ∨ c = 'E' then
      if (afterSign rest).head?.any Char.isDigit then
        some (true, (afterSign rest).dropWhile Char.isDigit)
      else none
    else some (false, c :: rest)

/-- The number at the head of a text without its sign, and what follows it. A zero at its head is
the only digit before the point. -/
def number? (negative : Bool) (s : List Char) : Option (Json × List Char) := do
  let digits := s.takeWhile Char.isDigit
  guard (!digits.isEmpty && (digits.head? != some '0' || digits.length == 1))
  let (point, rest) ← pointRest (s.dropWhile Char.isDigit)
  let (power, rest) ← powerRest rest
  let n := Decimal.toNat digits
  if point || power || (negative && n == 0) then
    return (.fraction, rest)
  else
    return (.integer (if negative then -n else n), rest)

def named? (v : Json) (name : String) (s : List Char) : Option (Token × List Char) :=
  if name.toList.isPrefixOf s then some (.scalar v, s.drop name.toList.length) else none

/-- The token at the head of a text that does not begin with a blank, and what follows it. -/
def head? (c : Char) (rest : List Char) : Option (Token × List Char) :=
  match c with
  | '[' => some (.openArray, rest)
  | ']' => some (.closeArray, rest)
  | '{' => some (.openObject, rest)
  | '}' => some (.closeObject, rest)
  | ':' => some (.colon, rest)
  | ',' => some (.comma, rest)
  | '"' => do
    let (units, after) ← unquote rest
    return (.scalar (.string ((characters? units).map String.ofList)), after)
  | 'n' => named? .null "ull" rest
  | 't' => named? (.bool true) "rue" rest
  | 'f' => named? (.bool false) "alse" rest
  | '-' => (number? true rest).map fun (v, after) => (.scalar v, after)
  | c =>
    if c.isDigit then (number? false (c :: rest)).map fun (v, after) => (.scalar v, after)
    else none

theorem length_dropWhile_isDigit (s : List Char) :
    (s.dropWhile Char.isDigit).length ≤ s.length :=
  (List.dropWhile_sublist _).length_le

theorem length_pointRest {s after : List Char} {b : Bool} (h : pointRest s = some (b, after)) :
    after.length ≤ s.length := by
  unfold pointRest at h
  split at h
  · rename_i rest
    split at h
    · cases h
      have := length_dropWhile_isDigit rest
      simp only [List.length_cons]
      omega
    · cases h
  · cases h
    exact Nat.le_refl _

theorem length_afterSign (s : List Char) : (afterSign s).length ≤ s.length := by
  unfold afterSign
  split <;> simp

theorem length_powerRest {s after : List Char} {b : Bool} (h : powerRest s = some (b, after)) :
    after.length ≤ s.length := by
  unfold powerRest at h
  split at h
  · cases h
    exact Nat.le_refl _
  · rename_i c rest
    split at h
    · split at h
      · cases h
        have := length_dropWhile_isDigit (afterSign rest)
        have := length_afterSign rest
        simp only [List.length_cons]
        omega
      · cases h
    · cases h
      exact Nat.le_refl _

theorem takeWhile_ne_nil_of_number? {negative : Bool} {s after : List Char} {v : Json}
    (h : number? negative s = some (v, after)) : s.takeWhile Char.isDigit ≠ [] := by
  intro he
  rw [number?, he] at h
  change none = some (v, after) at h
  cases h

theorem length_number? {negative : Bool} {s after : List Char} {v : Json}
    (h : number? negative s = some (v, after)) : after.length < s.length := by
  have hne := takeWhile_ne_nil_of_number? h
  have hsplit := congrArg List.length (List.takeWhile_append_dropWhile (p := Char.isDigit) (l := s))
  rw [List.length_append] at hsplit
  have hpos := List.length_pos_iff.2 hne
  unfold number? at h
  obtain ⟨_, -, h⟩ := Option.bind_eq_some_iff.1 h
  obtain ⟨⟨_, _⟩, hpoint, h⟩ := Option.bind_eq_some_iff.1 h
  obtain ⟨⟨_, _⟩, hpower, h⟩ := Option.bind_eq_some_iff.1 h
  dsimp only at h
  have := length_pointRest hpoint
  have := length_powerRest hpower
  split at h
  · cases h
    omega
  · cases h
    omega

theorem length_named? {v : Json} {name : String} {s after : List Char} {t : Token}
    (h : named? v name s = some (t, after)) : after.length ≤ s.length := by
  unfold named? at h
  split at h
  · cases h
    rw [List.length_drop]
    omega
  · cases h

theorem length_head? {c : Char} {rest after : List Char} {t : Token}
    (h : head? c rest = some (t, after)) : after.length ≤ rest.length := by
  unfold head? at h
  split at h
  iterate 6
    · cases h
      exact Nat.le_refl _
  · simp only [Option.bind_eq_bind, Option.bind_eq_some_iff, Option.pure_def, Option.some.injEq,
      Prod.exists, Prod.mk.injEq] at h
    obtain ⟨_, _, h, -, rfl⟩ := h
    exact length_unquote h
  iterate 3
    · exact length_named? h
  · simp only [Option.map_eq_some_iff, Prod.exists, Prod.mk.injEq] at h
    obtain ⟨_, _, h, -, rfl⟩ := h
    exact Nat.le_of_lt (length_number? h)
  · split at h
    · simp only [Option.map_eq_some_iff, Prod.exists, Prod.mk.injEq] at h
      obtain ⟨_, _, h, -, rfl⟩ := h
      exact Nat.lt_succ_iff.1 (length_number? h)
    · cases h

def tokens? : List Char → Option (List Token)
  | [] => some []
  | c :: rest =>
    if isBlank c then
      tokens? rest
    else
      match _h : head? c rest with
      | some (t, after) => (t :: ·) <$> tokens? after
      | none => none
termination_by s => s.length
decreasing_by
  · simp
  · have := length_head? _h
    simp only [List.length_cons]
    omega

end RelStore.Json
