/-!
The inside of JSON strings. Reading gives code points, among them surrogates that escapes spell;
two surrogates that make a pair are one character, any other surrogate is none. Writing escapes
the quote, the backslash and the control characters below U+0020, and nothing else.
-/

namespace RelStore.Json
set_option autoImplicit false

def hexValue? (c : Char) : Option Nat :=
  if '0' ≤ c ∧ c ≤ '9' then some (c.toNat - 48)
  else if 'a' ≤ c ∧ c ≤ 'f' then some (c.toNat - 87)
  else if 'A' ≤ c ∧ c ≤ 'F' then some (c.toNat - 55)
  else none

def hexUnit? (a b c d : Char) : Option Nat := do
  let a ← hexValue? a
  let b ← hexValue? b
  let c ← hexValue? c
  let d ← hexValue? d
  return ((a * 16 + b) * 16 + c) * 16 + d

def escaped? : Char → Option Char
  | '"' => some '"'
  | '\\' => some '\\'
  | '/' => some '/'
  | 'b' => some '\x08'
  | 'f' => some '\x0c'
  | 'n' => some '\n'
  | 'r' => some '\r'
  | 't' => some '\t'
  | _ => none

/-- The code points of a string whose opening quote has been read, and what follows its closing
quote. -/
def unquote : List Char → Option (List Nat × List Char)
  | [] => none
  | c :: rest =>
    if c = '"' then
      some ([], rest)
    else if c = '\\' then
      match rest with
      | 'u' :: a :: b :: c :: d :: rest => do
        let n ← hexUnit? a b c d
        let (units, after) ← unquote rest
        return (n :: units, after)
      | e :: rest => do
        let x ← escaped? e
        let (units, after) ← unquote rest
        return (x.toNat :: units, after)
      | [] => none
    else if c.toNat < 0x20 then
      none
    else do
      let (units, after) ← unquote rest
      return (c.toNat :: units, after)

/-- Whether a code point is the first half of a surrogate pair. -/
def isHigh (n : Nat) : Bool :=
  decide (0xD800 ≤ n) && decide (n ≤ 0xDBFF)

/-- Whether a code point is the second half of a surrogate pair. -/
def isLow (n : Nat) : Bool :=
  decide (0xDC00 ≤ n) && decide (n ≤ 0xDFFF)

/-- The characters that code points stand for, if each surrogate is part of a pair. -/
def characters? : List Nat → Option (List Char)
  | [] => some []
  | n :: rest =>
    if isHigh n then
      match rest with
      | m :: rest =>
        if isLow m then
          (Char.ofNat (0x10000 + (n - 0xD800) * 0x400 + (m - 0xDC00)) :: ·) <$> characters? rest
        else none
      | [] => none
    else if isLow n then none
    else (Char.ofNat n :: ·) <$> characters? rest

def hexDigit (n : Nat) : Char :=
  Char.ofNat (if n < 10 then 48 + n else 87 + n)

def escape (c : Char) : List Char :=
  match c with
  | '"' => ['\\', '"']
  | '\\' => ['\\', '\\']
  | '\x08' => ['\\', 'b']
  | '\x0c' => ['\\', 'f']
  | '\n' => ['\\', 'n']
  | '\r' => ['\\', 'r']
  | '\t' => ['\\', 't']
  | c =>
    if c.toNat < 0x20 then ['\\', 'u', '0', '0', hexDigit (c.toNat / 16), hexDigit (c.toNat % 16)]
    else [c]

/-- A string as it is written; one without a text is written as a surrogate on its own. -/
def quote (content : Option String) : List Char :=
  match content with
  | some s => '"' :: s.toList.flatMap escape ++ ['"']
  | none => ['"', '\\', 'u', 'd', '8', '0', '0', '"']

theorem length_unquote {s after : List Char} {units : List Nat}
    (h : unquote s = some (units, after)) : after.length ≤ s.length := by
  fun_induction unquote s generalizing after units with
  | case1 => cases h
  | case2 =>
    cases h
    simp
  | case3 _ a b c d rest ih =>
    simp only [Option.bind_eq_bind, Option.bind_eq_some_iff, Option.pure_def, Option.some.injEq,
      Prod.exists, Prod.mk.injEq] at h
    obtain ⟨_, -, _, _, h, -, rfl⟩ := h
    have := ih h
    simp only [List.length_cons]
    omega
  | case4 _ e rest _ ih =>
    simp only [Option.bind_eq_bind, Option.bind_eq_some_iff, Option.pure_def, Option.some.injEq,
      Prod.exists, Prod.mk.injEq] at h
    obtain ⟨_, -, _, _, h, -, rfl⟩ := h
    have := ih h
    simp only [List.length_cons]
    omega
  | case5 => cases h
  | case6 => cases h
  | case7 c rest _ _ _ ih =>
    simp only [Option.bind_eq_bind, Option.bind_eq_some_iff, Option.pure_def, Option.some.injEq,
      Prod.exists, Prod.mk.injEq] at h
    obtain ⟨_, _, h, -, rfl⟩ := h
    have := ih h
    simp only [List.length_cons]
    omega

end RelStore.Json
