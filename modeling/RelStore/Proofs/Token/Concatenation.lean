import RelStore.Proofs.Token.Blanks

/-!
Two texts with a blank between them. If the first is scanned, the second is scanned as if it stood
alone: its tokens come after those of the first, and its faults are located as many characters later as
there are in front of it. A character that begins no token in the first is found where it was, whatever
is put behind the blank.
-/

namespace RelStore
set_option autoImplicit false

/-- The fault of a text that `n` characters are put in front of. -/
def ScanFault.shift (n : Nat) : ScanFault → ScanFault
  | .unexpectedCharacter c position => .unexpectedCharacter c (position + n)
  | .unterminatedString start => .unterminatedString (start + n)

namespace Token

open Text

/-- Characters in front of a text move the place where scanning stops in it. -/
theorem Stop.locate_add {stop : Stop} {length : Nat} (h : stop.rest.length < length) (n : Nat) :
    stop.locate (length + n) = (stop.locate length).shift n := by
  rw [stop.locate_eq (Nat.sub_add_comm h), stop.locate_eq rfl]
  cases stop.fault <;> rfl

/-- Characters behind a text leave that place where it is. -/
theorem Stop.locate_append (fault : HeadFault) (c : Char) (rest more : List Char) (length : Nat) :
    (Stop.mk fault c (rest ++ more)).locate (length + more.length) =
      (Stop.mk fault c rest).locate length := by
  have hposition : length + more.length - ((rest ++ more).length + 1) =
      length - (rest.length + 1) := by
    rw [List.length_append]
    omega
  rw [Stop.locate_eq hposition, Stop.locate_eq rfl]

theorem length_rest_of_stop {text : List Char} {stop : Stop} (h : scanList text = .error stop) :
    stop.rest.length < text.length := by
  obtain ⟨before, -, rfl, -⟩ := exists_partition_of_stop h
  rw [List.length_append, List.length_cons]
  omega

theorem toList_push_append (a c : String) (b : Char) :
    (a.push b ++ c).toList = a.toList ++ b :: c.toList := by
  rw [String.toList_append, String.toList_push, List.append_assoc, List.singleton_append]

theorem length_push_append (a c : String) (b : Char) :
    (a.push b ++ c).length = c.length + (a.length + 1) := by
  rw [String.length_append, String.length_push, Nat.add_comm]

section Blank

variable {a : String} {b : Char} {tokens : List Token} (hb : isBlank b = true)
include hb

theorem scan_push_append_of_ok (h : scan a = .ok tokens) (c : String) :
    scan (a.push b ++ c) = match scan c with
      | .ok more => .ok (tokens ++ more)
      | .error fault => .error (fault.shift (a.length + 1)) := by
  have ha : scanList a.toList = .ok tokens := mapError_eq_ok.1 h
  have hscan := scanList_append_of_ok ha hb c.toList
  unfold scan
  rw [toList_push_append, hscan, length_push_append]
  cases hc : scanList c.toList with
  | ok more => rfl
  | error stop =>
    have hlength : stop.rest.length < c.length := by
      rw [← String.length_toList]
      exact length_rest_of_stop hc
    exact congrArg Except.error (Stop.locate_add hlength (a.length + 1))

theorem scan_push_append_of_unexpected {d : Char} {position : Nat}
    (h : scan a = .error (.unexpectedCharacter d position)) (c : String) :
    scan (a.push b ++ c) = .error (.unexpectedCharacter d position) := by
  obtain ⟨⟨fault, d', rest⟩, ha, hlocated⟩ := scan_eq_error_iff.1 h
  cases fault with
  | openQuote => cases hlocated
  | strayCharacter =>
    refine scan_eq_error_iff.2 ⟨⟨.strayCharacter, d', rest ++ b :: c.toList⟩, ?_, ?_⟩
    · rw [toList_push_append]
      exact scanList_append_of_strayCharacter ha hb c.toList
    · have hlength : (a.push b ++ c).length = a.length + (b :: c.toList).length := by
        rw [length_push_append, List.length_cons, String.length_toList]
        omega
      rw [hlength, Stop.locate_append, hlocated]

end Blank

/-- Scanning goes on behind a blank as from a beginning. A text that is scanned, a blank and any other
text have the tokens of the one and then those of the other, if the other is scanned as well, and else
its fault, located later by what is in front of it. An unexpected character is found at its position
with a blank and any text behind. -/
theorem scan_append_blank {b : Char} (hb : isBlank b = true) (a c : String) :
    (∀ tokens, scan a = .ok tokens →
      scan (a.push b ++ c) = match scan c with
        | .ok more => .ok (tokens ++ more)
        | .error fault => .error (fault.shift (a.length + 1))) ∧
    ∀ d position, scan a = .error (.unexpectedCharacter d position) →
      scan (a.push b ++ c) = .error (.unexpectedCharacter d position) := by
  constructor
  · intro tokens h
    exact scan_push_append_of_ok hb h c
  · intro d position h
    exact scan_push_append_of_unexpected hb h c

/-- A number before an ideographic space is not read on; a quote left open after a line break is located
in the whole text; and an unexpected character stays where it is, although a quote is open behind it. -/
theorem scan_append_blank_of_texts :
    scan ("t.k=-1".push '\u3000' ++ ".5 'it''s'") =
      .ok [.word "t", .symbol .dot, .word "k", .symbol .equals, .number "-1", .symbol .dot,
        .number "5", .quoted "it's"] ∧
    scan ("t.k=-1".push '\n' ++ "or 'it''s") = .error (.unterminatedString 10) ∧
    scan ("k <".push ' ' ++ "'it") = .error (.unexpectedCharacter '<' 2) := by
  have htexts : scan "t.k=-1" = .ok [.word "t", .symbol .dot, .word "k", .symbol .equals,
        .number "-1"] ∧
      scan ".5 'it''s'" = .ok [.symbol .dot, .number "5", .quoted "it's"] ∧
      scan "or 'it''s" = .error (.unterminatedString 3) ∧
      scan "k <" = .error (.unexpectedCharacter '<' 2) := by decide +kernel
  obtain ⟨hfirst, hsecond, hopen, hstray⟩ := htexts
  refine ⟨?_, ?_, (scan_append_blank rfl _ _).2 _ _ hstray⟩
  · rw [(scan_append_blank rfl _ _).1 _ hfirst, hsecond]
    rfl
  · rw [(scan_append_blank rfl _ _).1 _ hfirst, hopen]
    rfl

end Token
end RelStore
