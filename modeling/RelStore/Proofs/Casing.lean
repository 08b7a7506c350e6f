import Mathlib
import RelStore.Statement.Grammar

/-!
Letter case by letter. A word in capitals is a name of capitals just if it is the name letter by
letter, in whatever case; likewise for small letters. So keywords and column types are known by the
words that spell them. A name must not hold the letters of a ligature next to one another, which one
character could stand for.
-/

namespace RelStore
set_option autoImplicit false

namespace Text

section Char

variable {c letter : Char}

theorem isUpper_iff : letter.isUpper = true ↔ 65 ≤ letter.toNat ∧ letter.toNat ≤ 90 := by
  simp [Char.isUpper, UInt32.le_iff_toNat_le]

theorem isLower_iff : letter.isLower = true ↔ 97 ≤ letter.toNat ∧ letter.toNat ≤ 122 := by
  simp [Char.isLower, UInt32.le_iff_toNat_le]

theorem toNat_toUpper (h : c.isLower = true) : c.toUpper.toNat + 32 = c.toNat := by
  obtain ⟨hge, hle⟩ := isLower_iff.1 h
  have hvalid : (c.toNat - 32).isValidChar := .inl (by omega)
  rw [Char.toUpper_eq_of_isLower h, Char.toNat_ofNat, if_pos hvalid]
  omega

theorem toNat_toLower (h : c.isUpper = true) : c.toLower.toNat = c.toNat + 32 := by
  obtain ⟨hge, hle⟩ := isUpper_iff.1 h
  have hvalid : (c.toNat + 32).isValidChar := .inl (by omega)
  rw [Char.toLower_eq_of_isUpper h, Char.toNat_ofNat, if_pos hvalid]

theorem toUpper_eq_iff (h : letter.isUpper = true) :
    c.toUpper = letter ↔ c = letter ∨ c.toNat = letter.toNat + 32 := by
  obtain ⟨hge, hle⟩ := isUpper_iff.1 h
  by_cases hc : c.isLower = true
  · have hn := toNat_toUpper hc
    rw [isLower_iff] at hc
    rw [← Char.toNat_inj, ← Char.toNat_inj]
    omega
  · rw [Char.toUpper_eq_of_not_isLower hc]
    rw [isLower_iff] at hc
    rw [← Char.toNat_inj]
    omega

theorem toLower_eq_iff (h : letter.isLower = true) :
    c.toLower = letter ↔ c = letter ∨ c.toNat + 32 = letter.toNat := by
  obtain ⟨hge, hle⟩ := isLower_iff.1 h
  by_cases hc : c.isUpper = true
  · have hn := toNat_toLower hc
    rw [isUpper_iff] at hc
    rw [← Char.toNat_inj, ← Char.toNat_inj]
    omega
  · rw [Char.toLower_eq_of_not_isUpper hc]
    rw [isUpper_iff] at hc
    rw [← Char.toNat_inj]
    omega

theorem isCaseOf_iff_of_isUpper (h : letter.isUpper = true) : IsCaseOf c letter ↔
    c.toUpper = letter ∨ c = 'ı' ∧ letter = 'I' ∨ c = 'ſ' ∧ letter = 'S' := by
  rw [toUpper_eq_iff h]
  unfold IsCaseOf
  constructor
  · rintro (hsame | ⟨-, hsmall⟩ | ⟨hlower, -⟩ | hdotless | hlong | ⟨-, rfl⟩)
    · exact .inl (.inl hsame)
    · exact .inl (.inr hsmall)
    · exact absurd hlower (Char.not_isLower_of_isUpper h)
    · exact .inr (.inl hdotless)
    · exact .inr (.inr hlong)
    · cases h
  · rintro ((hsame | hsmall) | ⟨rfl, rfl⟩ | ⟨rfl, rfl⟩)
    · exact .inl hsame
    · exact .inr (.inl ⟨h, hsmall⟩)
    · decide
    · decide

theorem isCaseOf_iff_of_isLower (h : letter.isLower = true) :
    IsCaseOf c letter ↔ c.toLower = letter ∨ c = '\u212a' ∧ letter = 'k' := by
  rw [toLower_eq_iff h]
  unfold IsCaseOf
  constructor
  · rintro (hsame | ⟨hupper, -⟩ | ⟨-, hcapital⟩ | ⟨-, rfl⟩ | ⟨-, rfl⟩ | hkelvin)
    · exact .inl (.inl hsame)
    · exact absurd hupper (Char.not_isUpper_of_isLower h)
    · exact .inl (.inr hcapital)
    · cases h
    · cases h
    · exact .inr hkelvin
  · rintro ((hsame | hcapital) | ⟨rfl, rfl⟩)
    · exact .inl hsame
    · exact .inr (.inr (.inl ⟨h, hcapital⟩))
    · decide

theorem upperAscii_of_lt (h : c.toNat < 128) : upperAscii c = [c.toUpper] := by
  unfold upperAscii
  split
  case h_11 => rfl
  all_goals exact absurd h (by decide)

/-- The letters that one character outside ASCII stands for next to one another. -/
def ligatures : List (Char × Char) :=
  [('S', 'S'), ('F', 'F'), ('F', 'I'), ('F', 'L'), ('S', 'T')]

theorem upperAscii_eq_or (c : Char) : upperAscii c = [c.toUpper] ∨
    (∃ letter, upperAscii c = [letter] ∧ (c = 'ı' ∧ letter = 'I' ∨ c = 'ſ' ∧ letter = 'S')) ∨
    ∃ first second rest, upperAscii c = first :: second :: rest ∧ (first, second) ∈ ligatures := by
  unfold upperAscii
  split
  case h_11 => exact .inl rfl
  case h_1 | h_2 => exact .inr (.inl ⟨_, rfl, by decide⟩)
  all_goals exact .inr (.inr ⟨_, _, _, rfl, by decide⟩)

theorem upperAscii_eq_iff (h : letter.isUpper = true) :
    upperAscii c = [letter] ↔ IsCaseOf c letter := by
  rw [isCaseOf_iff_of_isUpper h]
  constructor
  · intro hc
    rcases upperAscii_eq_or c with he | ⟨letter', he, hother⟩ | ⟨first, second, rest, he, -⟩
    · exact .inl (List.singleton_inj.1 (he.symm.trans hc))
    · cases he.symm.trans hc
      exact .inr hother
    · cases he.symm.trans hc
  · rintro (hc | ⟨rfl, rfl⟩ | ⟨rfl, rfl⟩)
    · have hlt : c.toNat < 128 := by
        obtain ⟨-, hle⟩ := isUpper_iff.1 h
        rw [toUpper_eq_iff h, ← Char.toNat_inj] at hc
        omega
      rw [upperAscii_of_lt hlt, hc]
    · rfl
    · rfl

theorem lowerAscii_eq_iff (h : letter.isLower = true) :
    lowerAscii c = letter ↔ IsCaseOf c letter := by
  rw [isCaseOf_iff_of_isLower h]
  unfold lowerAscii
  by_cases hc : c = '\u212a'
  · subst hc
    have hne : Char.toLower '\u212a' ≠ letter := by
      rintro rfl
      cases h
    rw [if_pos rfl, or_iff_right hne, and_iff_right rfl, eq_comm]
  · rw [if_neg hc, or_iff_left fun hkelvin => hc hkelvin.1]

end Char

section Word

variable {word name : List Char}

/-- Letters that could be one character are not next to one another. -/
def NoLigature (first second : Char) : Prop :=
  (first, second) ∉ ligatures

instance (first second : Char) : Decidable (NoLigature first second) :=
  inferInstanceAs (Decidable (¬ _))

theorem upper_cons (c : Char) (word : List Char) :
    upper (c :: word) = upperAscii c ++ upper word :=
  List.flatMap_cons

theorem upper_eq_iff (hletters : ∀ letter ∈ name, letter.isUpper = true)
    (hplain : name.IsChain NoLigature) :
    upper word = name ↔ List.Forall₂ IsCaseOf word name := by
  induction word generalizing name with
  | nil =>
    rw [List.forall₂_nil_left_iff]
    exact eq_comm
  | cons c word ih =>
    rw [upper_cons]
    constructor
    · rintro rfl
      -- one character is one letter, as the two that a ligature would be are nowhere in a row
      have hsingle : ∃ letter, upperAscii c = [letter] := by
        rcases upperAscii_eq_or c with he | ⟨letter, he, -⟩ | ⟨first, second, rest, he, hmem⟩
        · exact ⟨_, he⟩
        · exact ⟨_, he⟩
        · rw [he] at hplain
          exact absurd hmem (List.isChain_cons_cons.1 hplain).1
      obtain ⟨letter, he⟩ := hsingle
      rw [he] at hletters hplain ⊢
      obtain ⟨hletter, hrest⟩ := List.forall_mem_cons.1 hletters
      exact .cons ((upperAscii_eq_iff hletter).1 he) ((ih hrest hplain.tail).1 rfl)
    · intro h
      cases h with
      | cons hc hword =>
        obtain ⟨hletter, hrest⟩ := List.forall_mem_cons.1 hletters
        rw [(upperAscii_eq_iff hletter).2 hc, (ih hrest hplain.tail).2 hword]
        rfl

theorem lower_eq_iff (hletters : ∀ letter ∈ name, letter.isLower = true) :
    lower word = name ↔ List.Forall₂ IsCaseOf word name := by
  induction word generalizing name with
  | nil =>
    rw [List.forall₂_nil_left_iff]
    exact eq_comm
  | cons c word ih =>
    cases name with
    | nil => exact iff_of_false nofun nofun
    | cons letter name =>
      obtain ⟨hletter, hrest⟩ := List.forall_mem_cons.1 hletters
      rw [List.forall₂_cons, ← lowerAscii_eq_iff hletter, ← ih hrest]
      exact List.cons_eq_cons

end Word

end Text

namespace Keyword

theorem ofWord?_eq_some_iff_upper {word : String} {k : Keyword} :
    ofWord? word = some k ↔ Text.upper word.toList = k.text.toList := by
  unfold ofWord?
  constructor
  · intro h
    have hk := List.find?_some h
    exact (eq_of_beq hk).symm
  · intro h
    rw [h]
    cases k <;> decide

/-- A keyword is known by a word that spells it. -/
theorem ofWord?_eq_some_iff {word : String} {k : Keyword} :
    ofWord? word = some k ↔ Text.InCase word k.text := by
  rw [ofWord?_eq_some_iff_upper]
  have hletters : k.text.toList.all Char.isUpper = true := by
    cases k <;> decide
  have hplain : k.text.toList.IsChain Text.NoLigature := by
    cases k <;> decide
  exact Text.upper_eq_iff (List.all_eq_true.1 hletters) hplain

end Keyword

namespace ColumnType

theorem ofName?_eq_some_iff_lower {word : String} {type : ColumnType} :
    ofName? word = some type ↔
      ∃ name ∈ type.names, Text.lower word.toList = name.toList := by
  unfold ofName?
  constructor
  · intro h
    have ht := List.find?_some h
    obtain ⟨name, hname, he⟩ := List.any_eq_true.1 ht
    exact ⟨name, hname, (eq_of_beq he).symm⟩
  · rintro ⟨name, hname, he⟩
    rw [he]
    have hall : ∀ name ∈ type.names,
        [integer, text].find? (fun t => t.names.any (·.toList == name.toList)) = some type := by
      cases type <;> decide
    exact hall name hname

/-- A column type is known by a word that is one of its names. -/
theorem ofName?_eq_some_iff {word : String} {type : ColumnType} :
    ofName? word = some type ↔ ∃ name ∈ type.names, Text.InCase word name := by
  have hletters : ∀ name ∈ type.names, name.toList.all Char.isLower = true := by
    cases type <;> decide
  rw [ofName?_eq_some_iff_lower]
  refine exists_congr fun name => and_congr_right fun hname => ?_
  exact Text.lower_eq_iff (List.all_eq_true.1 (hletters name hname))

end ColumnType
end RelStore
