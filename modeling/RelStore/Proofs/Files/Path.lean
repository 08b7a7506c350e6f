import Mathlib.Data.List.DropRight
import RelStore.Files.Replace
import RelStore.Proofs.Files.FileSystem

/-!
Where paths lead. Only the moves of a path count, the steps that do not stay where they are: the
parent of a path makes all of its moves but the last, and an entry makes one move more. So the
temporary file beside a file has a location of its own: it is looked up where the file is, and its
name is longer.
-/

namespace RelStore
set_option autoImplicit false

/-- The location that a step leads to. -/
def PathStep.follow (l : Location) : PathStep → Location
  | .stay => l
  | .up => l.dropLast
  | .name s => l ++ [s]

namespace Path

/-- The steps that do not stay where they are, of a path with these parts. -/
def movesOf (parts : List String) : List PathStep :=
  ((parts.filter (· ≠ "")).map PathStep.ofText).filter (· ≠ .stay)

def moves (p : Path) : List PathStep :=
  movesOf p.parts

theorem movesOf_append (parts parts' : List String) :
    movesOf (parts ++ parts') = movesOf parts ++ movesOf parts' := by
  unfold movesOf
  rw [List.filter_append, List.map_append, List.filter_append]

theorem movesOf_blank {part : String} (h : part = "" ∨ part = ".") : movesOf [part] = [] := by
  rcases h with rfl | rfl <;> rfl

theorem ofText_ne_stay {part : String} (h : part ≠ ".") : PathStep.ofText part ≠ .stay := by
  unfold PathStep.ofText
  split
  · contradiction
  · nofun
  · nofun

theorem movesOf_singleton {part : String} (h : ¬ (part = "" ∨ part = ".")) :
    movesOf [part] = [PathStep.ofText part] := by
  rw [not_or] at h
  unfold movesOf
  rw [List.filter_cons_of_pos (by simpa using h.1), List.filter_nil, List.map_singleton,
    List.filter_cons_of_pos (by simpa using ofText_ne_stay h.2), List.filter_nil]

theorem movesOf_cons_blank {part : String} (h : part = "" ∨ part = ".") (rest : List String) :
    movesOf (part :: rest) = movesOf rest := by
  rw [← List.singleton_append, movesOf_append, movesOf_blank h, List.nil_append]

theorem trimParts_concat (parts : List String) (part : String) :
    trimParts (parts ++ [part]) =
      if part = "" ∨ part = "." then trimParts parts else parts ++ [part] := by
  have h := List.rdropWhile_concat (fun part => part = "" || part = ".") parts part
  simp only [Bool.or_eq_true, decide_eq_true_eq] at h
  exact h

theorem movesOf_trimParts (parts : List String) : movesOf (trimParts parts) = movesOf parts := by
  induction parts using List.reverseRecOn with
  | nil => rfl
  | append_singleton parts part ih =>
    rw [trimParts_concat]
    split
    · rename_i hblank
      rw [ih, movesOf_append, movesOf_blank hblank, List.append_nil]
    · rfl

theorem movesOf_partsAbove (parts : List String) :
    movesOf (partsAbove parts) = (movesOf parts).dropLast := by
  induction parts using List.reverseRecOn with
  | nil => rfl
  | append_singleton parts part ih =>
    unfold partsAbove at ih ⊢
    rw [trimParts_concat, movesOf_append]
    split
    · rename_i hblank
      rw [ih, movesOf_blank hblank, List.append_nil]
    · rename_i hpart
      rw [List.dropLast_concat, movesOf_trimParts, movesOf_singleton hpart, List.dropLast_concat]

/-- The parent of a path makes all of its moves but the last. -/
theorem moves_parent (p : Path) : p.parent.moves = p.moves.dropLast := by
  obtain ⟨parts⟩ := p
  unfold moves parent
  dsimp only
  split
  · rename_i rest _
    rw [movesOf_cons_blank (.inl rfl), ← movesOf_partsAbove]
    split
    · rename_i htrim
      unfold partsAbove
      rw [htrim]
      rfl
    · split
      · rename_i habove
        rw [habove]
        rfl
      · rw [movesOf_cons_blank (.inl rfl)]
  · rw [movesOf_cons_blank (.inr rfl), movesOf_cons_blank (.inr rfl), movesOf_partsAbove]
  · rw [← movesOf_partsAbove]
    split
    · rename_i habove
      rw [habove]
      rfl
    · rfl

theorem moves_entry (p : Path) {name : String} (h : ¬ (name = "" ∨ name = ".")) :
    (p.entry name).moves = p.moves ++ [PathStep.ofText name] := by
  unfold moves entry
  rw [movesOf_append, movesOf_singleton h]
  split
  · rename_i hclosed
    -- a path that ends in a slash has an empty part at its end
    unfold closed at hclosed
    rw [Bool.and_eq_true, decide_eq_true_eq] at hclosed
    conv_rhs => rw [← List.dropLast_append_getLast? "" hclosed.1, movesOf_append]
    rw [movesOf_blank (.inl rfl), List.append_nil]
  · rfl

theorem movesOf_eq_nil_iff {parts : List String} : movesOf parts = [] ↔ trimParts parts = [] := by
  induction parts using List.reverseRecOn with
  | nil => exact iff_of_true rfl rfl
  | append_singleton parts part ih =>
    rw [trimParts_concat, movesOf_append]
    split
    · rename_i hblank
      rw [movesOf_blank hblank, List.append_nil]
      exact ih
    · rename_i hpart
      rw [movesOf_singleton hpart]
      exact iff_of_false (List.append_ne_nil_of_right_ne_nil _ nofun)
        (List.append_ne_nil_of_right_ne_nil _ nofun)

theorem partsAbove_prefix (parts : List String) : partsAbove parts <+: parts :=
  ((List.rdropWhile_prefix _ _).trans (List.dropLast_prefix _)).trans (List.rdropWhile_prefix _ _)

/-- An entry is looked up from where its directory is looked up from. -/
theorem absolute_entry {p : Path} {part : String} {rest : List String} (h : p.parts = part :: rest)
    (name : String) : (p.entry name).absolute = decide (part = "") := by
  obtain ⟨parts⟩ := p
  obtain rfl : parts = part :: rest := h
  cases rest with
  | nil =>
    have hclosed : closed ⟨[part]⟩ = false := by
      unfold closed
      simp
    unfold absolute entry
    rw [hclosed]
    simp
  | cons part' rest =>
    unfold absolute entry
    split <;> simp

/-- A path that does not begin with a slash is looked up from the working directory. -/
theorem absolute_eq_false {parts : List String} (h : ∀ rest, parts = "" :: rest → False) :
    absolute ⟨parts⟩ = false := by
  unfold absolute
  cases parts with
  | nil => rfl
  | cons part rest =>
    have hpart : part ≠ "" := by
      rintro rfl
      exact h rest rfl
    simp [hpart]

theorem absolute_partsAbove_entry {parts : List String} (h : ∀ rest, parts = "" :: rest → False)
    (habove : partsAbove parts ≠ []) (name : String) :
    (entry ⟨partsAbove parts⟩ name).absolute = false := by
  obtain ⟨part, rest, hpart⟩ := List.exists_cons_of_ne_nil habove
  obtain ⟨after, hparts⟩ := partsAbove_prefix parts
  rw [hpart, List.cons_append] at hparts
  rw [absolute_entry (p := ⟨partsAbove parts⟩) hpart, decide_eq_false_iff_not]
  rintro rfl
  exact h _ hparts.symm

/-- The parent of a path is looked up from where the path is, unless the path makes no moves. -/
theorem absolute_parent_entry (p : Path) (name : String) :
    (p.parent.entry name).absolute = (p.absolute && !p.moves.isEmpty) := by
  obtain ⟨parts⟩ := p
  unfold parent
  dsimp only
  split
  · rename_i rest
    have hmoves : moves ⟨"" :: rest⟩ = [] ↔ trimParts rest = [] := by
      unfold moves
      rw [movesOf_cons_blank (.inl rfl), movesOf_eq_nil_iff]
    split
    · rename_i htrim
      rw [hmoves.2 htrim, absolute_entry rfl, List.isEmpty_nil, Bool.not_true, Bool.and_false]
      rfl
    · rename_i htrim
      have hrest : rest ≠ [] := by
        rintro rfl
        exact htrim rfl
      have habsolute : absolute ⟨"" :: rest⟩ = true := by
        unfold absolute
        simpa using hrest
      rw [habsolute, Bool.true_and, List.isEmpty_eq_false_iff.2 (mt hmoves.1 htrim)]
      split
      · exact absolute_entry rfl name
      · exact absolute_entry rfl name
  · rw [absolute_entry rfl]
    rfl
  · rename_i hslash _
    rw [absolute_eq_false hslash, Bool.false_and]
    split
    · exact absolute_entry rfl name
    · rename_i habove
      exact absolute_partsAbove_entry hslash habove name

theorem length_temporaryName (name : String) (writer : Nat) :
    name.length + 6 ≤ s!".{name}.tmp.{writer}".length := by
  have hdot : (toString ".").length = 1 := rfl
  have htmp : (toString ".tmp.").length = 5 := rfl
  have hname : toString name = name := rfl
  rw [String.length_append, String.length_append, String.length_append, hdot, htmp, hname]
  omega

theorem ofText_eq_name {part : String} (h : part ≠ ".") (h' : part ≠ "..") :
    PathStep.ofText part = .name part := by
  unfold PathStep.ofText
  split
  · contradiction
  · contradiction
  · rfl

theorem fileName?_eq_some {p : Path} {moves : List PathStep} {s : String}
    (h : p.moves = moves ++ [.name s]) : p.fileName? = some s := by
  unfold fileName?
  have hlast : (p.steps.filter (· ≠ .stay)).getLast? = some (.name s) := by
    change p.moves.getLast? = _
    rw [h, List.getLast?_concat]
  rw [hlast]

/-- The last move to the temporary file beside a path, which is not the last move of the path. -/
theorem exists_moves_temporary (p : Path) (writer : Nat) :
    ∃ name, (p.temporary writer).moves = p.moves.dropLast ++ [.name name] ∧
      ∀ moves, p.moves ≠ moves ++ [.name name] := by
  let name := p.fileName?.getD "checkpoint"
  let full := s!".{name}.tmp.{writer}"
  have hlength : name.length + 6 ≤ full.length := length_temporaryName name writer
  have hne {s : String} (hs : s.length ≤ name.length + 5) : full ≠ s := by
    rintro rfl
    omega
  have hempty : full ≠ "" := hne (Nat.zero_le _)
  have hdot : full ≠ "." := hne (Nat.le_trans (by decide) (Nat.le_add_left 5 _))
  have hdots : full ≠ ".." := hne (Nat.le_trans (by decide) (Nat.le_add_left 5 _))
  refine ⟨full, ?_, fun moves h => ?_⟩
  · unfold temporary
    rw [moves_entry p.parent (not_or.2 ⟨hempty, hdot⟩), moves_parent, ofText_eq_name hdot hdots]
  · have hname : name = full := by
      dsimp only [name]
      rw [fileName?_eq_some h, Option.getD_some]
    exact hne (Nat.le_add_right _ 5) hname.symm

end Path

theorem PathStep.follow_ne {l : Location} {step : PathStep} {name : String}
    (h : step ≠ .name name) : step.follow l ≠ l ++ [name] := by
  intro heq
  cases step with
  | stay =>
    have hlength := congrArg List.length heq
    rw [PathStep.follow, List.length_append] at hlength
    exact absurd hlength (by simp)
  | up =>
    have hlength := congrArg List.length heq
    rw [PathStep.follow, List.length_append, List.length_dropLast, List.length_singleton] at hlength
    omega
  | name s =>
    obtain rfl : s = name := List.singleton_inj.1 (List.append_cancel_left heq)
    exact h rfl

namespace FileSystem

variable {fs : FileSystem} {p : Path} {l l' : Location}

theorem walk_eq_ok {steps : List PathStep} (h : fs.walk l steps = .ok l') :
    l' = (steps.filter (· ≠ .stay)).foldl PathStep.follow l := by
  induction steps generalizing l with
  | nil =>
    cases h
    rfl
  | cons step rest ih =>
    unfold walk at h
    split at h
    · cases h
    · cases h
    · cases step with
      | stay => exact ih h
      | up => exact ih h
      | name s =>
        dsimp only at h
        split at h
        · cases h
        · exact ih h

theorem locate_eq_ok (h : fs.locate p = .ok l) :
    l = p.moves.foldl PathStep.follow (if p.absolute then [] else fs.current) := by
  unfold locate at h
  split at h
  · cases h
  · split at h
    · cases h
    · exact walk_eq_ok h

/-- The temporary file beside a file is not the file. -/
theorem locate_temporary_ne {writer : Nat} (hl : fs.locate p = .ok l)
    (ht : fs.locate (p.temporary writer) = .ok l') : l ≠ l' := by
  obtain ⟨name, hmoves, hlast⟩ := p.exists_moves_temporary writer
  have habsolute : (p.temporary writer).absolute = (p.absolute && !p.moves.isEmpty) :=
    p.absolute_parent_entry _
  have hp := locate_eq_ok hl
  have htemporary := locate_eq_ok ht
  rw [hmoves, List.foldl_concat, habsolute] at htemporary
  rcases List.eq_nil_or_concat' p.moves with hnil | ⟨moves, last, hconcat⟩
  · rw [hnil] at hp htemporary
    rw [hp, htemporary]
    cases p.absolute with
    | true => exact (List.concat_ne_nil name fs.current).symm
    | false =>
      have hstay : PathStep.stay.follow fs.current ≠ fs.current ++ [name] :=
        PathStep.follow_ne nofun
      exact hstay
  · rw [hconcat, List.dropLast_concat] at htemporary
    rw [hconcat, List.foldl_concat] at hp
    have hstart : (p.absolute && !(moves ++ [last]).isEmpty) = p.absolute := by simp
    rw [hstart] at htemporary
    rw [hp, htemporary]
    refine PathStep.follow_ne ?_
    rintro rfl
    exact hlast moves hconcat

/-- Changes to the temporary file beside a file are not seen in the file. -/
theorem ChangesOnly.read_of_temporary {fs' : FileSystem} {writer : Nat}
    (h : ChangesOnly (p.temporary writer) fs fs') : fs'.read p = fs.read p :=
  h.read_eq fun _ _ hl ht => locate_temporary_ne hl ht

end FileSystem
end RelStore
