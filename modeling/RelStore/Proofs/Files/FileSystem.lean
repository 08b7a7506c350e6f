import RelStore.Files.FileSystem
import RelStore.Proofs.Except
import RelStore.Proofs.OrderedMap

/-!
What operations do to a file system. None of them makes or removes a directory, so every path
leads to where it led before; what is read at a path changes only with the file there.
-/

namespace RelStore
set_option autoImplicit false

/-- Whether an operation is on the file at a path and on nothing else. -/
def FileOp.IsOn (p : Path) : FileOp → Prop
  | .create q | .append q _ | .sync q | .remove q => q = p
  | .rename .. | .syncDirectory _ => False

namespace FileSystem

variable {fs fs' fs'' : FileSystem} {l : Location} {p : Path}

/-- Two file systems have the same directories and the same working directory. -/
structure SameDirectories (fs fs' : FileSystem) : Prop where
  current_eq : fs.current = fs'.current
  node?_iff : ∀ l, fs.node? l = some .directory ↔ fs'.node? l = some .directory

theorem SameDirectories.symm (h : SameDirectories fs fs') : SameDirectories fs' fs :=
  ⟨h.current_eq.symm, fun l => (h.node?_iff l).symm⟩

theorem SameDirectories.trans (h : SameDirectories fs fs') (h' : SameDirectories fs' fs'') :
    SameDirectories fs fs'' :=
  ⟨h.current_eq.trans h'.current_eq, fun l => (h.node?_iff l).trans (h'.node?_iff l)⟩

theorem SameDirectories.walk (h : SameDirectories fs fs') {steps : List PathStep}
    {l' : Location} (hw : fs.walk l steps = .ok l') : fs'.walk l steps = .ok l' := by
  induction steps generalizing l with
  | nil => exact hw
  | cons step rest ih =>
    unfold FileSystem.walk at hw ⊢
    cases hn : fs.node? l with
    | none =>
      rw [hn] at hw
      cases hw
    | some node =>
      rw [hn] at hw
      cases node with
      | file => cases hw
      | directory =>
        rw [(h.node?_iff l).1 hn]
        cases step with
        | stay => exact ih hw
        | up => exact ih hw
        | name s =>
          dsimp only at hw ⊢
          split at hw
          · cases hw
          · rename_i hlength
            rw [if_neg hlength]
            exact ih hw

/-- A path leads to the same place as long as the directories are the same. -/
theorem SameDirectories.locate (h : SameDirectories fs fs') (hl : fs.locate p = .ok l) :
    fs'.locate p = .ok l := by
  unfold FileSystem.locate at hl ⊢
  split at hl
  · cases hl
  · rename_i hempty
    split at hl
    · cases hl
    · rename_i hlength
      rw [if_neg hempty, if_neg hlength, ← h.current_eq]
      exact h.walk hl

theorem node?_nil (fs : FileSystem) : fs.node? [] = some .directory := rfl

theorem ne_nil_of_node? (h : fs.node? l ≠ some .directory) : l ≠ [] :=
  fun he => h (he ▸ fs.node?_nil)

theorem node?_of_ne_nil (h : l ≠ []) : fs.node? l = fs.nodes.get? l := by
  unfold node?
  rw [if_neg (by simpa using h)]

theorem node?_put {n : FileNode} (hl : l ≠ []) (k : Location) :
    (fs.put l n).node? k = if l = k then some n else fs.node? k := by
  by_cases hk : k = []
  · subst hk
    rw [if_neg hl, node?_nil, node?_nil]
  · rw [node?_of_ne_nil hk, node?_of_ne_nil hk]
    exact OrderedMap.get?_insert fs.nodes l k n

theorem node?_erase (hl : l ≠ []) (k : Location) :
    (fs.erase l).node? k = if l = k then none else fs.node? k := by
  by_cases hk : k = []
  · subst hk
    rw [if_neg hl, node?_nil, node?_nil]
  · rw [node?_of_ne_nil hk, node?_of_ne_nil hk]
    exact OrderedMap.get?_erase fs.nodes l k

theorem sameDirectories_put (h : fs.node? l ≠ some .directory) (content : ByteArray) :
    SameDirectories fs (fs.put l (.file content)) := by
  refine ⟨rfl, fun k => ?_⟩
  rw [node?_put (ne_nil_of_node? h)]
  split
  · rename_i hk
    subst hk
    exact iff_of_false h nofun
  · rfl

theorem sameDirectories_erase (h : fs.node? l ≠ some .directory) :
    SameDirectories fs (fs.erase l) := by
  refine ⟨rfl, fun k => ?_⟩
  rw [node?_erase (ne_nil_of_node? h)]
  split
  · rename_i hk
    subst hk
    exact iff_of_false h nofun
  · rfl

theorem find_eq_ok_file {content : ByteArray} :
    fs.find p = .ok (l, .file content) ↔
      fs.locate p = .ok l ∧ fs.node? l = some (.file content) ∧ p.closed = false := by
  unfold find
  rw [bind_eq_ok]
  constructor
  · rintro ⟨l', hl', h⟩
    cases hn : fs.node? l' with
    | none =>
      rw [hn] at h
      cases h
    | some node =>
      rw [hn] at h
      cases node with
      | directory => cases h
      | file before =>
        cases hc : p.closed with
        | true =>
          rw [hc] at h
          cases h
        | false =>
          rw [hc] at h
          cases h
          exact ⟨hl', hn, rfl⟩
  · rintro ⟨hl, hn, hc⟩
    refine ⟨l, hl, ?_⟩
    rw [hn, hc]
    rfl

theorem read_of_find {content : ByteArray} (h : fs.find p = .ok (l, .file content)) :
    fs.read p = .ok (some content) := by
  unfold read
  rw [h]

theorem apply_create_eq_ok (h : fs.apply (.create p) = .ok fs') :
    ∃ l, fs.locate p = .ok l ∧ fs.node? l ≠ some .directory ∧ fs' = fs.put l (.file .empty) := by
  obtain ⟨l, hl, h⟩ := bind_eq_ok.1 h
  cases hn : fs.node? l with
  | none =>
    rw [hn] at h
    cases h
    exact ⟨l, hl, hn ▸ nofun, rfl⟩
  | some node =>
    rw [hn] at h
    cases node with
    | directory => cases h
    | file content =>
      cases h
      exact ⟨l, hl, hn ▸ nofun, rfl⟩

theorem apply_append_eq_ok {content : ByteArray} (h : fs.apply (.append p content) = .ok fs') :
    ∃ l before, fs.find p = .ok (l, .file before) ∧ fs' = fs.put l (.file (before ++ content)) := by
  obtain ⟨⟨l, node⟩, hf, h⟩ := bind_eq_ok.1 h
  cases node with
  | directory => cases h
  | file before =>
    cases h
    exact ⟨l, before, hf, rfl⟩

theorem apply_sync_eq_ok (h : fs.apply (.sync p) = .ok fs') : fs' = fs := by
  obtain ⟨_, -, h⟩ := bind_eq_ok.1 h
  cases h
  rfl

theorem apply_syncDirectory_eq_ok (h : fs.apply (.syncDirectory p) = .ok fs') : fs' = fs := by
  obtain ⟨⟨l, node⟩, -, h⟩ := bind_eq_ok.1 h
  cases node with
  | directory =>
    cases h
    rfl
  | file => cases h

theorem apply_rename_eq_ok {source target : Path} (h : fs.apply (.rename source target) = .ok fs') :
    ∃ l l' content, fs.find source = .ok (l, .file content) ∧ fs.locate target = .ok l' ∧
      fs.node? l' ≠ some .directory ∧ target.closed = false ∧
      fs' = (fs.erase l).put l' (.file content) := by
  obtain ⟨⟨l, node⟩, hf, h⟩ := bind_eq_ok.1 h
  cases node with
  | directory => cases h
  | file content =>
    obtain ⟨l', hl', h⟩ := bind_eq_ok.1 h
    split at h
    · cases h
    · rename_i hn
      split at h
      · cases h
      · rename_i hc
        cases h
        exact ⟨l, l', content, hf, hl', hn, Bool.eq_false_iff.2 hc, rfl⟩

theorem apply_remove_eq_ok (h : fs.apply (.remove p) = .ok fs') :
    ∃ l content, fs.find p = .ok (l, .file content) ∧ fs' = fs.erase l := by
  obtain ⟨⟨l, node⟩, hf, h⟩ := bind_eq_ok.1 h
  cases node with
  | directory => cases h
  | file content =>
    cases h
    exact ⟨l, content, hf, rfl⟩

theorem find_of_locate_none (hl : fs.locate p = .ok l) (hn : fs.node? l = none) :
    fs.find p = .error .notFound := by
  unfold find
  rw [hl, ok_bind, hn]

/-- A file that is removed is gone. -/
theorem find_of_remove (h : fs.apply (.remove p) = .ok fs') : fs'.find p = .error .notFound := by
  obtain ⟨l, content, hf, rfl⟩ := apply_remove_eq_ok h
  obtain ⟨hl, hn, -⟩ := find_eq_ok_file.1 hf
  have hfile : fs.node? l ≠ some .directory := hn ▸ nofun
  refine find_of_locate_none ((sameDirectories_erase hfile).locate hl) ?_
  rw [node?_erase (ne_nil_of_node? hfile), if_pos rfl]

/-- From one file system to another only the file at a path may have changed, been made or been
removed. -/
structure ChangesOnly (p : Path) (fs fs' : FileSystem) : Prop where
  sameDirectories : SameDirectories fs fs'
  node?_eq : ∀ l, fs.locate p ≠ .ok l → fs'.node? l = fs.node? l

theorem ChangesOnly.refl (p : Path) (fs : FileSystem) : ChangesOnly p fs fs :=
  ⟨⟨rfl, fun _ => Iff.rfl⟩, fun _ _ => rfl⟩

theorem ChangesOnly.trans (h : ChangesOnly p fs fs') (h' : ChangesOnly p fs' fs'') :
    ChangesOnly p fs fs'' := by
  refine ⟨h.sameDirectories.trans h'.sameDirectories, fun l hl => ?_⟩
  rw [h'.node?_eq l fun hl' => hl (h.sameDirectories.symm.locate hl'), h.node?_eq l hl]

theorem changesOnly_put (hl : fs.locate p = .ok l) (hn : fs.node? l ≠ some .directory)
    (content : ByteArray) : ChangesOnly p fs (fs.put l (.file content)) := by
  refine ⟨sameDirectories_put hn content, fun k hk => ?_⟩
  rw [node?_put (ne_nil_of_node? hn), if_neg]
  rintro rfl
  exact hk hl

theorem changesOnly_erase (hl : fs.locate p = .ok l) (hn : fs.node? l ≠ some .directory) :
    ChangesOnly p fs (fs.erase l) := by
  refine ⟨sameDirectories_erase hn, fun k hk => ?_⟩
  rw [node?_erase (ne_nil_of_node? hn), if_neg]
  rintro rfl
  exact hk hl

theorem changesOnly_apply {op : FileOp} (ho : op.IsOn p) (h : fs.apply op = .ok fs') :
    ChangesOnly p fs fs' := by
  cases op with
  | create q =>
    obtain rfl : q = p := ho
    obtain ⟨l, hl, hn, rfl⟩ := apply_create_eq_ok h
    exact changesOnly_put hl hn .empty
  | append q content =>
    obtain rfl : q = p := ho
    obtain ⟨l, before, hf, rfl⟩ := apply_append_eq_ok h
    obtain ⟨hl, hn, -⟩ := find_eq_ok_file.1 hf
    exact changesOnly_put hl (hn ▸ nofun) _
  | sync q =>
    rw [apply_sync_eq_ok h]
    exact .refl p fs
  | remove q =>
    obtain rfl : q = p := ho
    obtain ⟨l, content, hf, rfl⟩ := apply_remove_eq_ok h
    obtain ⟨hl, hn, -⟩ := find_eq_ok_file.1 hf
    exact changesOnly_erase hl (hn ▸ nofun)
  | rename | syncDirectory => exact ho.elim

/-- What is read at a path is not touched by changes to a file that is elsewhere. -/
theorem ChangesOnly.read_eq (h : ChangesOnly p fs fs') {q : Path}
    (hne : ∀ l l', fs.locate q = .ok l → fs.locate p = .ok l' → l ≠ l') :
    fs'.read q = fs.read q := by
  unfold read find
  cases hl : fs.locate q with
  | ok l =>
    rw [h.sameDirectories.locate hl, ok_bind, ok_bind,
      h.node?_eq l fun hl' => hne l l hl hl' rfl]
  | error fault =>
    cases hl' : fs'.locate q with
    | ok l' => cases hl.symm.trans (h.sameDirectories.symm.locate hl')
    | error fault' => rfl

end FileSystem
end RelStore
