import RelStore.Files.Replace
import RelStore.Proofs.Execution
import RelStore.Proofs.Files.FileSystem

/-!
A replaced file holds the new content. The temporary file is found where it was made, since no
operation on the way touches a directory, and the renaming puts its content where the target is
found.
-/

namespace RelStore
set_option autoImplicit false

open FileSystem

variable {fs fs' : FileSystem}

theorem perform_eq_ok {op : FileOp} :
    Disk.perform (m := StateM FileSystem) op fs = (.ok (), fs') ↔ fs.apply op = .ok fs' := by
  simp only [Disk.perform]
  cases fs.apply op with
  | ok fs₁ =>
    constructor
    · intro h
      cases h
      rfl
    · intro h
      cases h
      rfl
  | error fault =>
    constructor
    · intro h
      cases h
    · intro h
      cases h

section Apply

variable {σ : Type} [Disk (StateM σ)]

theorem performAll_cons_apply (op : FileOp) (ops : List FileOp) (w : σ) :
    performAll (m := StateM σ) (op :: ops) w =
      match Disk.perform (m := StateM σ) op w with
      | (.ok (), w') => performAll (m := StateM σ) ops w'
      | (.error fault, w') => (.error fault, w') := by
  rw [performAll, Database.bind_apply]
  rcases Disk.perform (m := StateM σ) op w with ⟨fault | _, w'⟩ <;> rfl

theorem performAll_append_apply (ops ops' : List FileOp) (w : σ) :
    performAll (m := StateM σ) (ops ++ ops') w =
      match performAll (m := StateM σ) ops w with
      | (.ok (), w') => performAll (m := StateM σ) ops' w'
      | (.error fault, w') => (.error fault, w') := by
  induction ops generalizing w with
  | nil => rfl
  | cons op ops ih =>
    rw [List.cons_append, performAll_cons_apply, performAll_cons_apply]
    rcases Disk.perform (m := StateM σ) op w with ⟨fault | _, w'⟩
    · rfl
    · exact ih w'

theorem performAll_singleton_apply (op : FileOp) (w : σ) :
    performAll (m := StateM σ) [op] w = Disk.perform (m := StateM σ) op w := by
  rw [performAll_cons_apply]
  rcases Disk.perform (m := StateM σ) op w with ⟨fault | _, w'⟩ <;> rfl

theorem replaceFile_apply (target : Path) (writer : Nat) (content : ByteArray) (sync : Bool)
    (w : σ) :
    replaceFile (m := StateM σ) target writer content sync w =
      match performAll (m := StateM σ)
        (replacement target (target.temporary writer) content sync) w with
      | (.ok (), w') =>
        if sync then Disk.perform (m := StateM σ) (.syncDirectory target.parent) w' else (.ok (), w')
      | (.error fault, w') =>
        (.error fault, (Disk.perform (m := StateM σ) (.remove (target.temporary writer)) w').2) := by
  unfold replaceFile
  rw [Database.bind_apply]
  rcases performAll (m := StateM σ) (replacement target (target.temporary writer) content sync) w
    with ⟨fault | _, w'⟩
  · rfl
  · cases sync <;> rfl

end Apply

theorem performAll_cons_eq_ok {op : FileOp} {ops : List FileOp} :
    performAll (m := StateM FileSystem) (op :: ops) fs = (.ok (), fs') ↔
      ∃ fs₁, fs.apply op = .ok fs₁ ∧ performAll (m := StateM FileSystem) ops fs₁ = (.ok (), fs') := by
  rw [performAll_cons_apply]
  rcases hp : Disk.perform (m := StateM FileSystem) op fs with ⟨fault | _, fs₁⟩
  · constructor
    · intro h
      cases h
    · rintro ⟨fs₂, ha, -⟩
      cases hp.symm.trans (perform_eq_ok.2 ha)
  · constructor
    · exact fun h => ⟨fs₁, perform_eq_ok.1 hp, h⟩
    · rintro ⟨fs₂, ha, h⟩
      cases hp.symm.trans (perform_eq_ok.2 ha)
      exact h

theorem performAll_append_eq_ok {ops ops' : List FileOp} :
    performAll (m := StateM FileSystem) (ops ++ ops') fs = (.ok (), fs') ↔
      ∃ fs₁, performAll (m := StateM FileSystem) ops fs = (.ok (), fs₁) ∧
        performAll (m := StateM FileSystem) ops' fs₁ = (.ok (), fs') := by
  induction ops generalizing fs with
  | nil => exact ⟨fun h => ⟨fs, rfl, h⟩, fun ⟨_, h, h'⟩ => by cases h; exact h'⟩
  | cons op ops ih =>
    simp only [List.cons_append, performAll_cons_eq_ok, ih]
    constructor
    · rintro ⟨fs₁, ha, fs₂, h, h'⟩
      exact ⟨fs₂, ⟨fs₁, ha, h⟩, h'⟩
    · rintro ⟨fs₂, ⟨fs₁, ha, h⟩, h'⟩
      exact ⟨fs₁, ha, fs₂, h, h'⟩

theorem performAll_singleton_eq_ok {op : FileOp} :
    performAll (m := StateM FileSystem) [op] fs = (.ok (), fs') ↔ fs.apply op = .ok fs' := by
  rw [performAll_cons_eq_ok]
  exact ⟨fun ⟨_, ha, h⟩ => by cases h; exact ha, fun ha => ⟨fs', ha, rfl⟩⟩

/-- A file that is opened for writing and written to holds what was written. -/
theorem find_of_create_append {p : Path} {content : ByteArray}
    (h : performAll (m := StateM FileSystem) [.create p, .append p content] fs = (.ok (), fs')) :
    ∃ l, fs'.find p = .ok (l, .file content) := by
  obtain ⟨fs₁, hcreate, happend⟩ := performAll_cons_eq_ok.1 h
  obtain ⟨l, hl, hn, rfl⟩ := apply_create_eq_ok hcreate
  obtain ⟨l', before, hfind, rfl⟩ := apply_append_eq_ok (performAll_singleton_eq_ok.1 happend)
  obtain ⟨hl', hbefore, hclosed⟩ := find_eq_ok_file.1 hfind
  have hsame := sameDirectories_put hn .empty
  have hne := ne_nil_of_node? hn
  cases (hsame.locate hl).symm.trans hl'
  rw [node?_put hne, if_pos rfl] at hbefore
  cases hbefore
  have hn' : (fs.put l (.file .empty)).node? l ≠ some .directory := by
    rw [node?_put hne, if_pos rfl]
    nofun
  refine ⟨l, find_eq_ok_file.2 ⟨(sameDirectories_put hn' _).locate hl', ?_, hclosed⟩⟩
  rw [node?_put hne, if_pos rfl, ByteArray.empty_append]

/-- A renaming moves no directory: the file is at its new place and no longer at its old one. -/
theorem node?_of_rename {source target : Path} {l : Location} {content : ByteArray}
    (hf : fs.find source = .ok (l, .file content))
    (h : fs.apply (.rename source target) = .ok fs') :
    ∃ l', fs.locate target = .ok l' ∧ target.closed = false ∧ SameDirectories fs fs' ∧
      ∀ k, fs'.node? k =
        if l' = k then some (.file content) else if l = k then none else fs.node? k := by
  obtain ⟨l₁, l', content', hf', hl', hn', hclosed, rfl⟩ := apply_rename_eq_ok h
  cases hf.symm.trans hf'
  obtain ⟨-, hn, -⟩ := find_eq_ok_file.1 hf
  have hfile : fs.node? l ≠ some .directory := hn ▸ nofun
  have herase := sameDirectories_erase hfile
  have hn'' : (fs.erase l).node? l' ≠ some .directory := fun he => hn' ((herase.node?_iff l').2 he)
  refine ⟨l', hl', hclosed, herase.trans (sameDirectories_put hn'' content), fun k => ?_⟩
  rw [node?_put (ne_nil_of_node? hn''), node?_erase (ne_nil_of_node? hfile)]

/-- A file that is renamed is read under its new name. -/
theorem read_of_rename {source target : Path} {l : Location} {content : ByteArray}
    (hf : fs.find source = .ok (l, .file content))
    (h : fs.apply (.rename source target) = .ok fs') : fs'.read target = .ok (some content) := by
  obtain ⟨l', hl', hclosed, hsame, hnode⟩ := node?_of_rename hf h
  refine read_of_find (find_eq_ok_file.2 ⟨hsame.locate hl', ?_, hclosed⟩)
  rw [hnode, if_pos rfl]

/-- A file that is renamed to another place is gone from its old one. -/
theorem find_of_rename {source target : Path} {l : Location} {content : ByteArray}
    (hf : fs.find source = .ok (l, .file content)) (hne : fs.locate target ≠ .ok l)
    (h : fs.apply (.rename source target) = .ok fs') : fs'.find source = .error .notFound := by
  obtain ⟨l', hl', -, hsame, hnode⟩ := node?_of_rename hf h
  obtain ⟨hl, -, -⟩ := find_eq_ok_file.1 hf
  refine find_of_locate_none (hsame.locate hl) ?_
  rw [hnode, if_neg, if_pos rfl]
  rintro rfl
  exact hne hl'

/-- The operations of a replacement before the renaming; they are all on the temporary file. -/
def writing (temporary : Path) (content : ByteArray) (sync : Bool) : List FileOp :=
  [.create temporary, .append temporary content] ++ if sync then [.sync temporary] else []

theorem replacement_eq (target temporary : Path) (content : ByteArray) (sync : Bool) :
    replacement target temporary content sync =
      writing temporary content sync ++ [.rename temporary target] := rfl

theorem mem_writing {temporary : Path} {content : ByteArray} {sync : Bool} {op : FileOp}
    (h : op ∈ writing temporary content sync) :
    op = .create temporary ∨ op = .append temporary content ∨ op = .sync temporary := by
  unfold writing at h
  cases sync with
  | true => simpa using h
  | false => exact (by simpa using h : _ ∨ _).imp_right .inl

theorem isOn_of_mem_writing {temporary : Path} {content : ByteArray} {sync : Bool} {op : FileOp}
    (h : op ∈ writing temporary content sync) : op.IsOn temporary := by
  rcases mem_writing h with rfl | rfl | rfl <;> rfl

theorem ne_of_mem_writing {temporary : Path} {content : ByteArray} {sync : Bool} {op : FileOp}
    (h : op ∈ writing temporary content sync) (target : Path) :
    op ≠ .rename temporary target ∧ op ≠ .remove temporary := by
  rcases mem_writing h with rfl | rfl | rfl <;> exact ⟨nofun, nofun⟩

/-- A temporary file that was written, and synced if that was asked for, holds what was written. -/
theorem find_of_writing {p : Path} {content : ByteArray} {sync : Bool}
    (h : performAll (m := StateM FileSystem) (writing p content sync) fs = (.ok (), fs')) :
    ∃ l, fs'.find p = .ok (l, .file content) := by
  obtain ⟨fs₁, hwritten, hsynced⟩ := performAll_append_eq_ok.1 h
  have hsame : fs' = fs₁ := by
    cases sync with
    | true => exact apply_sync_eq_ok (performAll_singleton_eq_ok.1 hsynced)
    | false =>
      cases hsynced
      rfl
  rw [hsame]
  exact find_of_create_append hwritten

theorem read_of_replacement {target temporary : Path} {content : ByteArray} {sync : Bool}
    (h : performAll (m := StateM FileSystem) (replacement target temporary content sync) fs =
      (.ok (), fs')) : fs'.read target = .ok (some content) := by
  rw [replacement_eq] at h
  obtain ⟨fs₁, hwritten, hrenamed⟩ := performAll_append_eq_ok.1 h
  obtain ⟨l, hfind⟩ := find_of_writing hwritten
  exact read_of_rename hfind (performAll_singleton_eq_ok.1 hrenamed)

/-- A disk whose files can be seen as a file system. What is read without a fault is what is there,
and an operation that succeeds does what it does to a file system. Of one that fails nothing is
said. -/
structure Disk.Honest {σ : Type} [Disk (StateM σ)] (files : σ → FileSystem) : Prop where
  of_read {p : Path} {w w' : σ} {content : Option ByteArray}
    (h : Disk.read (m := StateM σ) p w = (.ok content, w')) :
    (files w).read p = .ok content ∧ files w' = files w
  of_perform {op : FileOp} {w w' : σ}
    (h : Disk.perform (m := StateM σ) op w = (.ok (), w')) :
    (files w).apply op = .ok (files w')

/-- A file system held in memory. -/
theorem Disk.honest_fileSystem : Disk.Honest (id : FileSystem → FileSystem) where
  of_read h := by
    obtain ⟨hread, rfl⟩ := Prod.mk.inj h
    exact ⟨hread, rfl⟩
  of_perform h := perform_eq_ok.1 h

section Honest

variable {σ : Type} [Disk (StateM σ)] {files : σ → FileSystem} {w w' : σ}

theorem Disk.Honest.performAll_eq_ok (hd : Disk.Honest files) {ops : List FileOp}
    (h : performAll (m := StateM σ) ops w = (.ok (), w')) :
    performAll (m := StateM FileSystem) ops (files w) = (.ok (), files w') := by
  induction ops generalizing w with
  | nil =>
    cases h
    rfl
  | cons op ops ih =>
    rw [performAll_cons_apply] at h
    rcases hp : Disk.perform (m := StateM σ) op w with ⟨fault | _, w₁⟩
    · rw [hp] at h
      cases h
    · rw [hp] at h
      exact performAll_cons_eq_ok.2 ⟨files w₁, hd.of_perform hp, ih h⟩

/-- A file that was replaced on a disk holds the new content. -/
theorem Disk.Honest.read_of_replaceFile (hd : Disk.Honest files) {target : Path} {writer : Nat}
    {content : ByteArray} {sync : Bool}
    (h : replaceFile (m := StateM σ) target writer content sync w = (.ok (), w')) :
    (files w').read target = .ok (some content) := by
  rw [replaceFile_apply] at h
  rcases hr : performAll (m := StateM σ)
    (replacement target (target.temporary writer) content sync) w with ⟨fault | _, w₁⟩
  · rw [hr] at h
    cases h
  · rw [hr] at h
    have hread := read_of_replacement (hd.performAll_eq_ok hr)
    cases sync with
    | true =>
      rw [apply_syncDirectory_eq_ok (hd.of_perform h)]
      exact hread
    | false =>
      cases h
      exact hread

end Honest

theorem read_of_replaceFile {target : Path} {writer : Nat} {content : ByteArray} {sync : Bool}
    (h : replaceFile (m := StateM FileSystem) target writer content sync fs = (.ok (), fs')) :
    fs'.read target = .ok (some content) :=
  Disk.honest_fileSystem.read_of_replaceFile h

end RelStore
