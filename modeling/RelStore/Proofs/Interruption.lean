import RelStore.Proofs.Answering
import RelStore.Proofs.Durability
import RelStore.Proofs.Files.Path

/-!
Replacing a file on a disk that may fail or stop at any operation. Until the renaming, only the
temporary file is touched, and that is not the file itself; the renaming is done as a whole or not at
all. So the file has its old content or the new one, whatever becomes of the operations; and of a
database on such a disk nothing has to be assumed about the saves that fail.
-/

namespace RelStore
set_option autoImplicit false
set_option maxRecDepth 4096

/-- What becomes of an operation. If it fails, or the disk stops at it, some of it may have been
done. -/
inductive Fate where
  | performed
  | failed (part : Nat) (fault : FileFault)
  | stopped (part : Nat)
deriving DecidableEq

/-- The part of an operation that is done, if any: a file that is opened for writing has been made,
or of what is to be written the first bytes have been. All else is done as a whole or not at all. -/
def FileOp.part? : Nat → FileOp → Option FileOp
  | 0, _ => none
  | _ + 1, .create p => some (.create p)
  | n + 1, .append p content => some (.append p (content.extract 0 (n + 1)))
  | _ + 1, _ => none

def FileSystem.applyPart (fs : FileSystem) (part : Nat) (op : FileOp) : FileSystem :=
  match op.part? part with
  | some op' => (fs.apply op').toOption.getD fs
  | none => fs

/-- A disk on trial, with what becomes of the operations to come; after these all are performed.
A disk that has stopped does nothing more, so that what a program does from then on is lost. -/
structure Trial where
  files : FileSystem
  fates : List Fate
  stopped : Bool
  /-- The operations that were tried, each with whether it was performed. -/
  log : List (FileOp × Bool)

namespace Trial

def start (files : FileSystem) (fates : List Fate) : Trial :=
  ⟨files, fates, false, []⟩

/-- An operation is tried and is not performed, except for a part of it. -/
def miss (t : Trial) (op : FileOp) (part : Nat) : Trial :=
  { t with
    files := t.files.applyPart part op, fates := t.fates.tail, log := t.log ++ [(op, false)] }

/-- That the disk has stopped. -/
def noDisk : FileFault := .system "No such device (os error 19)"

def perform (t : Trial) (op : FileOp) : Except FileFault Unit × Trial :=
  if t.stopped then
    (.error noDisk, t)
  else
    match t.fates.head?.getD .performed with
    | .performed =>
      match t.files.apply op with
      | .ok files => (.ok (), { t with files, fates := t.fates.tail, log := t.log ++ [(op, true)] })
      | .error fault => (.error fault, t.miss op 0)
    | .failed part fault => (.error fault, t.miss op part)
    | .stopped part => (.error noDisk, { t.miss op part with stopped := true })

instance : Disk (StateM Trial) where
  read p := fun t => (t.files.read p, t)
  perform op := fun t => t.perform op

theorem perform_apply (op : FileOp) (t : Trial) :
    Disk.perform (m := StateM Trial) op t = t.perform op := rfl

/-- What can become of one operation: it is performed, or it is tried and not performed except for a
part of it, or the disk has stopped before. -/
inductive Tried (t : Trial) (op : FileOp) : Except FileFault Unit → Trial → Prop where
  | performed {t' : Trial} (ha : t.files.apply op = .ok t'.files)
      (hl : t'.log = t.log ++ [(op, true)]) : Tried t op (.ok ()) t'
  | missed {t' : Trial} {fault : FileFault} {part : Nat}
      (ha : t'.files = t.files.applyPart part op) (hl : t'.log = t.log ++ [(op, false)]) :
    Tried t op (.error fault) t'
  | lost (hs : t.stopped = true) : Tried t op (.error noDisk) t

theorem tried_miss (t : Trial) (op : FileOp) (part : Nat) (fault : FileFault) :
    Tried t op (.error fault) (t.miss op part) :=
  .missed rfl rfl

theorem tried_perform (t : Trial) (op : FileOp) : Tried t op (t.perform op).1 (t.perform op).2 := by
  unfold perform
  split
  · rename_i hs
    exact .lost hs
  · split
    · split
      · rename_i files ha
        exact .performed ha rfl
      · exact tried_miss t op 0 _
    · exact tried_miss t op _ _
    · exact .missed rfl rfl

end Trial

theorem FileSystem.changesOnly_applyPart {p : Path} {op : FileOp} (ho : op.IsOn p)
    (fs : FileSystem) (part : Nat) : ChangesOnly p fs (fs.applyPart part op) := by
  unfold applyPart
  cases hp : op.part? part with
  | none => exact .refl p fs
  | some op' =>
    have ho' : op'.IsOn p := by
      unfold FileOp.part? at hp
      split at hp
      · cases hp
      · cases hp
        exact ho
      · cases hp
        exact ho
      · cases hp
    dsimp only
    cases ha : fs.apply op' with
    | error fault => exact .refl p fs
    | ok fs' => exact changesOnly_apply ho' ha

/-- A renaming has no parts. -/
theorem FileSystem.applyPart_rename (fs : FileSystem) (part : Nat) (source target : Path) :
    fs.applyPart part (.rename source target) = fs := by
  cases part <;> rfl

theorem FileSystem.applyPart_syncDirectory (fs : FileSystem) (part : Nat) (p : Path) :
    fs.applyPart part (.syncDirectory p) = fs := by
  cases part <;> rfl

namespace Trial

open FileSystem

variable {t t' : Trial} {op : FileOp} {result : Except FileFault Unit}

theorem honest : Disk.Honest Trial.files where
  of_read h := by
    obtain ⟨hread, rfl⟩ := Prod.mk.inj h
    exact ⟨hread, rfl⟩
  of_perform {op w w'} h := by
    have htried := tried_perform w op
    change w.perform op = (.ok (), w') at h
    rw [h] at htried
    cases htried with
    | performed ha hl => exact ha

theorem Tried.changesOnly {p : Path} (h : Tried t op result t') (ho : op.IsOn p) :
    ChangesOnly p t.files t'.files := by
  cases h with
  | performed ha hl => exact changesOnly_apply ho ha
  | missed ha hl =>
    rw [ha]
    exact changesOnly_applyPart ho _ _
  | lost hs => exact .refl p _

theorem Tried.mem_log (h : Tried t op result t') {e : FileOp × Bool} (he : e ∈ t'.log) :
    e ∈ t.log ∨ e.1 = op := by
  cases h with
  | performed ha hl | missed ha hl =>
    rw [hl] at he
    rcases List.mem_append.1 he with he | he
    · exact .inl he
    · rw [List.mem_singleton.1 he]
      exact .inr rfl
  | lost hs => exact .inl he

theorem Tried.log_subset (h : Tried t op result t') : t.log ⊆ t'.log := by
  cases h with
  | performed ha hl | missed ha hl =>
    rw [hl]
    exact List.subset_append_left _ _
  | lost hs => exact List.Subset.refl _

/-- Operations on one file, as far as they get. -/
theorem performAll_on {p : Path} {ops : List FileOp} (ho : ∀ op ∈ ops, op.IsOn p)
    (h : performAll (m := StateM Trial) ops t = (result, t')) :
    ChangesOnly p t.files t'.files ∧ ∀ e ∈ t'.log, e ∈ t.log ∨ e.1 ∈ ops := by
  induction ops generalizing t with
  | nil =>
    cases h
    exact ⟨.refl p _, fun e he => .inl he⟩
  | cons op ops ih =>
    have htried := tried_perform t op
    have hhead := htried.changesOnly (ho op List.mem_cons_self)
    have hlog : ∀ e ∈ (t.perform op).2.log, e ∈ t.log ∨ e.1 ∈ op :: ops := fun e he =>
      (htried.mem_log he).imp_right fun heq => List.mem_cons.2 (.inl heq)
    rw [performAll_cons_apply, perform_apply] at h
    generalize t.perform op = head at h hhead hlog
    obtain ⟨fault | _, t₁⟩ := head
    · cases h
      exact ⟨hhead, hlog⟩
    · obtain ⟨hrest, hlog'⟩ := ih (fun op' hop' => ho op' (List.mem_cons_of_mem op hop')) h
      refine ⟨hhead.trans hrest, fun e he => ?_⟩
      rcases hlog' e he with he | he
      · exact hlog e he
      · exact .inr (List.mem_cons_of_mem op he)

/-- How far the replacement of a file has come: its temporary file has become the file, or nothing
but the temporary file was touched. -/
inductive Replaced (target temporary : Path) (content : ByteArray) (t : Trial) :
    Except FileFault Unit → Trial → Prop where
  | renamed {t' : Trial} (hread : t'.files.read target = .ok (some content))
      (hfind : t'.files.find temporary = .error .notFound)
      (hlog : (.rename temporary target, true) ∈ t'.log) :
    Replaced target temporary content t (.ok ()) t'
  | untouched {t' : Trial} {fault : FileFault} (hc : ChangesOnly temporary t.files t'.files)
      (hlog : ∀ e ∈ t'.log, e ∈ t.log ∨ e ≠ (.rename temporary target, true) ∧
        e.1 ≠ .remove temporary) :
    Replaced target temporary content t (.error fault) t'

theorem replaced_replacement {target : Path} {writer : Nat} {content : ByteArray} {sync : Bool}
    (h : performAll (m := StateM Trial)
      (replacement target (target.temporary writer) content sync) t = (result, t')) :
    Replaced target (target.temporary writer) content t result t' := by
  generalize htemporary : target.temporary writer = temporary at h
  rw [replacement_eq, performAll_append_apply] at h
  rcases hw : performAll (m := StateM Trial) (writing temporary content sync) t with ⟨written, t₁⟩
  obtain ⟨hchanges, hlog⟩ := performAll_on (fun _ hop => isOn_of_mem_writing hop) hw
  have hwriting {e : FileOp × Bool} (he : e ∈ t₁.log) : e ∈ t.log ∨
      e ≠ (.rename temporary target, true) ∧ e.1 ≠ .remove temporary := by
    refine (hlog e he).imp_right fun hop => ?_
    obtain ⟨hrename, hremove⟩ := ne_of_mem_writing hop target
    exact ⟨fun heq => hrename (congrArg Prod.fst heq), hremove⟩
  rw [hw] at h
  cases written with
  | error fault =>
    cases h
    exact .untouched hchanges fun e he => hwriting he
  | ok _ =>
    have htried := tried_perform t₁ (.rename temporary target)
    have hrename : t₁.perform (.rename temporary target) = (result, t') :=
      (performAll_singleton_apply _ t₁).symm.trans h
    rw [hrename] at htried
    cases htried with
    | performed ha hl =>
      obtain ⟨l, hfind⟩ := find_of_writing (honest.performAll_eq_ok hw)
      obtain ⟨hl', -, -⟩ := find_eq_ok_file.1 hfind
      -- the temporary file is elsewhere, so it is not there again after the renaming
      have hne : t₁.files.locate target ≠ .ok l :=
        fun htarget => locate_temporary_ne htarget (htemporary ▸ hl') rfl
      refine .renamed (read_of_rename hfind ha) (find_of_rename hfind hne ha) ?_
      rw [hl]
      exact List.mem_concat_self
    | missed ha hl =>
      rw [applyPart_rename] at ha
      refine .untouched (ha ▸ hchanges) fun e he => ?_
      rw [hl] at he
      rcases List.mem_append.1 he with he | he
      · exact hwriting he
      · rw [List.mem_singleton.1 he]
        exact .inr ⟨nofun, nofun⟩
    | lost hs => exact .untouched hchanges fun e he => hwriting he

theorem Tried.files_of_syncDirectory {p : Path} (h : Tried t (.syncDirectory p) result t') :
    t'.files = t.files := by
  cases h with
  | performed ha hl => exact apply_syncDirectory_eq_ok ha
  | missed ha hl =>
    rw [applyPart_syncDirectory] at ha
    exact ha
  | lost hs => rfl

/-- The temporary file has become the file, and may have failed to be kept so; or a fault is
reported, nothing but the temporary file was touched, and its removal was tried. -/
theorem replaceFile_cases {target : Path} {writer : Nat} {content : ByteArray} {sync : Bool}
    (h : replaceFile (m := StateM Trial) target writer content sync t = (result, t')) :
    (t'.files.read target = .ok (some content) ∧
      t'.files.find (target.temporary writer) = .error .notFound ∧
      (.rename (target.temporary writer) target, true) ∈ t'.log) ∨
    ∃ fault, result = .error fault ∧ ChangesOnly (target.temporary writer) t.files t'.files ∧
      (∀ e ∈ t'.log, e ∈ t.log ∨ e ≠ (.rename (target.temporary writer) target, true)) ∧
      (t'.stopped = true ∨ ∃ done, (.remove (target.temporary writer), done) ∈ t'.log ∧
        (done = true → t'.files.find (target.temporary writer) = .error .notFound)) := by
  rw [replaceFile_apply] at h
  rcases hr : performAll (m := StateM Trial)
    (replacement target (target.temporary writer) content sync) t with ⟨replaced, t₁⟩
  have hreplaced := replaced_replacement hr
  rw [hr] at h
  cases hreplaced with
  | renamed hread hfind hlog =>
    left
    cases sync with
    | false =>
      cases h
      exact ⟨hread, hfind, hlog⟩
    | true =>
      have htried := tried_perform t₁ (.syncDirectory target.parent)
      have hsynced : t₁.perform (.syncDirectory target.parent) = (result, t') := h
      rw [hsynced] at htried
      rw [htried.files_of_syncDirectory]
      exact ⟨hread, hfind, htried.log_subset hlog⟩
  | @untouched _ fault hchanges hlog =>
    right
    obtain ⟨rfl, hremoved⟩ := Prod.mk.inj h
    have htried := tried_perform t₁ (.remove (target.temporary writer))
    rw [perform_apply] at hremoved
    rw [hremoved] at htried
    generalize (t₁.perform (.remove (target.temporary writer))).1 = removed at htried
    refine ⟨fault, rfl, hchanges.trans (htried.changesOnly rfl), fun e he => ?_, ?_⟩
    · rcases htried.mem_log he with he | he
      · exact (hlog e he).imp_right And.left
      · right
        rintro rfl
        cases he
    · cases htried with
      | performed ha hl =>
        exact .inr ⟨true, hl ▸ List.mem_concat_self, fun _ => find_of_remove ha⟩
      | missed ha hl =>
        exact .inr ⟨false, hl ▸ List.mem_concat_self, nofun⟩
      | lost hs => exact .inl hs

/-- Whatever becomes of the operations, and wherever the disk stops: at the path there is what was
read there before, until the renaming was performed, and from then on the new content, as a whole.
The replacement does not succeed without the renaming. When the renaming was performed there is no
temporary file; and when a fault is reported and it was not, the removal of the temporary file has
been tried, and if it was performed there is no temporary file either. -/
theorem replaceFile_atomic (files : FileSystem) (fates : List Fate) (target : Path) (writer : Nat)
    (content : ByteArray) (sync : Bool) :
    let temporary := target.temporary writer
    let renamed := (FileOp.rename temporary target, true)
    let outcome := replaceFile (m := StateM Trial) target writer content sync (.start files fates)
    outcome.2.files.read target =
      (if renamed ∈ outcome.2.log then .ok (some content) else files.read target) ∧
    (outcome.1 = .ok () → renamed ∈ outcome.2.log) ∧
    (renamed ∈ outcome.2.log → outcome.2.files.find temporary = .error .notFound) ∧
    ∀ fault, outcome.1 = .error fault → renamed ∉ outcome.2.log → outcome.2.stopped = false →
      ∃ done, (.remove temporary, done) ∈ outcome.2.log ∧
        (done = true → outcome.2.files.find temporary = .error .notFound) := by
  intro temporary renamed outcome
  have hrun : replaceFile (m := StateM Trial) target writer content sync (.start files fates) =
      (outcome.1, outcome.2) := rfl
  rcases replaceFile_cases hrun with
    ⟨hread, hfind, hlog⟩ | ⟨fault, hresult, hchanges, hlog, hremoved⟩
  · rw [if_pos hlog]
    exact ⟨hread, fun _ => hlog, fun _ => hfind, fun _ _ hnot => absurd hlog hnot⟩
  · have hnot : renamed ∉ outcome.2.log := fun hmem => (hlog _ hmem).elim nofun (· rfl)
    rw [if_neg hnot]
    refine ⟨hchanges.read_of_temporary, fun hok => ?_, fun hmem => absurd hmem hnot,
      fun _ _ _ hs => ?_⟩
    · cases hresult.symm.trans hok
    · exact hremoved.resolve_left fun hstopped => nomatch hs.symm.trans hstopped

/-- The disk is full when one byte of the new content has been written. -/
theorem replaceFile_atomic_of_full_disk :
    let files : FileSystem := ⟨.ofList [(["db"], .file "old".toUTF8)], []⟩
    let full : FileFault := .system "No space left on device (os error 28)"
    let outcome := replaceFile (m := StateM Trial) ⟨["db"]⟩ 0 "new".toUTF8 true
      (.start files [.performed, .failed 1 full])
    outcome.1 = .error full ∧ outcome.2.files.read ⟨["db"]⟩ = .ok (some "old".toUTF8) ∧
      outcome.2.files.find (Path.temporary ⟨["db"]⟩ 0) = .error .notFound := by
  intro files full outcome
  have hresult : (outcome.1, outcome.2.stopped) = (.error full, false) := by
    dsimp only [outcome, files, full]
    cbv
  have hlog : outcome.2.log = [(.create ⟨[".", ".db.tmp.0"]⟩, true),
      (.append ⟨[".", ".db.tmp.0"]⟩ "new".toUTF8, false),
      (.remove ⟨[".", ".db.tmp.0"]⟩, true)] := by
    dsimp only [outcome, files, full]
    cbv
  have hold : files.read ⟨["db"]⟩ = .ok (some "old".toUTF8) := by cbv
  obtain ⟨hfault, hstopped⟩ := Prod.mk.inj hresult
  obtain ⟨hread, -, -, hremoved⟩ :=
    replaceFile_atomic files [.performed, .failed 1 full] ⟨["db"]⟩ 0 "new".toUTF8 true
  have hnot : (FileOp.rename (Path.temporary ⟨["db"]⟩ 0) ⟨["db"]⟩, true) ∉ outcome.2.log := by
    rw [hlog]
    simp
  obtain ⟨done, hdone, hgone⟩ := hremoved full hfault hnot hstopped
  have hperformed : done = true := by
    change _ ∈ outcome.2.log at hdone
    simp only [hlog, List.mem_cons, Prod.mk.injEq, reduceCtorEq, false_and, false_or,
      List.not_mem_nil, or_false] at hdone
    exact hdone.2
  exact ⟨hfault, (hread.trans (if_neg hnot)).trans hold, hgone hperformed⟩

end Trial

/-- A save on a disk on trial, whatever it comes to, leaves the old checkpoint or the new one. -/
theorem Store.keeps_of_save (s : Store) {c : Catalog} {t t' : Trial}
    {result : Except FileFault Unit} (h : s.save (m := StateM Trial) c t = (result, t')) :
    s.Keeps t.files t'.files c := by
  rcases Trial.replaceFile_cases h with ⟨hread, -, -⟩ | ⟨fault, -, hchanges, -, -⟩
  · exact .inr hread
  · exact .inl (hchanges.read_of_temporary)

namespace Database

/-- On a disk on trial the execution of a text is a step of a run, with nothing assumed of saves
that fail. -/
theorem step_execute (s : Store) (t : Trial) (db : Database) (text : String) :
    Step s Trial.files (t, db)
      (.executed text (db.execute (m := StateM Trial) s.save text t).1.1)
      ((db.execute (m := StateM Trial) s.save text t).2,
        (db.execute (m := StateM Trial) s.save text t).1.2) := by
  refine .executed rfl fun fault hfault => ?_
  rcases hx : db.execute (m := StateM Trial) s.save text t with ⟨⟨answer, db'⟩, t'⟩
  rw [hx] at hfault
  obtain rfl : answer = .error (.save fault) := hfault
  cases execute_eq_error_iff.1 hx with
  | unsaved hh hp hr hm hs => exact s.keeps_of_save hs

theorem step_checkpoint (s : Store) (t : Trial) (db : Database) :
    Step s Trial.files (t, db)
      (.checkpointed (db.checkpoint (m := StateM Trial) s.save t).1.1)
      ((db.checkpoint (m := StateM Trial) s.save t).2,
        (db.checkpoint (m := StateM Trial) s.save t).1.2) := by
  refine .checkpointed rfl fun fault hfault => ?_
  rcases hx : db.checkpoint (m := StateM Trial) s.save t with ⟨⟨result, db'⟩, t'⟩
  rcases checkpoint_eq hx with ⟨hs, -, rfl⟩ | ⟨fault, hs, -, rfl⟩
  · exact s.keeps_of_save hs
  · exact s.keeps_of_save hs

end Database
end RelStore
