import RelStore.Proofs.Refinement.Run
import RelStore.Proofs.Store

/-!
What is stored, against what is in memory. A database that is not halted has the tables that would
be loaded. A halted one has these tables, or these tables with the statement carried out on them
whose save failed, and it refuses all further ones until a save succeeds or what is stored is opened
again. Any operation of the disk may fail, whenever it likes; a save that failed must not have
spoilt what was stored before it.
-/

namespace RelStore
set_option autoImplicit false
set_option maxRecDepth 4096

section Save

variable {σ : Type} [Disk (StateM σ)] {files : σ → FileSystem} {s : Store} {w w' : σ}

namespace Store

/-- What a reading of the checkpoint is loaded as. -/
def loaded : Except FileFault (Option ByteArray) → Except LoadFault Catalog
  | .error fault => .error (.file fault)
  | .ok none => .ok .empty
  | .ok (some content) => decode content

theorem load_apply (s : Store) (fs : FileSystem) :
    s.load (m := StateM FileSystem) fs = (loaded (fs.read s.path), fs) := by
  have hread : Disk.read (m := StateM FileSystem) s.path fs = (fs.read s.path, fs) := rfl
  unfold load
  rw [Database.bind_apply, hread]
  rcases fs.read s.path with fault | _ | content <;> rfl

/-- On a file system, the tables that would be loaded. -/
def Holds (s : Store) (fs : FileSystem) (c : Catalog) : Prop :=
  s.load (m := StateM FileSystem) fs = (.ok c, fs)

theorem holds_iff {fs : FileSystem} {c : Catalog} :
    s.Holds fs c ↔ loaded (fs.read s.path) = .ok c := by
  unfold Holds
  rw [load_apply, Prod.mk.injEq]
  exact and_iff_left rfl

theorem holds_of_load (hd : Disk.Honest files) {c : Catalog}
    (h : s.load (m := StateM σ) w = (.ok c, w')) : s.Holds (files w) c ∧ files w' = files w := by
  rw [holds_iff]
  rcases load_eq_ok h with ⟨hread, rfl⟩ | ⟨content, hread, hc⟩
  · obtain ⟨hfs, hsame⟩ := hd.of_read hread
    rw [hfs]
    exact ⟨rfl, hsame⟩
  · obtain ⟨hfs, hsame⟩ := hd.of_read hread
    rw [hfs]
    exact ⟨hc, hsame⟩

theorem Holds.unique {fs : FileSystem} {c c' : Catalog} (h : s.Holds fs c) (h' : s.Holds fs c') :
    c = c' :=
  Except.ok.inj (Prod.mk.inj (h.symm.trans h')).1

theorem holds_of_openDatabase (hd : Disk.Honest files) {db : Database}
    (h : s.openDatabase (m := StateM σ) w = (.ok db, w')) : s.Holds (files w') db.catalog := by
  obtain ⟨hholds, hsame⟩ := holds_of_load hd (openDatabase_eq_ok h).1
  rw [hsame]
  exact hholds

theorem holds_of_read {fs : FileSystem} {c : Catalog} (hc : c.WellFormed)
    (h : fs.read s.path = .ok (some (s.encode c))) : s.Holds fs c := by
  rw [holds_iff, h]
  exact s.decode_encode hc

theorem holds_of_save (hd : Disk.Honest files) {c : Catalog} (hc : c.WellFormed)
    (h : s.save (m := StateM σ) c w = (.ok (), w')) : s.Holds (files w') c :=
  holds_of_read hc (hd.read_of_replaceFile h)

/-- From one file system to another the checkpoint is as it was, or has become that of `c`. -/
def Keeps (s : Store) (fs fs' : FileSystem) (c : Catalog) : Prop :=
  fs'.read s.path = fs.read s.path ∨ fs'.read s.path = .ok (some (s.encode c))

theorem Holds.of_read_eq {fs fs' : FileSystem} {c : Catalog} (h : s.Holds fs c)
    (hread : fs'.read s.path = fs.read s.path) : s.Holds fs' c := by
  rw [holds_iff, hread]
  exact holds_iff.1 h

theorem Holds.keeps {fs fs' : FileSystem} {c c' : Catalog} (h : s.Holds fs c)
    (hc' : c'.WellFormed) (hk : s.Keeps fs fs' c') : s.Holds fs' c ∨ s.Holds fs' c' := by
  rcases hk with hk | hk
  · exact .inl (h.of_read_eq hk)
  · exact .inr (holds_of_read hc' hk)

end Store

end Save

namespace Database

/-- What happens in a run: what is stored is opened, for the first time or again, a text is
executed, a checkpoint is asked for, or the disk changes elsewhere. -/
inductive Event where
  | opened
  | executed (text : String) (answer : Except Failure Answer)
  | checkpointed (result : Except Failure Unit)
  | elsewhere

/-- The text whose save failed, if none has succeeded since and nothing has been opened. The latest
event comes first. -/
def unsavedText : List Event → Option String
  | [] => none
  | .executed text (.error (.save _)) :: _ => some text
  | .opened :: _ => none
  | .checkpointed (.ok ()) :: _ => none
  | _ :: rest => unsavedText rest

variable {σ : Type} [Disk (StateM σ)]

/-- One step of a run. A save may fail at any time, but it then keeps the checkpoint; and the
checkpoint is changed by nobody else. -/
inductive Step (s : Store) (files : σ → FileSystem) :
    σ × Database → Event → σ × Database → Prop where
  | executed {w w' : σ} {db db' : Database} {text : String} {answer : Except Failure Answer}
      (h : db.execute (m := StateM σ) s.save text w = ((answer, db'), w'))
      (keeps : ∀ fault, answer = .error (.save fault) →
        s.Keeps (files w) (files w') db'.catalog) :
    Step s files (w, db) (.executed text answer) (w', db')
  | checkpointed {w w' : σ} {db db' : Database} {result : Except Failure Unit}
      (h : db.checkpoint (m := StateM σ) s.save w = ((result, db'), w'))
      (keeps : ∀ fault, result = .error (.save fault) →
        s.Keeps (files w) (files w') db'.catalog) :
    Step s files (w, db) (.checkpointed result) (w', db')
  | reopened {w w' : σ} {db db' : Database}
      (h : s.openDatabase (m := StateM σ) w = (.ok db', w')) :
    Step s files (w, db) .opened (w', db')
  | elsewhere {w w' : σ} {db : Database}
      (keeps : (files w').read s.path = (files w).read s.path) :
    Step s files (w, db) .elsewhere (w', db)

/-- The runs that begin with what is stored, with what has happened in them. -/
inductive Run (s : Store) (files : σ → FileSystem) : σ × Database → List Event → Prop where
  | opened {w w' : σ} {db : Database} (h : s.openDatabase (m := StateM σ) w = (.ok db, w')) :
    Run s files (w', db) [.opened]
  | step {state state' : σ × Database} {history : List Event} {e : Event}
      (h : Run s files state history) (hs : Step s files state e state') :
    Run s files state' (e :: history)

/-- The tables of a halted database that are one statement ahead of the tables `c`. -/
structure Ahead (db : Database) (c : Catalog) (text : String) : Prop where
  halted : db.halted = true
  carried_out : ∃ statement answer e, Statement.parse text = .ok statement ∧
    (Plan.ofStatement statement).isMutating = true ∧
    ((Plan.ofStatement statement).useIndex c).run c = (.ok answer, e) ∧ db.catalog = e.catalog

/-- What a run keeps: the tables in memory are those that are stored, or they are ahead of them by
the statement that is known not to be saved. -/
structure Invariant (s : Store) (files : σ → FileSystem) (state : σ × Database)
    (history : List Event) : Prop where
  wellFormed : state.2.catalog.WellFormed
  holds : ∃ c, s.Holds (files state.1) c ∧
    (state.2.catalog = c ∨ ∃ text, unsavedText history = some text ∧ state.2.Ahead c text)

section Steps

variable {files : σ → FileSystem} {s : Store} {w w' : σ} {db db' : Database}
  {history : List Event}

omit [Disk (StateM σ)] in
theorem Invariant.of_holds (db : Database) (hc : db.catalog.WellFormed)
    (h : s.Holds (files w) db.catalog) (history : List Event) :
    Invariant s files (w, db) history :=
  ⟨hc, db.catalog, h, .inl rfl⟩

theorem Invariant.opened (hd : Disk.Honest files)
    (h : s.openDatabase (m := StateM σ) w = (.ok db, w')) (history : List Event) :
    Invariant s files (w', db) history :=
  .of_holds db (Store.wellFormed_openDatabase h) (Store.holds_of_openDatabase hd h) history

omit [Disk (StateM σ)] in
/-- A database that is not halted has the tables that are stored. -/
theorem Invariant.holds_catalog (h : Invariant s files (w, db) history) (hh : db.halted = false) :
    s.Holds (files w) db.catalog := by
  obtain ⟨c, hc, hlevel | ⟨text, -, hahead⟩⟩ := h.holds
  · rw [← hlevel] at hc
    exact hc
  · cases hh.symm.trans hahead.halted

/-- Only a failed save changes which text is not saved. -/
theorem unsavedText_executed {text : String} {answer : Except Failure Answer}
    (h : ∀ fault, answer ≠ .error (.save fault)) (history : List Event) :
    unsavedText (.executed text answer :: history) = unsavedText history := by
  rcases answer with (fault | _ | fault) | answer
  · exact absurd rfl (h fault)
  · rfl
  · rfl
  · rfl

theorem Invariant.executed (hd : Disk.Honest files) (h : Invariant s files (w, db) history)
    {text : String} {answer : Except Failure Answer}
    (hx : db.execute (m := StateM σ) s.save text w = ((answer, db'), w'))
    (keeps : ∀ fault, answer = .error (.save fault) → s.Keeps (files w) (files w') db'.catalog) :
    Invariant s files (w', db') (.executed text answer :: history) := by
  -- an answer that is no failed save and changes no tables
  have hsame : ∀ {db₁ : Database}, db₁ = db → (∀ fault, answer ≠ .error (.save fault)) →
      Invariant s files (w, db₁) (.executed text answer :: history) := by
    rintro db₁ rfl hanswer
    refine ⟨h.wellFormed, ?_⟩
    rw [unsavedText_executed hanswer]
    exact h.holds
  cases Executed.of_eq hx with
  | notUnderstood | halted | refused => exact hsame rfl nofun
  | unchanged hp hf hr hm =>
    refine hsame ?_ nofun
    rw [Plan.catalog_of_not_modified hr hm]
  | @saved _ _ e _ hp hf hr hm hs =>
    have hwf := h.wellFormed.run hr
    exact .of_holds ⟨e.catalog, db.halted⟩ hwf (Store.holds_of_save hd hwf hs) _
  | @unsaved statement answer e fault _ hp hf hr hm hs =>
    have hmutating := Plan.isMutating_of_modified hr hm
    have hh : db.halted = false := by
      rw [hmutating, Bool.true_and] at hf
      exact hf
    have hwf := h.wellFormed.run hr
    -- either nothing of the save is seen, or all of it
    rcases (h.holds_catalog hh).keeps hwf (keeps fault rfl) with hold | hnew
    · refine ⟨hwf, db.catalog, hold, .inr ⟨text, rfl, rfl, ?_⟩⟩
      exact ⟨statement, answer, e, hp, hmutating, hr, rfl⟩
    · exact .of_holds ⟨e.catalog, true⟩ hwf hnew _

omit [Disk (StateM σ)] in
theorem checkpoint_eq {save : Catalog → StateM σ (Except FileFault Unit)}
    {result : Except Failure Unit} (h : db.checkpoint save w = ((result, db'), w')) :
    (save db.catalog w = (.ok (), w') ∧ result = .ok () ∧ db' = ⟨db.catalog, false⟩) ∨
    ∃ fault, save db.catalog w = (.error fault, w') ∧ result = .error (.save fault) ∧
      db' = ⟨db.catalog, true⟩ := by
  unfold checkpoint at h
  rw [bind_apply] at h
  rcases hs : save db.catalog w with ⟨fault | _, w₁⟩
  · rw [hs] at h
    cases h
    exact .inr ⟨fault, rfl, rfl, rfl⟩
  · rw [hs] at h
    cases h
    exact .inl ⟨rfl, rfl, rfl⟩

theorem Invariant.checkpointed (hd : Disk.Honest files) (h : Invariant s files (w, db) history)
    {result : Except Failure Unit}
    (hx : db.checkpoint (m := StateM σ) s.save w = ((result, db'), w'))
    (keeps : ∀ fault, result = .error (.save fault) → s.Keeps (files w) (files w') db'.catalog) :
    Invariant s files (w', db') (.checkpointed result :: history) := by
  rcases checkpoint_eq hx with ⟨hs, rfl, rfl⟩ | ⟨fault, hs, rfl, rfl⟩
  · exact .of_holds ⟨db.catalog, false⟩ h.wellFormed (Store.holds_of_save hd h.wellFormed hs) _
  · obtain ⟨c, hc, hstands⟩ := h.holds
    rcases hc.keeps h.wellFormed (keeps fault rfl) with hold | hnew
    · refine ⟨h.wellFormed, c, hold, ?_⟩
      rcases hstands with hlevel | ⟨text, hu, hahead⟩
      · exact .inl hlevel
      · exact .inr ⟨text, hu, rfl, hahead.carried_out⟩
    · exact .of_holds ⟨db.catalog, true⟩ h.wellFormed hnew _

theorem Step.invariant (hd : Disk.Honest files) {state state' : σ × Database} {e : Event}
    (hs : Step s files state e state') (h : Invariant s files state history) :
    Invariant s files state' (e :: history) := by
  cases hs with
  | executed hx keeps => exact h.executed hd hx keeps
  | checkpointed hx keeps => exact h.checkpointed hd hx keeps
  | reopened ho => exact .opened hd ho _
  | elsewhere keeps =>
    obtain ⟨c, hc, hstands⟩ := h.holds
    exact ⟨h.wellFormed, c, hc.of_read_eq keeps, hstands⟩

theorem Run.invariant (hd : Disk.Honest files) {state : σ × Database}
    (h : Run s files state history) : Invariant s files state history := by
  induction h with
  | opened ho => exact .opened hd ho _
  | step _ hs ih => exact hs.invariant hd ih

theorem exists_of_unsavedText {text : String} (h : unsavedText history = some text) :
    ∃ fault, .executed text (.error (.save fault)) ∈ history := by
  fun_induction unsavedText history with
  | case1 => cases h
  | case2 text' fault rest =>
    cases h
    exact ⟨fault, List.mem_cons_self⟩
  | case3 => cases h
  | case4 => cases h
  | case5 e rest _ _ _ ih =>
    obtain ⟨fault, hmem⟩ := ih h
    exact ⟨fault, List.mem_cons_of_mem e hmem⟩

omit [Disk (StateM σ)] in
/-- A halted database refuses a statement that may change tables, and touches nothing. -/
theorem execute_of_halted (save : Catalog → StateM σ (Except FileFault Unit))
    (hh : db.halted = true) {text : String} {statement : Statement}
    (hp : Statement.parse text = .ok statement)
    (hs : ∀ table second condition, statement ≠ .select table second condition) :
    db.execute save text w = ((.error .halted, db), w) := by
  have hmutating : (Plan.ofStatement statement).isMutating = true := by
    cases statement with
    | createTable | insert | delete => rfl
    | select table second condition => exact absurd rfl (hs table second condition)
  exact execute_of_isMutating save db hp hmutating hh w

omit [Disk (StateM σ)] in
theorem halted_execute (save : Catalog → StateM σ (Except FileFault Unit))
    (hh : db.halted = true) (text : String) (w : σ) :
    (db.execute save text w).1.2.halted = true := by
  have hexecuted := Database.executed save db text w
  generalize db.execute save text w = result at hexecuted
  cases hexecuted with
  | notUnderstood | halted | refused | unchanged | saved => exact hh
  | unsaved => rfl

/-- A halted database is set going by a checkpoint that is saved, or by opening what is stored. -/
theorem Step.of_halted (hd : Disk.Honest files) {e : Event} (hc : db.catalog.WellFormed)
    (hs : Step s files (w, db) e (w', db')) (hh : db.halted = true) (hh' : db'.halted = false) :
    e = .opened ∨
      e = .checkpointed (.ok ()) ∧ db'.catalog = db.catalog ∧ s.Holds (files w') db.catalog := by
  cases hs with
  | @executed _ _ _ _ text _ hx keeps =>
    have hhalted := halted_execute (s.save (m := StateM σ)) hh text w
    rw [hx] at hhalted
    cases hh'.symm.trans hhalted
  | checkpointed hx keeps =>
    rcases checkpoint_eq hx with ⟨hs, rfl, rfl⟩ | ⟨fault, -, rfl, rfl⟩
    · exact .inr ⟨rfl, rfl, Store.holds_of_save hd hc hs⟩
    · cases hh'
  | reopened ho => exact .inl rfl
  | elsewhere keeps => cases hh'.symm.trans hh

/-- Whatever a run does, and whichever of its saves fail: if the database is not halted, its tables
are those that would be loaded. If it is halted, they are those or one statement ahead of them,
which is the one whose execution reported that it was not saved; a statement that may change tables
is refused and changes neither the tables nor anything on the disk; and the run gets out of it only
by a checkpoint that is saved, whereupon its tables are those that would be loaded, or by opening
what is stored. -/
theorem Run.durable (hd : Disk.Honest files) (h : Run s files (w, db) history) :
    ∃ c, s.Holds (files w) c ∧
      (∀ c' w', s.load (m := StateM σ) w = (.ok c', w') → c' = c) ∧
      (db.halted = false → db.catalog = c) ∧
      (db.halted = true →
        (db.catalog = c ∨ ∃ text fault, unsavedText history = some text ∧
          .executed text (.error (.save fault)) ∈ history ∧ db.Ahead c text) ∧
        (∀ text statement, Statement.parse text = .ok statement →
          (∀ table second condition, statement ≠ .select table second condition) →
          db.execute (m := StateM σ) s.save text w = ((.error .halted, db), w)) ∧
        ∀ e w' db', Step s files (w, db) e (w', db') → db'.halted = false →
          e = .opened ∨ e = .checkpointed (.ok ()) ∧ db'.catalog = db.catalog ∧
            s.Holds (files w') db.catalog) := by
  have hinvariant := h.invariant hd
  obtain ⟨c, hc, hstands⟩ := hinvariant.holds
  refine ⟨c, hc, fun c' w' hload => ?_, fun hh => ?_, fun hh => ⟨?_, ?_, ?_⟩⟩
  · exact (Store.holds_of_load hd hload).1.unique hc
  · rcases hstands with hlevel | ⟨text, -, hahead⟩
    · exact hlevel
    · cases hh.symm.trans hahead.halted
  · rcases hstands with hlevel | ⟨text, hu, hahead⟩
    · exact .inl hlevel
    · obtain ⟨fault, hmem⟩ := exists_of_unsavedText hu
      exact .inr ⟨text, fault, hu, hmem, hahead⟩
  · exact fun text statement hp hs => execute_of_halted _ hh hp hs
  · exact fun e w' db' hs hh' => hs.of_halted hd hinvariant.wellFormed hh hh'

/-- A table is created while a directory has the name of the temporary file. -/
theorem durable_of_occupied_name :
    ∃ (s : Store) (w : FileSystem) (db : Database) (history : List Event),
      Run s id (w, db) history ∧ db.halted = true ∧ s.Holds w .empty ∧ db.catalog.names = ["t"] ∧
      db.Ahead .empty "CREATE TABLE t (id int)" := by
  let s : Store := ⟨⟨"db", false, false⟩, 0⟩
  let w : FileSystem := ⟨.ofList [([".db.tmp.0"], .directory)], []⟩
  let created := (Database.ofCatalog .empty).execute (m := StateM FileSystem) s.save
    "CREATE TABLE t (id int)" w
  have hopened : s.openDatabase (m := StateM FileSystem) w = (.ok (.ofCatalog .empty), w) := by cbv
  have hcreated : (created.1.2.halted, created.1.2.catalog.names, created.2) =
      (true, ["t"], w) := by
    dsimp only [created, s, w]
    cbv
  simp only [Prod.mk.injEq] at hcreated
  obtain ⟨hhalted, hnames, hdisk⟩ := hcreated
  have hstep : Step s id (w, .ofCatalog .empty)
      (.executed "CREATE TABLE t (id int)" created.1.1) (created.2, created.1.2) :=
    .executed rfl fun _ _ => .inl (by rw [hdisk])
  have hrun : Run s id (created.2, created.1.2) _ := (Run.opened hopened).step hstep
  obtain ⟨c, hc, -, -, hhalt⟩ := hrun.durable Disk.honest_fileSystem
  have hempty : s.Holds created.2 .empty := by
    rw [hdisk]
    exact Store.holds_of_openDatabase Disk.honest_fileSystem hopened
  obtain rfl : c = .empty := hc.unique hempty
  refine ⟨s, created.2, created.1.2, _, hrun, hhalted, hempty, hnames, ?_⟩
  rcases (hhalt hhalted).1 with hlevel | ⟨text, fault, hu, hmem, hahead⟩
  · rw [hlevel] at hnames
    cases hnames
  · rcases List.mem_cons.1 hmem with he | he
    · obtain ⟨rfl, -⟩ := Event.executed.inj he
      exact hahead
    · cases List.mem_singleton.1 he

end Steps

end Database
end RelStore
