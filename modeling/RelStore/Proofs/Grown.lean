import RelStore.Proofs.Durability

/-!
Runs that begin without tables. After a step the tables that are stored are those that were stored
before, or those that are then in memory; so what statements keep holds all along of both, however often
the tables are saved, not saved, and opened again. Nothing but a failed save halts such a run.
-/

namespace RelStore.Database
set_option autoImplicit false

variable {σ : Type} [Disk (StateM σ)]

/-- The runs that begin with a database without tables. -/
inductive Grown (s : Store) (files : σ → FileSystem) : σ × Database → List Event → Prop where
  | opened {w w' : σ} {db : Database} (h : s.openDatabase (m := StateM σ) w = (.ok db, w'))
      (hempty : db.catalog = .empty) : Grown s files (w', db) [.opened]
  | step {state state' : σ × Database} {history : List Event} {e : Event}
      (h : Grown s files state history) (hs : Step s files state e state') :
    Grown s files state' (e :: history)

/-- Whether a save has failed in the event. -/
def Event.IsFailedSave : Event → Prop
  | .executed _ (.error (.save _)) | .checkpointed (.error _) => True
  | _ => False

variable {files : σ → FileSystem} {s : Store} {w w' : σ} {db db' : Database} {e : Event}
  {history : List Event}

theorem Grown.run {state : σ × Database} (h : Grown s files state history) :
    Run s files state history := by
  induction h with
  | opened ho => exact .opened ho
  | step _ hs ih => exact ih.step hs

/-- A text that is answered is a step of the run. -/
theorem Grown.executed (h : Grown s files (w, db) history) {text : String} {answer : Answer}
    (ha : (db.execute (m := StateM σ) s.save text w).1.1 = .ok answer) :
    Grown s files ((db.execute (m := StateM σ) s.save text w).2,
      (db.execute (m := StateM σ) s.save text w).1.2) (.executed text (.ok answer) :: history) :=
  h.step (.executed (Prod.ext (Prod.ext ha rfl) rfl) nofun)

/-- After a step the same tables are stored as before, or those that are then in memory. -/
theorem Step.holds (hd : Disk.Honest files) (hs : Step s files (w, db) e (w', db'))
    (hc : db'.catalog.WellFormed) {c : Catalog} (h : s.Holds (files w) c) :
    s.Holds (files w') c ∨ s.Holds (files w') db'.catalog := by
  cases hs with
  | @executed _ _ _ _ text _ hx keeps =>
    cases Executed.of_eq hx with
    | notUnderstood | halted | refused | unchanged => exact .inl h
    | saved _ _ _ _ hsave => exact .inr (Store.holds_of_save hd hc hsave)
    | unsaved => exact h.keeps hc (keeps _ rfl)
  | checkpointed hx keeps =>
    rcases checkpoint_eq hx with ⟨hsave, -, rfl⟩ | ⟨fault, -, rfl, rfl⟩
    · exact .inr (Store.holds_of_save hd hc hsave)
    · exact h.keeps hc (keeps fault rfl)
  | reopened ho =>
    have hsame := (Store.holds_of_load hd (Store.openDatabase_eq_ok ho).1).2
    rw [hsame]
    exact .inl h
  | elsewhere keeps => exact .inl (h.of_read_eq keeps)

/-- The tables after a step are those before it, or what a statement made of them, or those that were
stored. -/
theorem Step.catalog_cases (hd : Disk.Honest files) (hs : Step s files (w, db) e (w', db')) :
    db'.catalog = db.catalog ∨
    (∃ plan answer e, Plan.run db.catalog plan = (.ok answer, e) ∧ db'.catalog = e.catalog) ∨
    s.Holds (files w) db'.catalog := by
  cases hs with
  | @executed _ _ _ _ text _ hx keeps =>
    cases Executed.of_eq hx with
    | notUnderstood | halted | refused => exact .inl rfl
    | unchanged _ _ hr | saved _ _ hr | unsaved _ _ hr => exact .inr (.inl ⟨_, _, _, hr, rfl⟩)
  | checkpointed hx keeps =>
    rcases checkpoint_eq hx with ⟨-, -, rfl⟩ | ⟨fault, -, -, rfl⟩
    · exact .inl rfl
    · exact .inl rfl
  | reopened ho =>
    exact .inr (.inr (Store.holds_of_load hd (Store.openDatabase_eq_ok ho).1).1)
  | elsewhere keeps => exact .inl rfl

/-- What statements keep, a run that begins without tables keeps, of the tables in memory and of those
that are stored. -/
theorem Grown.kept (hd : Disk.Honest files) {P : Catalog → Prop} (hempty : P .empty)
    (hrun : ∀ {c : Catalog} {plan : Plan} {answer : Answer} {e : Engine}, P c →
      plan.run c = (.ok answer, e) → P e.catalog)
    {state : σ × Database} (h : Grown s files state history) :
    P state.2.catalog ∧ ∃ c, s.Holds (files state.1) c ∧ P c := by
  induction h with
  | @opened _ w' db ho he =>
    have hP : P db.catalog := he ▸ hempty
    exact ⟨hP, db.catalog, Store.holds_of_openDatabase hd ho, hP⟩
  | @step state state' history e hgrown hs ih =>
    obtain ⟨w, db⟩ := state
    obtain ⟨w', db'⟩ := state'
    obtain ⟨hmemory, c, hc, hstored⟩ := ih
    have hmemory' : P db'.catalog := by
      rcases hs.catalog_cases hd with he | ⟨plan, answer, e, hr, he⟩ | hholds
      · exact he ▸ hmemory
      · exact he ▸ hrun hmemory hr
      · exact hholds.unique hc ▸ hstored
    refine ⟨hmemory', ?_⟩
    have hwf := (hgrown.run.step hs).invariant hd |>.wellFormed
    rcases hs.holds hd hwf hc with hold | hnew
    · exact ⟨c, hold, hstored⟩
    · exact ⟨db'.catalog, hnew, hmemory'⟩

/-- Nothing but a failed save halts a database. -/
theorem Step.halted (hs : Step s files (w, db) e (w', db')) (he : ¬ e.IsFailedSave)
    (hh : db.halted = false) : db'.halted = false := by
  cases hs with
  | @executed _ _ _ _ text _ hx keeps =>
    cases Executed.of_eq hx with
    | notUnderstood | halted | refused | unchanged | saved => exact hh
    | unsaved => exact absurd trivial he
  | checkpointed hx keeps =>
    rcases checkpoint_eq hx with ⟨-, rfl, rfl⟩ | ⟨fault, -, rfl, -⟩
    · rfl
    · exact absurd trivial he
  | reopened ho => exact (Store.openDatabase_eq_ok ho).2
  | elsewhere keeps => exact hh

theorem Grown.halted {state : σ × Database} (h : Grown s files state history)
    (hn : ∀ e ∈ history, ¬ e.IsFailedSave) : state.2.halted = false := by
  induction h with
  | opened ho => exact (Store.openDatabase_eq_ok ho).2
  | step _ hs ih =>
    have hrest := ih fun e he => hn e (List.mem_cons_of_mem _ he)
    exact hs.halted (hn _ List.mem_cons_self) hrest

end RelStore.Database
