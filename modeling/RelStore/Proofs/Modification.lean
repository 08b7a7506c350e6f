import RelStore.Proofs.Answering

/-!
What is reported as a change. The engine reports every statement that changes the tables, so none of
them goes unsaved. It also reports a deletion from a table in which there is nothing to delete, and
then the same tables are saved once more; there is no other such case.
-/

namespace RelStore
set_option autoImplicit false

/-- Whether a row has in the column of the condition a value that is displayed as the literal is
written. -/
def Condition.holds (f : Condition) (row : Row) : Bool :=
  (row.get? f.column).any fun v => v.display == f.value.text

theorem Condition.fieldMatches_eq (f : Condition) (row : Row) :
    row.fieldMatches f.column f.value.text = f.holds row :=
  row.fieldMatches_eq_any f.column f.value.text

namespace Table

/-- A deletion leaves a table as it is, index and all, just if it has no such rows. -/
theorem deleteWhere_eq_self_iff (t : Table) (f : Condition) :
    (t.deleteWhere f.column f.value.text).2 = t ↔ ∀ row ∈ t.rows, f.holds row = false := by
  constructor
  · intro h row hr
    have hkept : t.keptRows f.column f.value.text = t.rows := by
      rw [← rows_deleteWhere, h]
    have hmatches := List.filter_eq_self.1 hkept row hr
    rw [f.fieldMatches_eq] at hmatches
    exact Bool.eq_false_of_not_eq_true' hmatches
  · intro h
    have hcount : t.rows.countP (·.fieldMatches f.column f.value.text) = 0 := by
      rw [List.countP_eq_zero]
      intro row hr
      rw [f.fieldMatches_eq, h row hr]
      exact Bool.false_ne_true
    rw [deleteWhere_eq, if_pos hcount]

end Table

/-- A statement that is carried out leaves the tables as they were if it is not reported as a change,
and if it deletes rows of which there are none. Otherwise the tables are others. -/
theorem Plan.catalog_eq_iff {c : Catalog} {s : Statement} {answer : Answer} {e : Engine}
    (h : ((ofStatement s).useIndex c).run c = (.ok answer, e)) :
    e.catalog = c ↔ e.modified = false ∨
      ∃ table f t, s = .delete table f ∧ c.find? table = some t ∧
        ∀ row ∈ t.rows, f.holds row = false := by
  cases s with
  | select table second condition =>
    have hm : e.modified = false := by
      refine Bool.eq_false_iff.2 fun hm => ?_
      have hmutating := isMutating_of_modified h hm
      have hreads := isMutating_of_readsRows (readsRows_ofSelect table second condition)
      cases hmutating.symm.trans hreads
    exact iff_of_true (catalog_of_not_modified h hm) (.inl hm)
  | createTable table columns primaryKey =>
    cases ran_of_run h with
    | kept => exact iff_of_true rfl (.inl rfl)
    | created _ _ ha =>
      refine iff_of_false (Catalog.ne_of_add ha) ?_
      rintro (hm | ⟨_, _, _, hs, -⟩)
      · cases hm
      · cases hs
    | returned hm => cases hm
  | insert table values =>
    cases ran_of_run h with
    | inserted ht _ hi =>
      have hname := (Table.of_insert_eq_ok hi).1
      rw [Catalog.replace_eq_self_iff (Catalog.table_eq_ok.1 ht) hname]
      refine iff_of_false (Table.ne_of_insert hi) ?_
      rintro (hm | ⟨_, _, _, hs, -⟩)
      · cases hm
      · cases hs
    | returned hm => cases hm
  | delete table f =>
    cases ran_of_run h with
    | @deleted _ _ _ t ht =>
      have hfind := Catalog.table_eq_ok.1 ht
      rw [Catalog.replace_eq_self_iff hfind (t.name_deleteWhere _ _), t.deleteWhere_eq_self_iff]
      constructor
      · exact fun hnone => .inr ⟨table, f, t, rfl, hfind, hnone⟩
      · rintro (hm | ⟨_, _, u, hs, hu, hnone⟩)
        · cases hm
        · cases hs
          cases hfind.symm.trans hu
          exact hnone
    | returned hm => cases hm

namespace Database

variable {σ : Type} {save : Catalog → StateM σ (Except FileFault Unit)} {db : Database}
  {text : String} {s : Statement} {answer : Answer} {e : Engine}

/-- Whether a text is reported to have changed the tables: what the engine notes that has carried it
out, or was refused it. There is no engine for a text that is no statement. -/
def modifiedBy (db : Database) (text : String) : Bool :=
  match Statement.parse text with
  | .error _ => false
  | .ok s => ((db.planOf s).run db.catalog).2.modified

/-- The text deletes rows of a table in which there are no such rows. -/
def DeletesNothing (db : Database) (text : String) : Prop :=
  ∃ table f t, Statement.parse text = .ok (.delete table f) ∧
    db.catalog.find? table = some t ∧ ∀ row ∈ t.rows, f.holds row = false

theorem modifiedBy_of_parse_error {fault : SyntaxFault} (hp : Statement.parse text = .error fault) :
    db.modifiedBy text = false := by
  unfold modifiedBy
  rw [hp]

theorem modifiedBy_of_run_error {fault : PlanFault} (hp : Statement.parse text = .ok s)
    (hr : ((db.planOf s).run db.catalog).1 = .error fault) : db.modifiedBy text = false := by
  unfold modifiedBy
  rw [hp]
  dsimp only
  rw [Plan.run_of_error hr]

theorem modifiedBy_of_run (hp : Statement.parse text = .ok s)
    (hr : (db.planOf s).run db.catalog = (.ok answer, e)) : db.modifiedBy text = e.modified := by
  unfold modifiedBy
  rw [hp]
  dsimp only
  rw [hr]

theorem deletesNothing_iff (hp : Statement.parse text = .ok s) :
    db.DeletesNothing text ↔ ∃ table f t, s = .delete table f ∧
      db.catalog.find? table = some t ∧ ∀ row ∈ t.rows, f.holds row = false := by
  unfold DeletesNothing
  rw [hp]
  simp only [Except.ok.injEq]

theorem modifiedBy_of_deletesNothing (h : db.DeletesNothing text) : db.modifiedBy text = true := by
  obtain ⟨table, f, t, hp, ht, -⟩ := h
  exact modifiedBy_of_run hp (Plan.run_delete ht f.column f.value)

/-- The tables are as they were just if no change is reported or nothing was there to delete. -/
theorem catalog_execute_eq_iff (save : Catalog → StateM σ (Except FileFault Unit))
    (hh : db.halted = false) (text : String) (w : σ) :
    (db.execute save text w).1.2.catalog = db.catalog ↔
      db.modifiedBy text = false ∨ db.DeletesNothing text := by
  have hexecuted := Database.executed save db text w
  generalize db.execute save text w = result at hexecuted
  cases hexecuted with
  | notUnderstood hp => exact iff_of_true rfl (.inl (modifiedBy_of_parse_error hp))
  | halted _ _ hhalted => cases hh.symm.trans hhalted
  | refused hp _ hr => exact iff_of_true rfl (.inl (modifiedBy_of_run_error hp hr))
  | unchanged hp _ hr | saved hp _ hr | unsaved hp _ hr =>
    rw [modifiedBy_of_run hp hr, deletesNothing_iff hp]
    exact Plan.catalog_eq_iff hr

/-- The world changes by the save of the tables alone, and only if a change is reported. -/
theorem world_execute (save : Catalog → StateM σ (Except FileFault Unit))
    (hh : db.halted = false) (text : String) (w : σ) :
    (db.execute save text w).2 =
      if db.modifiedBy text then (save (db.execute save text w).1.2.catalog w).2 else w := by
  have hexecuted := Database.executed save db text w
  generalize db.execute save text w = result at hexecuted
  cases hexecuted with
  | notUnderstood hp =>
    rw [modifiedBy_of_parse_error hp]
    rfl
  | halted _ _ hhalted => cases hh.symm.trans hhalted
  | refused hp _ hr =>
    rw [modifiedBy_of_run_error hp hr]
    rfl
  | unchanged hp _ hr hm =>
    rw [modifiedBy_of_run hp hr, hm]
    rfl
  | saved hp _ hr hm hs | unsaved hp _ hr hm hs =>
    rw [modifiedBy_of_run hp hr, hm, if_pos rfl, hs]

/-- In a database that is not halted, a change is reported of a text just if the text changes the
tables, unless it deletes rows where there are none: that is reported, and the tables are as they
were. The tables are saved just if a change is reported, and nothing else is done to the world. -/
theorem modifiedBy_iff_changed (save : Catalog → StateM σ (Except FileFault Unit))
    (hh : db.halted = false) (text : String) (w : σ) :
    ((db.modifiedBy text = true ↔ (db.execute save text w).1.2.catalog ≠ db.catalog) ↔
      ¬ db.DeletesNothing text) ∧
    (db.DeletesNothing text → db.modifiedBy text = true ∧
      (db.execute save text w).1.2.catalog = db.catalog) ∧
    (db.execute save text w).2 =
      if db.modifiedBy text then (save (db.execute save text w).1.2.catalog w).2 else w := by
  have hsame := catalog_execute_eq_iff save hh text w
  refine ⟨?_, fun h => ⟨modifiedBy_of_deletesNothing h, hsame.2 (.inr h)⟩,
    world_execute save hh text w⟩
  constructor
  · intro h hnothing
    exact h.1 (modifiedBy_of_deletesNothing hnothing) (hsame.2 (.inr hnothing))
  · intro hsome
    rw [ne_eq, hsame, or_iff_left hsome, Bool.not_eq_false]

end Database

/-- The deletion of the one row is reported as a change, and it is one. -/
theorem modifiedBy_iff_changed_of_seven :
    ∃ (s : Store) (w : FileSystem) (db : Database), Reachable s w db ∧ db.halted = false ∧
      db.modifiedBy "DELETE FROM t WHERE id=7" = true ∧
      (db.execute (m := StateM FileSystem) s.save "DELETE FROM t WHERE id=7" w).1.2.catalog ≠
        db.catalog := by
  obtain ⟨s, w, db, t, hreach, hhalted, hfind, -, -, hrows⟩ := exists_reachable_of_seven
  have hp : Statement.parse "DELETE FROM t WHERE id=7" =
      .ok (.delete "t" ⟨"id", .number "7"⟩) := by cbv
  have hmodified : db.modifiedBy "DELETE FROM t WHERE id=7" = true :=
    Database.modifiedBy_of_run hp (Plan.run_delete hfind _ _)
  have hsome : ¬ db.DeletesNothing "DELETE FROM t WHERE id=7" := by
    rw [Database.deletesNothing_iff hp]
    rintro ⟨_, _, u, hs, hu, hnone⟩
    cases hs
    cases hfind.symm.trans hu
    have hseven := hnone _ (hrows ▸ List.mem_singleton_self _)
    revert hseven
    decide
  have hchanged :=
    (Database.modifiedBy_iff_changed (s.save (m := StateM FileSystem)) hhalted _ w).1.2 hsome
  exact ⟨s, w, db, hreach, hhalted, hmodified, hchanged.1 hmodified⟩

/-- The deletion of rows with another key is reported as a change too, and is none. -/
theorem exists_modifiedBy_of_unchanged :
    ∃ (s : Store) (w : FileSystem) (db : Database), Reachable s w db ∧ db.halted = false ∧
      db.modifiedBy "DELETE FROM t WHERE id=8" = true ∧
      (db.execute (m := StateM FileSystem) s.save "DELETE FROM t WHERE id=8" w).1.2.catalog =
        db.catalog := by
  obtain ⟨s, w, db, t, hreach, hhalted, hfind, -, -, hrows⟩ := exists_reachable_of_seven
  have hp : Statement.parse "DELETE FROM t WHERE id=8" =
      .ok (.delete "t" ⟨"id", .number "8"⟩) := by cbv
  have hnothing : db.DeletesNothing "DELETE FROM t WHERE id=8" := by
    refine ⟨_, _, t, hp, hfind, ?_⟩
    rw [hrows]
    decide
  exact ⟨s, w, db, hreach, hhalted, Database.modifiedBy_of_deletesNothing hnothing,
    (Database.catalog_execute_eq_iff s.save hhalted _ w).2 (.inr hnothing)⟩

end RelStore
