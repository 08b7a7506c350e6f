import RelStore.Proofs.Modification

/-!
What a condition means to a selection and what it means to a deletion. A deletion goes by the column
of the condition alone. A selection goes by it as long as there is such a column; if there is none it
falls back to the column of that name with the table's name before it, which a deletion never does.
-/

namespace RelStore
set_option autoImplicit false

/-- The name under which a field of a right row stands in a joined row. -/
def Row.joinName (label field : String) : String :=
  label ++ "_" ++ field

/-- The condition on the field that a join makes of the column in rows of `table`. -/
def Condition.prefixed (f : Condition) (table : String) : Condition :=
  ⟨Row.joinName table f.column, f.value⟩

namespace Table

variable {t : Table} {f : Condition} {row : Row}

theorem WellFormed.holds_eq_false (h : t.WellFormed) (hr : row ∈ t.rows)
    (hc : f.column ∉ t.schema.columnNames) : f.holds row = false := by
  unfold Condition.holds
  rw [h.get?_eq_none hr hc]
  rfl

/-- A selection without a join takes a row by the text in the column of the condition, or in the
prefixed column if there is no such column. On the primary key it goes by the value of the literal
instead, so there value and text have to agree. -/
theorem WellFormed.fulfils_eq (h : t.WellFormed) (hr : row ∈ t.rows)
    (hagrees : t.schema.primaryKey = some f.column → t.AgreesOn f.column f.value) :
    Reference.fulfils t.toRelation false f row =
      if f.column ∈ t.schema.columnNames then f.holds row else (f.prefixed t.name).holds row := by
  by_cases hc : f.column ∈ t.schema.columnNames
  · obtain ⟨v, hv⟩ := Option.isSome_iff_exists.1 (h.isSome_get? hr hc)
    rw [if_pos hc]
    unfold Reference.fulfils Condition.holds
    rw [hv]
    split
    · rename_i hk
      have hkey : t.schema.primaryKey = some f.column := eq_of_beq hk
      rw [Bool.eq_iff_iff, Option.any_some, beq_iff_eq, beq_iff_eq, Option.some.injEq]
      exact hagrees hkey row hr v hv
    · rfl
  · have hkey : ¬ (!false && t.toRelation.primaryKey == some f.column) = true := by
      intro hk
      have hkey : t.schema.primaryKey = some f.column := eq_of_beq hk
      exact hc (t.schema.key_mem f.column hkey)
    unfold Reference.fulfils Condition.holds
    rw [if_neg hc, if_neg hkey, h.get?_eq_none hr hc]
    rfl

end Table

namespace Database

variable {σ : Type} {db : Database} {text table : String} {f : Condition} {t : Table}

/-- A selection with a condition is answered with the rows of the table that fulfil it. -/
theorem execute_selection (save : Catalog → StateM σ (Except FileFault Unit))
    (hc : db.catalog.WellFormed) (ht : db.catalog.find? table = some t)
    (hp : Statement.parse text = .ok (.select table none (some f))) (w : σ) :
    (db.execute save text w).1.1 =
      .ok (.rows (t.rows.filter (Reference.fulfils t.toRelation false f))) := by
  rw [execute_select_iff hp, Plan.rows_useIndex_ofSelect_some hc ht]
  change (Plan.rows db.catalog (.scan table)).map _ = _
  rw [Plan.rows_scan ht]
  rfl

/-- A statement that changes the tables changes them whether or not they can be saved, and is answered
with its notice if they can. -/
theorem execute_of_modified (save : Catalog → StateM σ (Except FileFault Unit))
    {s : Statement} {answer : Answer} {e : Engine} (hp : Statement.parse text = .ok s)
    (hh : db.halted = false) (hr : (db.planOf s).run db.catalog = (.ok answer, e))
    (hm : e.modified = true) (w : σ) :
    (db.execute save text w).1.2.catalog = e.catalog ∧
    (∀ w', save e.catalog w = (.ok (), w') → (db.execute save text w).1.1 = .ok answer) ∧
    ∀ fault w', save e.catalog w = (.error fault, w') →
      (db.execute save text w).1.1 = .error (.save fault) := by
  have hf : ((Plan.ofStatement s).isMutating && db.halted) = false := by
    rw [hh, Bool.and_false]
  rcases hs : save e.catalog w with ⟨fault | _, w'⟩
  · rw [execute_of_save_error save db hp hf hr hm hs]
    refine ⟨rfl, fun _ he => ?_, fun _ _ he => ?_⟩
    · cases he
    · cases he
      rfl
  · rw [execute_of_save_ok save db hp hf hr hm hs]
    refine ⟨rfl, fun _ _ => rfl, fun _ _ he => ?_⟩
    cases he

/-- A deletion takes the rows that hold the condition out of the table. -/
theorem execute_deletion (save : Catalog → StateM σ (Except FileFault Unit))
    (hh : db.halted = false) (ht : db.catalog.find? table = some t)
    (hp : Statement.parse text = .ok (.delete table f)) (w : σ) :
    (db.execute save text w).1.2.catalog =
      db.catalog.replace (t.deleteWhere f.column f.value.text).2 ∧
    (∀ w', save (db.execute save text w).1.2.catalog w = (.ok (), w') →
      (db.execute save text w).1.1 = .ok (.notice (.rowsDeleted (t.rows.filter f.holds).length))) ∧
    ∀ fault w', save (db.execute save text w).1.2.catalog w = (.error fault, w') →
      (db.execute save text w).1.1 = .error (.save fault) := by
  have hrun : (db.planOf (.delete table f)).run db.catalog = _ :=
    Plan.run_delete ht f.column f.value
  obtain ⟨hcatalog, hsaved, hunsaved⟩ := execute_of_modified save hp hh hrun rfl w
  have hcount : (t.deleteWhere f.column f.value.text).1 = (t.rows.filter f.holds).length := by
    rw [Table.fst_deleteWhere, ← List.countP_eq_length_filter]
    exact List.countP_congr fun row _ => by rw [f.fieldMatches_eq]
  rw [hcatalog]
  rw [hcount] at hsaved
  exact ⟨rfl, hsaved, hunsaved⟩

end Database

theorem Table.rows_deleteWhere_eq_filter (t : Table) (f : Condition) :
    (t.deleteWhere f.column f.value.text).2.rows = t.rows.filter (fun row => !f.holds row) := by
  rw [rows_deleteWhere]
  exact List.filter_congr fun row _ => by rw [f.fieldMatches_eq]

section Reachable

variable {σ : Type} [Disk (StateM σ)] {s : Store} {w : σ} {db : Database}

/-- In a database that a run comes to and that is not halted, a deletion takes out of its table just
the rows that are displayed as the literal in the column of the condition, leaves the others in their
order with the exact index, and reports how many it took out. A selection with the same condition
returns the same rows if the table has the column; if it has not, the deletion takes out none, and
the selection returns the rows that have the literal in the prefixed column. On the primary key this
is so where the keys with the value of the literal are those with its text. -/
theorem Reachable.deleted_and_selected (h : Reachable s w db) (hh : db.halted = false)
    {table deletion selection : String} {f : Condition} {t : Table}
    (ht : db.catalog.find? table = some t)
    (hd : Statement.parse deletion = .ok (.delete table f))
    (hs : Statement.parse selection = .ok (.select table none (some f)))
    (hagrees : t.schema.primaryKey = some f.column →
      ∀ row ∈ t.rows, ∀ v, row.get? f.column = some v →
        (v = f.value.value ↔ v.display = f.value.text)) :
    let result := db.execute (m := StateM σ) s.save deletion w
    ∃ removed left found,
      (removed, left.rows) = t.rows.partition f.holds ∧
      left.name = t.name ∧ left.schema = t.schema ∧ left.WellFormed ∧
      result.1.2.catalog = db.catalog.replace left ∧
      (∀ w', s.save (m := StateM σ) result.1.2.catalog w = (.ok (), w') →
        result.1.1 = .ok (.notice (.rowsDeleted removed.length))) ∧
      (∀ fault w', s.save (m := StateM σ) result.1.2.catalog w = (.error fault, w') →
        result.1.1 = .error (.save fault)) ∧
      (db.execute (m := StateM σ) s.save selection w).1.1 = .ok (.rows found) ∧
      (f.column ∈ t.schema.columnNames → found = removed) ∧
      (f.column ∉ t.schema.columnNames →
        removed = [] ∧ found = t.rows.filter (f.prefixed table).holds) := by
  intro result
  obtain ⟨hmem, rfl⟩ := Catalog.find?_eq_some_iff.1 ht
  have hwf := h.wellFormed t hmem
  obtain ⟨hcatalog, hsaved, hunsaved⟩ :=
    Database.execute_deletion (s.save (m := StateM σ)) hh ht hd w
  have hselected := Database.execute_selection (s.save (m := StateM σ)) h.wellFormed ht hs w
  refine ⟨t.rows.filter f.holds, _, _, ?_, t.name_deleteWhere _ _, t.schema_deleteWhere _ _,
    hwf.deleteWhere f.column f.value.text, hcatalog, hsaved, hunsaved, hselected, ?_, ?_⟩
  · rw [List.partition_eq_filter_filter, t.rows_deleteWhere_eq_filter]
    rfl
  · intro hc
    exact List.filter_congr fun row hr => by rw [hwf.fulfils_eq hr hagrees, if_pos hc]
  · intro hc
    refine ⟨?_, List.filter_congr fun row hr => by rw [hwf.fulfils_eq hr hagrees, if_neg hc]⟩
    rw [List.filter_eq_nil_iff]
    intro row hr
    rw [hwf.holds_eq_false hr hc]
    exact Bool.false_ne_true

end Reachable

/-- The row with the key 7 is selected, and the same condition deletes it. -/
theorem deleted_and_selected_of_seven :
    ∃ (s : Store) (w : FileSystem) (db : Database), Reachable s w db ∧ db.halted = false ∧
      (db.execute (m := StateM FileSystem) s.save "SELECT * FROM t WHERE id=7" w).1.1 =
        .ok (.rows [.ofList [("id", .integer 7)]]) ∧
      ∃ left, left.rows = [] ∧
        (db.execute (m := StateM FileSystem) s.save "DELETE FROM t WHERE id=7" w).1.2.catalog =
          db.catalog.replace left := by
  obtain ⟨s, w, db, t, hreach, hhalted, hfind, hkey, -, hrows⟩ := exists_reachable_of_seven
  have hd : Statement.parse "DELETE FROM t WHERE id=7" =
      .ok (.delete "t" ⟨"id", .number "7"⟩) := by cbv
  have hs : Statement.parse "SELECT * FROM t WHERE id=7" =
      .ok (.select "t" none (some ⟨"id", .number "7"⟩)) := by decide +kernel
  have hagrees : ∀ row ∈ t.rows, ∀ v, row.get? "id" = some v →
      (v = (Literal.number "7").value ↔ v.display = "7") := by
    rw [hrows]
    rintro row hr v hv
    rw [List.mem_singleton] at hr
    subst hr
    obtain rfl : .integer 7 = v := Option.some.inj hv
    exact iff_of_true (by decide) (by decide)
  obtain ⟨removed, left, found, hsplit, -, -, -, hcatalog, -, -, hselected, hfound, -⟩ :=
    hreach.deleted_and_selected hhalted hfind hd hs fun _ => hagrees
  rw [hrows] at hsplit
  obtain ⟨rfl, hleft⟩ := Prod.mk.inj hsplit
  rw [hfound (t.schema.key_mem "id" hkey)] at hselected
  exact ⟨s, w, db, hreach, hhalted, hselected, left, hleft, hcatalog⟩

/-- On an empty disk a table is created of whose columns one has the name of another, and one the
name of none, after the name of the table; and it is given one row. -/
theorem exists_reachable_of_prefixed_columns :
    ∃ (s : Store) (w : FileSystem) (db : Database), Reachable s w db ∧ db.halted = false ∧
      ∃ t, db.catalog.find? "t" = some t ∧ t.schema.primaryKey = none ∧
        t.schema.columnNames = ["k", "t_k", "t_v"] ∧
        t.rows = [.ofList [("k", .integer 1), ("t_k", .integer 2), ("t_v", .integer 3)]] := by
  let s : Store := ⟨⟨"db", false, false⟩, 0⟩
  let created := (Database.ofCatalog .empty).execute (m := StateM FileSystem) s.save
    "CREATE TABLE t (k int, t_k int, t_v int)" ⟨.empty, []⟩
  let filled := created.1.2.execute (m := StateM FileSystem) s.save
    "INSERT INTO t VALUES (1, 2, 3)" created.2
  have hfilled : (filled.1.2.halted, (filled.1.2.catalog.find? "t").map fun t =>
      (t.schema.primaryKey, t.schema.columnNames, t.rows.map (·.entries))) =
      (false, some (none, ["k", "t_k", "t_v"],
        [[("k", .integer 1), ("t_k", .integer 2), ("t_v", .integer 3)]])) := by
    dsimp only [filled, created, s]
    cbv
  obtain ⟨hhalted, htable⟩ := Prod.mk.inj hfilled
  obtain ⟨t, hfind, hparts⟩ := Option.map_eq_some_iff.1 htable
  simp only [Prod.mk.injEq] at hparts
  obtain ⟨hkey, hcolumns, hrows⟩ := hparts
  obtain ⟨row, hrow, hentries⟩ := List.map_eq_singleton_iff.1 hrows
  obtain rfl : row = .ofList [("k", .integer 1), ("t_k", .integer 2), ("t_v", .integer 3)] :=
    OrderedMap.ext hentries
  exact ⟨s, filled.2, filled.1.2, (reachable_empty.executed _).executed _, hhalted,
    t, hfind, hkey, hcolumns, hrow⟩

/-- A selection finds the row by the prefixed column, and the deletion with the same condition leaves
all tables as they are. -/
theorem exists_selected_not_deleted :
    ∃ (s : Store) (w : FileSystem) (db : Database) (row : Row), Reachable s w db ∧
      db.halted = false ∧
      Statement.parse "SELECT * FROM t WHERE v=3" =
        .ok (.select "t" none (some ⟨"v", .number "3"⟩)) ∧
      Statement.parse "DELETE FROM t WHERE v=3" = .ok (.delete "t" ⟨"v", .number "3"⟩) ∧
      (db.execute (m := StateM FileSystem) s.save "SELECT * FROM t WHERE v=3" w).1.1 =
        .ok (.rows [row]) ∧
      (db.execute (m := StateM FileSystem) s.save "DELETE FROM t WHERE v=3" w).1.2.catalog =
        db.catalog := by
  obtain ⟨s, w, db, hreach, hhalted, t, hfind, hkey, -, hrows⟩ :=
    exists_reachable_of_prefixed_columns
  have hs : Statement.parse "SELECT * FROM t WHERE v=3" =
      .ok (.select "t" none (some ⟨"v", .number "3"⟩)) := by decide +kernel
  have hd : Statement.parse "DELETE FROM t WHERE v=3" =
      .ok (.delete "t" ⟨"v", .number "3"⟩) := by cbv
  have hnothing : db.DeletesNothing "DELETE FROM t WHERE v=3" := by
    refine ⟨_, _, t, hd, hfind, ?_⟩
    rw [hrows]
    decide
  have hselected := Database.execute_selection (s.save (m := StateM FileSystem)) hreach.wellFormed
    hfind hs w
  have hname : t.name = "t" := (Catalog.find?_eq_some_iff.1 hfind).2
  have hfound : t.rows.filter (Reference.fulfils t.toRelation false ⟨"v", .number "3"⟩) =
      [.ofList [("k", .integer 1), ("t_k", .integer 2), ("t_v", .integer 3)]] := by
    unfold Table.toRelation
    rw [hrows, hkey, hname]
    rfl
  rw [hfound] at hselected
  exact ⟨s, w, db, _, hreach, hhalted, hs, hd, hselected,
    (Database.catalog_execute_eq_iff s.save hhalted _ w).2 (.inr hnothing)⟩

end RelStore
