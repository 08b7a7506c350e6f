import RelStore.Proofs.Literal
import RelStore.Proofs.Selection

/-!
Finding again what was inserted. A literal is stored as its value, and a selection by the same literal
looks for the value on the primary key and for the text on any other column. So it finds the row on
the primary key whatever the literal is, and on another column unless the literal is a numeral padded
with zeros, whose number is displayed without them.
-/

namespace RelStore
set_option autoImplicit false
set_option maxRecDepth 4096

namespace Table

variable {t : Table} {values : List Value} {row : Row}

theorem get?_of_rowOf (h : t.rowOf values = .ok row) {i : Nat} {column : String} {v : Value}
    (hc : t.schema.columnNames[i]? = some column) (hv : values[i]? = some v) :
    row.get? column = some v := by
  rw [OrderedMap.get?_eq_some_iff, (rowOf_eq_ok h).2]
  exact List.mem_of_getElem? (List.getElem?_zip_eq_some.2 ⟨hc, hv⟩)

end Table

/-- Of a row that has the value of the literal: the condition with the literal finds it on the primary
key, and elsewhere if the literal is not padded. -/
theorem Reference.fulfils_iff_of_get? {r : Relation} {f : Condition} {row : Row}
    (hv : row.get? f.column = some f.value.value) :
    fulfils r false f row = true ↔
      r.primaryKey = some f.column ∨ ¬ Value.IsPadded f.value.text := by
  unfold fulfils
  rw [hv, Bool.not_false, Bool.true_and]
  split
  · rename_i hk
    exact iff_of_true (beq_self_eq_true _) (.inl (eq_of_beq hk))
  · rename_i hk
    have hkey : ¬ r.primaryKey = some f.column := fun he => hk (beq_iff_eq.2 he)
    rw [or_iff_right hkey, ← Value.display_ofLiteral_eq_iff]
    exact beq_iff_eq

namespace Database

variable {σ : Type} {save : Catalog → StateM σ (Except FileFault Unit)} {db : Database}
  {text table : String} {literals : List Literal} {w : σ}

/-- An insertion that is not declined puts a row at the end of its table. -/
theorem exists_insert_of_not_declined (hp : Statement.parse text = .ok (.insert table literals))
    (ha : ¬ Declined (db.execute save text w).1.1) :
    ∃ t row position t', db.catalog.table table = .ok t ∧
      t.rowOf (literals.map Literal.value) = .ok row ∧ (Table.insert row).on t = (.ok position, t') ∧
      (db.execute save text w).1.2.catalog = db.catalog.replace t' := by
  have hexecuted := Database.executed save db text w
  generalize db.execute save text w = result at hexecuted ha
  cases hexecuted with
  | notUnderstood | halted | refused => exact absurd rfl ha
  | unchanged hp' _ hr | saved hp' _ hr | unsaved hp' _ hr =>
    cases hp.symm.trans hp'
    have hrun : (Plan.insert table literals).run db.catalog = (.ok _, _) := hr
    cases Plan.ran_of_run hrun with
    | inserted ht hrow hi => exact ⟨_, _, _, _, ht, hrow, hi, rfl⟩
    | returned hm => cases hm

/-- Into a table without a key every row with as many values as columns is inserted. -/
theorem exists_inserted_of_no_key (save : Catalog → StateM σ (Except FileFault Unit))
    (hc : db.catalog.WellFormed) (hh : db.halted = false) {t : Table}
    (ht : db.catalog.find? table = some t) (hkey : t.schema.primaryKey = none)
    (hp : Statement.parse text = .ok (.insert table literals))
    (hcount : literals.length = t.schema.columnNames.length) (w : σ) :
    ∃ t', (db.execute save text w).1.2.catalog.find? table = some t' ∧
      t'.rows = t.rows ++ [.ofList (t.schema.columnNames.zip (literals.map Literal.value))] := by
  have hrow : t.rowOf (literals.map Literal.value) =
      .ok (.ofList (t.schema.columnNames.zip (literals.map Literal.value))) := by
    apply if_pos
    rw [List.length_map, hcount]
    exact List.length_map _
  obtain ⟨t', hinsert, hname, -, hrows⟩ :=
    (hc t (Catalog.find?_eq_some_iff.1 ht).1).indexed.exists_insert fun column hk => by
      cases hkey.symm.trans hk
  have hrun : (db.planOf (.insert table literals)).run db.catalog =
      (.ok (.notice .rowInserted), ⟨db.catalog.replace t', true⟩) :=
    Plan.run_insert ht hrow hinsert
  rw [(execute_of_modified save hp hh hrun rfl w).1]
  exact ⟨t', Catalog.find?_replace ht hname, hrows⟩

/-- A selection after an insertion that is not declined goes through the rows that were there and the
inserted one. -/
theorem execute_selection_of_inserted (hc : db.catalog.WellFormed) {selection : String} {t : Table}
    {f : Condition} (ht : db.catalog.find? table = some t)
    (hp : Statement.parse text = .ok (.insert table literals))
    (ha : ¬ Declined (db.execute save text w).1.1)
    (hs : Statement.parse selection = .ok (.select table none (some f))) :
    ∃ row t', t.rowOf (literals.map Literal.value) = .ok row ∧
      (db.execute save text w).1.2.catalog.find? table = some t' ∧
      t'.schema = t.schema ∧ t'.rows = t.rows ++ [row] ∧
      ((db.execute save text w).1.2.execute save selection (db.execute save text w).2).1.1 =
        .ok (.rows (t'.rows.filter (Reference.fulfils t'.toRelation false f))) := by
  obtain ⟨u, row, position, t', hu, hrow, hinsert, hcatalog⟩ := exists_insert_of_not_declined hp ha
  cases ht.symm.trans (Catalog.table_eq_ok.1 hu)
  obtain ⟨hname, hschema, hrows⟩ := Table.of_insert_eq_ok hinsert
  have hfind : (db.execute save text w).1.2.catalog.find? table = some t' := by
    rw [hcatalog]
    exact Catalog.find?_replace ht hname
  exact ⟨row, t', hrow, hfind, hschema, hrows,
    execute_selection save (wellFormed_execute save hc text w) hfind hs _⟩

end Database

section Reachable

variable {σ : Type} [Disk (StateM σ)] {s : Store} {w : σ} {db : Database}

/-- In a database that a run comes to, an insertion that is not declined puts a row at the end of its
table, and after it a selection with the condition that a column is the literal inserted there
returns rows, the inserted one as the last of them, if the column is the primary key or the literal
is not a numeral padded with zeros. Otherwise the row is not among them. -/
theorem Reachable.inserted_and_selected (h : Reachable s w db)
    {table insertion selection : String} {literals : List Literal} {t : Table} {i : Nat}
    {column : String} {l : Literal} (ht : db.catalog.find? table = some t)
    (hi : Statement.parse insertion = .ok (.insert table literals))
    (ha : ¬ Database.Declined (db.execute (m := StateM σ) s.save insertion w).1.1)
    (hc : t.schema.columnNames[i]? = some column) (hl : literals[i]? = some l)
    (hs : Statement.parse selection = .ok (.select table none (some ⟨column, l⟩))) :
    let result := db.execute (m := StateM σ) s.save insertion w
    ∃ row t' found,
      row.entries = t.schema.columnNames.zip (literals.map Literal.value) ∧
      result.1.2.catalog.find? table = some t' ∧ t'.rows = t.rows ++ [row] ∧
      (result.1.2.execute (m := StateM σ) s.save selection result.2).1.1 = .ok (.rows found) ∧
      (row ∈ found ↔ t.schema.primaryKey = some column ∨ ¬ Value.IsPadded l.text) ∧
      (row ∈ found → found.getLast? = some row) := by
  intro result
  obtain ⟨row, t', hrow, hfind, hschema, hrows, hselected⟩ :=
    Database.execute_selection_of_inserted h.wellFormed ht hi ha hs
  have hvalue : row.get? column = some l.value :=
    Table.get?_of_rowOf hrow hc (by rw [List.getElem?_map, hl]; rfl)
  have hfulfils := Reference.fulfils_iff_of_get? (r := t'.toRelation) (f := ⟨column, l⟩) hvalue
  have hkey : t'.toRelation.primaryKey = t.schema.primaryKey := congrArg Schema.primaryKey hschema
  rw [hkey] at hfulfils
  have hmem : row ∈ t'.rows := by
    rw [hrows]
    exact List.mem_append_right _ (List.mem_singleton_self row)
  refine ⟨row, t', _, (Table.rowOf_eq_ok hrow).2, hfind, hrows, hselected, ?_, ?_⟩
  · rw [List.mem_filter, and_iff_right hmem, hfulfils]
  · intro hfound
    rw [hrows, List.filter_append, List.filter_singleton, (List.mem_filter.1 hfound).2]
    exact List.getLast?_concat

end Reachable

/-- On an empty disk a table without a key is created, and a literal is inserted, padded or not. -/
theorem exists_reachable_of_empty_table :
    ∃ (s : Store) (w : FileSystem) (db : Database), Reachable s w db ∧ db.halted = false ∧
      (∃ t, db.catalog.find? "t" = some t ∧ t.schema.primaryKey = none ∧
        t.schema.columnNames = ["v"] ∧ t.rows = []) ∧
      (db.execute (m := StateM FileSystem) s.save "INSERT INTO t VALUES (5)" w).1.1 =
        .ok (.notice .rowInserted) ∧
      (db.execute (m := StateM FileSystem) s.save "INSERT INTO t VALUES (007)" w).1.1 =
        .ok (.notice .rowInserted) := by
  let s : Store := ⟨⟨"db", false, false⟩, 0⟩
  let created := (Database.ofCatalog .empty).execute (m := StateM FileSystem) s.save
    "CREATE TABLE t (v int)" ⟨.empty, []⟩
  have hcreated : (created.1.2.halted, (created.1.2.catalog.find? "t").map fun t =>
      (t.schema.primaryKey, t.schema.columnNames, t.rows)) = (false, some (none, ["v"], [])) := by
    dsimp only [created, s]
    cbv
  have hfive : (created.1.2.execute (m := StateM FileSystem) s.save
      "INSERT INTO t VALUES (5)" created.2).1.1 = .ok (.notice .rowInserted) := by
    dsimp only [created, s]
    cbv
  have hpadded : (created.1.2.execute (m := StateM FileSystem) s.save
      "INSERT INTO t VALUES (007)" created.2).1.1 = .ok (.notice .rowInserted) := by
    dsimp only [created, s]
    cbv
  obtain ⟨hhalted, htable⟩ := Prod.mk.inj hcreated
  obtain ⟨t, hfind, hparts⟩ := Option.map_eq_some_iff.1 htable
  simp only [Prod.mk.injEq] at hparts
  exact ⟨s, created.2, created.1.2, reachable_empty.executed _, hhalted,
    ⟨t, hfind, hparts⟩, hfive, hpadded⟩

/-- The literal 5 is found again. -/
theorem inserted_and_selected_of_five :
    ∃ (s : Store) (w : FileSystem) (db : Database), Reachable s w db ∧ db.halted = false ∧
      let result := db.execute (m := StateM FileSystem) s.save "INSERT INTO t VALUES (5)" w
      result.1.1 = .ok (.notice .rowInserted) ∧
      ∃ row found, row.entries = [("v", .integer 5)] ∧
        (result.1.2.execute (m := StateM FileSystem) s.save "SELECT * FROM t WHERE v=5"
          result.2).1.1 = .ok (.rows found) ∧ found.getLast? = some row := by
  obtain ⟨s, w, db, hreach, hhalted, ⟨t, hfind, -, hcolumns, -⟩, hinserted, -⟩ :=
    exists_reachable_of_empty_table
  have hi : Statement.parse "INSERT INTO t VALUES (5)" = .ok (.insert "t" [.number "5"]) := by cbv
  have hs : Statement.parse "SELECT * FROM t WHERE v=5" =
      .ok (.select "t" none (some ⟨"v", .number "5"⟩)) := by decide +kernel
  have ha : ¬ Database.Declined
      (db.execute (m := StateM FileSystem) s.save "INSERT INTO t VALUES (5)" w).1.1 := by
    rw [hinserted]
    exact Bool.false_ne_true.symm
  have hc : t.schema.columnNames[0]? = some "v" := by
    rw [hcolumns]
    rfl
  obtain ⟨row, -, found, hentries, -, -, hfound, hiff, hlast⟩ :=
    hreach.inserted_and_selected hfind hi ha hc rfl hs
  have hpadded : ¬ Value.IsPadded "5" := by
    rw [← Value.display_ofLiteral_eq_iff]
    decide
  rw [hcolumns] at hentries
  exact ⟨s, w, db, hreach, hhalted, hinserted, row, found, hentries, hfound,
    hlast (hiff.2 (.inr hpadded))⟩

/-- The literal 007 is stored as 7, and is not found again. -/
theorem exists_inserted_not_selected :
    ∃ (s : Store) (w : FileSystem) (db : Database), Reachable s w db ∧ db.halted = false ∧
      let result := db.execute (m := StateM FileSystem) s.save "INSERT INTO t VALUES (007)" w
      Statement.parse "INSERT INTO t VALUES (007)" = .ok (.insert "t" [.number "007"]) ∧
      Statement.parse "SELECT * FROM t WHERE v=007" =
        .ok (.select "t" none (some ⟨"v", .number "007"⟩)) ∧
      result.1.1 = .ok (.notice .rowInserted) ∧
      (∃ t, result.1.2.catalog.find? "t" = some t ∧ t.schema.columnNames = ["v"] ∧
        t.rows = [.ofList [("v", .integer 7)]]) ∧
      (result.1.2.execute (m := StateM FileSystem) s.save "SELECT * FROM t WHERE v=007"
        result.2).1.1 = .ok (.rows []) := by
  obtain ⟨s, w, db, hreach, hhalted, ⟨t, hfind, hkey, hcolumns, hrows⟩, -, hinserted⟩ :=
    exists_reachable_of_empty_table
  have hi : Statement.parse "INSERT INTO t VALUES (007)" =
      .ok (.insert "t" [.number "007"]) := by cbv
  have hs : Statement.parse "SELECT * FROM t WHERE v=007" =
      .ok (.select "t" none (some ⟨"v", .number "007"⟩)) := by decide +kernel
  have ha : ¬ Database.Declined
      (db.execute (m := StateM FileSystem) s.save "INSERT INTO t VALUES (007)" w).1.1 := by
    rw [hinserted]
    exact Bool.false_ne_true.symm
  obtain ⟨row, t', hrow, hfind', hschema, hrows', hselected⟩ :=
    Database.execute_selection_of_inserted hreach.wellFormed hfind hi ha hs
  have hseven : row = .ofList [("v", .integer 7)] := by
    refine OrderedMap.ext ?_
    rw [(Table.rowOf_eq_ok hrow).2, hcolumns]
    rfl
  rw [hseven, hrows] at hrows'
  have hnone : t'.rows.filter (Reference.fulfils t'.toRelation false ⟨"v", .number "007"⟩) = [] := by
    unfold Table.toRelation
    rw [hrows', hschema, hkey]
    rfl
  rw [hnone] at hselected
  exact ⟨s, w, db, hreach, hhalted, hi, hs, hinserted,
    ⟨t', hfind', (congrArg Schema.columnNames hschema).trans hcolumns, hrows'⟩, hselected⟩

end RelStore
