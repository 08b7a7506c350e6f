import Mathlib
import RelStore.Proofs.Execution

/-!
Runs of a database on a disk. A run opens what is stored and goes on with statements, checkpoints
and further openings, in any order. Nothing is assumed of the disk: each of its operations may
fail or not, and a reading may find any content. The catalog is well-formed all along.
-/

namespace RelStore
set_option autoImplicit false
set_option maxRecDepth 4096

variable {σ : Type} [Disk (StateM σ)] {s : Store} {w w' : σ} {db : Database}

/-- The databases that a run can come to, each with the disk as it then is. -/
inductive Reachable (s : Store) : σ → Database → Prop where
  | opened {w w' : σ} {db : Database} (ho : s.openDatabase (m := StateM σ) w = (.ok db, w')) :
    Reachable s w' db
  | executed {w : σ} {db : Database} (h : Reachable s w db) (text : String) :
    Reachable s (db.execute (m := StateM σ) s.save text w).2
      (db.execute (m := StateM σ) s.save text w).1.2
  | checkpointed {w : σ} {db : Database} (h : Reachable s w db) :
    Reachable s (db.checkpoint (m := StateM σ) s.save w).2
      (db.checkpoint (m := StateM σ) s.save w).1.2
  | reopened {w w' : σ} {db db' : Database} (h : Reachable s w db)
      (ho : s.openDatabase (m := StateM σ) w = (.ok db', w')) :
    Reachable s w' db'

namespace Store

theorem load_eq_ok {c : Catalog} (h : s.load (m := StateM σ) w = (.ok c, w')) :
    (Disk.read (m := StateM σ) s.path w = (.ok none, w') ∧ c = .empty) ∨
    ∃ content, Disk.read (m := StateM σ) s.path w = (.ok (some content), w') ∧
      decode content = .ok c := by
  unfold load at h
  rw [Database.bind_apply] at h
  rcases hr : Disk.read (m := StateM σ) s.path w with ⟨fault | _ | content, w''⟩
  · rw [hr] at h
    cases h
  · rw [hr] at h
    cases h
    exact .inl ⟨rfl, rfl⟩
  · rw [hr] at h
    obtain ⟨hc, hw⟩ := Prod.mk.inj h
    exact .inr ⟨content, congrArg _ hw, hc⟩

theorem decode_eq_ok {content : ByteArray} {c : Catalog} (h : decode content = .ok c) :
    ∃ text, String.fromUTF8? content = some text ∧ Catalog.ofCheckpoint text = .ok c := by
  unfold decode at h
  split at h
  · cases h
  · rename_i text ht
    exact ⟨text, ht, mapError_eq_ok.1 h⟩

theorem openDatabase_eq_ok (h : s.openDatabase (m := StateM σ) w = (.ok db, w')) :
    s.load (m := StateM σ) w = (.ok db.catalog, w') ∧ db.halted = false := by
  unfold openDatabase at h
  rw [Database.bind_apply] at h
  rcases hl : s.load (m := StateM σ) w with ⟨fault | c, w''⟩
  · rw [hl] at h
    cases h
  · rw [hl] at h
    cases h
    exact ⟨rfl, rfl⟩

theorem wellFormed_openDatabase (h : s.openDatabase (m := StateM σ) w = (.ok db, w')) :
    db.catalog.WellFormed := by
  rcases load_eq_ok (openDatabase_eq_ok h).1 with ⟨-, hc⟩ | ⟨content, -, hc⟩
  · rw [hc]
    exact Catalog.wellFormed_empty
  · obtain ⟨text, -, ht⟩ := decode_eq_ok hc
    exact Catalog.wellFormed_ofCheckpoint ht

end Store

omit [Disk (StateM σ)] in
/-- A statement, however it comes out, leaves a well-formed catalog. -/
theorem Database.wellFormed_execute (save : Catalog → StateM σ (Except FileFault Unit))
    (h : db.catalog.WellFormed) (text : String) (w : σ) :
    (db.execute save text w).1.2.catalog.WellFormed := by
  have hexecuted := Database.executed save db text w
  generalize db.execute save text w = result at hexecuted
  cases hexecuted with
  | notUnderstood | halted | refused => exact h
  | unchanged _ _ hr | saved _ _ hr | unsaved _ _ hr => exact h.run hr

theorem Reachable.wellFormed (h : Reachable s w db) : db.catalog.WellFormed := by
  induction h with
  | opened ho => exact Store.wellFormed_openDatabase ho
  | executed _ text ih => exact Database.wellFormed_execute _ ih text _
  | checkpointed _ ih =>
    rw [Database.catalog_checkpoint]
    exact ih
  | reopened _ ho _ => exact Store.wellFormed_openDatabase ho

/-- In every database that a run comes to, tables are told apart by their names, columns by
theirs, and a primary key is a column; each row has the columns for its fields, in order; and
there is an index just if there is a primary key, which leads from each key to the row that has
it and has no other entries. -/
theorem Reachable.tables_consistent (h : Reachable s w db) :
    db.catalog.names.Nodup ∧
    ∀ t ∈ db.catalog.tables,
      db.catalog.find? t.name = some t ∧
      t.schema.columnNames.Nodup ∧
      (∀ k, t.schema.primaryKey = some k → k ∈ t.schema.columnNames) ∧
      (∀ row ∈ t.rows, row.keys = t.schema.columnNames) ∧
      t.index.map KeyIndex.column = t.schema.primaryKey ∧
      ∀ index, t.index = some index →
        (∀ key position, index.get? key = some position ↔
          ∃ row, t.rows[position]? = some row ∧ row.get? index.column = some key) ∧
        index.size = t.rows.length ∧
        (t.rows.map (·.get? index.column)).Nodup := by
  refine ⟨db.catalog.nodup, fun t ht => ?_⟩
  have hwf := h.wellFormed t ht
  refine ⟨Catalog.find?_eq_some_iff.2 ⟨ht, rfl⟩, Table.nodup_columnNames t.schema,
    t.schema.key_mem, hwf.row_keys, hwf.index_column, fun index hi => ?_⟩
  have hindexes := hwf.indexes index hi
  exact ⟨hindexes.get?_eq_some_iff, hindexes.size_eq, (hwf.keyed (hwf.primaryKey_of_index hi)).nodup⟩

/-- On an empty disk a database without tables is opened. -/
theorem reachable_empty :
    Reachable (⟨⟨"db", false, false⟩, 0⟩ : Store) (⟨.empty, []⟩ : FileSystem)
      (.ofCatalog .empty) := by
  have hopened : (⟨⟨"db", false, false⟩, 0⟩ : Store).openDatabase (m := StateM FileSystem)
      ⟨.empty, []⟩ = (.ok (.ofCatalog .empty), ⟨.empty, []⟩) := by cbv
  exact .opened hopened

/-- On an empty disk a table with a key is created and given one row. -/
theorem exists_reachable_of_one_row :
    ∃ (s : Store) (w : FileSystem) (db : Database), Reachable s w db ∧ db.halted = false ∧
      ∃ t, db.catalog.tables = [t] ∧ t.name = "t" ∧ t.schema.primaryKey = some "id" ∧
        t.schema.columnNames = ["id"] ∧ t.rows = [.ofList [("id", .integer 7)]] := by
  let s : Store := ⟨⟨"db", false, false⟩, 0⟩
  let created := (Database.ofCatalog .empty).execute (m := StateM FileSystem) s.save
    "CREATE TABLE t (id int) PRIMARY KEY id" ⟨.empty, []⟩
  let filled := created.1.2.execute (m := StateM FileSystem) s.save
    "INSERT INTO t VALUES (7)" created.2
  have hfilled : (filled.1.2.halted, filled.1.2.catalog.tables.map fun t =>
      (t.name, t.schema.primaryKey, t.schema.columnNames, t.rows.map (·.entries))) =
      (false, [("t", some "id", ["id"], [[("id", .integer 7)]])]) := by
    dsimp only [filled, created, s]
    cbv
  obtain ⟨hhalted, htables⟩ := Prod.mk.inj hfilled
  obtain ⟨t, ht, hparts⟩ := List.map_eq_singleton_iff.1 htables
  simp only [Prod.mk.injEq] at hparts
  obtain ⟨hname, hkey, hcolumns, hrows⟩ := hparts
  obtain ⟨row, hrow, hentries⟩ := List.map_eq_singleton_iff.1 hrows
  have hseven : row = .ofList [("id", .integer 7)] := OrderedMap.ext hentries
  rw [hseven] at hrow
  exact ⟨s, filled.2, filled.1.2, (reachable_empty.executed _).executed _, hhalted,
    t, ht, hname, hkey, hcolumns, hrow⟩

/-- The one table is found under its name. -/
theorem exists_reachable_of_seven :
    ∃ (s : Store) (w : FileSystem) (db : Database) (t : Table), Reachable s w db ∧
      db.halted = false ∧ db.catalog.find? "t" = some t ∧ t.schema.primaryKey = some "id" ∧
      t.schema.columnNames = ["id"] ∧ t.rows = [.ofList [("id", .integer 7)]] := by
  obtain ⟨s, w, db, hreach, hhalted, t, ht, hname, hkey, hcolumns, hrows⟩ :=
    exists_reachable_of_one_row
  have hmem : t ∈ db.catalog.tables := ht ▸ List.mem_singleton_self t
  exact ⟨s, w, db, t, hreach, hhalted, Catalog.find?_eq_some_iff.2 ⟨hmem, hname⟩, hkey, hcolumns,
    hrows⟩

theorem parse_join_of_seven : Statement.parse "SELECT * FROM t JOIN t ON t.id=t.id" =
    .ok (.select "t" (some ⟨"t", ⟨"t", "id"⟩, ⟨"t", "id"⟩⟩) none) := by decide +kernel

/-- The index of the one table has the key of its one row and no other. -/
theorem tables_consistent_of_one_row :
    ∃ (s : Store) (w : FileSystem) (db : Database), Reachable s w db ∧
      ∃ t ∈ db.catalog.tables, t.rows.length = 1 ∧
        ∃ index, t.index = some index ∧ index.size = 1 := by
  obtain ⟨s, w, db, hreach, -, t, ht, -, hkey, -, hrows⟩ := exists_reachable_of_one_row
  have hmem : t ∈ db.catalog.tables := ht ▸ List.mem_singleton_self t
  have hlength : t.rows.length = 1 := by
    rw [hrows]
    rfl
  obtain ⟨-, -, -, -, hcolumn, hindex⟩ := hreach.tables_consistent.2 t hmem
  obtain ⟨index, hi, -⟩ := Option.map_eq_some_iff.1 (hcolumn.trans hkey)
  exact ⟨s, w, db, hreach, t, hmem, hlength, index, hi, (hindex index hi).2.1.trans hlength⟩

end RelStore
