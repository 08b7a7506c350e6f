import RelStore.Proofs.Refinement.Run

/-!
What a join tests. Of a condition `p.x = q.y` the columns are looked up by their position, `x` in
the first table of the selection and `y` in the second, and the tables that it names are not looked
at. So the pairs are those of the condition as it is written where it names the first table first,
and otherwise only where no pair of rows tells the two readings apart.
-/

namespace RelStore
set_option autoImplicit false
set_option maxRecDepth 4096

/-- Whether one row in one column and another in another are displayed alike. -/
def Row.agrees (l : Row) (x : String) (r : Row) (y : String) : Bool :=
  (l.get? x).any fun v => (r.get? y).any fun w => v.display == w.display

/-- The pairs of rows that fulfil the condition of a join as it is written: each column is looked up
in the row of the table that it names. There are none to speak of unless it names both tables. -/
def Join.writtenPairs (j : Join) (table : String) (left right : List Row) :
    Option (List (Row × Row)) :=
  if j.left.table = table ∧ j.right.table = j.table then
    some ((left.product right).filter fun pair => pair.1.agrees j.left.column pair.2 j.right.column)
  else if j.left.table = j.table ∧ j.right.table = table then
    some ((left.product right).filter fun pair => pair.2.agrees j.left.column pair.1 j.right.column)
  else
    none

theorem Reference.joinPairs_eq_filter (left right : List Row) (x y : String) :
    joinPairs left right x y =
      (left.product right).filter fun pair => pair.1.agrees x pair.2 y := by
  unfold joinPairs List.product
  rw [List.filter_flatMap]
  refine List.flatMap_congr fun l _ => ?_
  rw [List.filter_map]
  refine congrArg _ (List.filter_congr fun r _ => ?_)
  unfold Row.agrees
  rw [Function.comp_apply]
  cases l.get? x with
  | none => rfl
  | some v =>
    cases r.get? y with
    | none => rfl
    | some w => rfl

theorem Join.writtenPairs_eq_iff (j : Join) (table : String) (left right : List Row) :
    j.writtenPairs table left right = some ((left.product right).filter fun pair =>
        pair.1.agrees j.left.column pair.2 j.right.column) ↔
      j.left.table = table ∧ j.right.table = j.table ∨
      j.left.table = j.table ∧ j.right.table = table ∧ ∀ l ∈ left, ∀ r ∈ right,
        r.agrees j.left.column l j.right.column = l.agrees j.left.column r j.right.column := by
  unfold writtenPairs
  by_cases hforward : j.left.table = table ∧ j.right.table = j.table
  · rw [if_pos hforward]
    exact iff_of_true rfl (.inl hforward)
  rw [if_neg hforward, or_iff_right hforward]
  by_cases hbackward : j.left.table = j.table ∧ j.right.table = table
  · rw [if_pos hbackward, Option.some.injEq, filter_eq_filter_iff]
    constructor
    · intro h
      refine ⟨hbackward.1, hbackward.2, fun l hl r hr => ?_⟩
      exact h (l, r) (List.mem_product.2 ⟨hl, hr⟩)
    · rintro ⟨-, -, h⟩ ⟨l, r⟩ hpair
      obtain ⟨hl, hr⟩ := List.mem_product.1 hpair
      exact h l hl r hr
  · rw [if_neg hbackward]
    constructor
    · intro h
      cases h
    · rintro ⟨hleft, hright, -⟩
      exact absurd ⟨hleft, hright⟩ hbackward

namespace Plan

variable {c : Catalog}

/-- A join gives rows if and only if there are the two tables with the two columns. -/
theorem rows_ofSelect_join_iff (table : String) (j : Join) (found : List Row) :
    rows c (ofSelect table (some j) none) = .ok found ↔
      ∃ l r, c.find? table = some l ∧ c.find? j.table = some r ∧
        j.left.column ∈ l.schema.columnNames ∧ j.right.column ∈ r.schema.columnNames ∧
        found = ((l.rows.product r.rows).filter fun pair =>
          pair.1.agrees j.left.column pair.2 j.right.column).map fun pair =>
            pair.1.joinWith j.table pair.2 := by
  cases ht : c.find? table with
  | none =>
    have hrows := rows_of_find?_eq_none ht (some j) none
    rw [useIndex_ofSelect_none] at hrows
    rw [hrows]
    constructor
    · intro h
      cases h
    · rintro ⟨l, -, h, -⟩
      cases h
  | some l =>
    rw [rows_ofSelect_none ht, mapError_eq_ok, Reference.joined, Catalog.find_toState]
    cases hr : c.find? j.table with
    | none =>
      have htable : c.table j.table = .error (.tableNotFound j.table) := by
        unfold Catalog.table
        rw [hr]
      rw [htable]
      constructor
      · intro h
        cases h
      · rintro ⟨-, r, -, h, -⟩
        cases h
    | some r =>
      rw [Catalog.table_eq_ok.2 hr, ok_map, ok_bind, Reference.joinPairs_eq_filter]
      constructor
      · intro h
        split at h
        · cases h
        · rename_i hleft
          split at h
          · cases h
          · rename_i hright
            cases h
            simp only [← joinWith_eq]
            exact ⟨l, r, rfl, rfl, not_not.1 hleft, not_not.1 hright, rfl⟩
      · rintro ⟨_, _, ⟨⟩, ⟨⟩, hleft, hright, rfl⟩
        have hleft' : j.left.column ∈ l.toRelation.columns.map Prod.fst := hleft
        have hright' : j.right.column ∈ r.toRelation.columns.map Prod.fst := hright
        rw [if_neg (not_not.2 hleft'), if_neg (not_not.2 hright')]
        simp only [← joinWith_eq]
        rfl

end Plan

namespace Database

variable {σ : Type} {save : Catalog → StateM σ (Except FileFault Unit)} {db : Database}
  {text table : String} {second : Option Join} {condition : Option Condition}

/-- A selection is answered with the rows of its plan. -/
theorem execute_select_iff (hp : Statement.parse text = .ok (.select table second condition))
    (w : σ) (found : List Row) :
    (db.execute save text w).1.1 = .ok (.rows found) ↔
      ((Plan.ofSelect table second condition).useIndex db.catalog).rows db.catalog = .ok found := by
  have hreads : ((Plan.ofSelect table second condition).useIndex db.catalog).readsRows = true := by
    rw [Plan.readsRows_useIndex, Plan.readsRows_ofSelect]
  have hrun := Plan.run_of_readsRows hreads (c := db.catalog)
  have hexecuted := Database.executed save db text w
  generalize db.execute save text w = result at hexecuted
  cases hexecuted with
  | notUnderstood hp' => cases hp.symm.trans hp'
  | halted hp' hm =>
    cases hp.symm.trans hp'
    have hreads' := Plan.isMutating_of_readsRows (Plan.readsRows_ofSelect table second condition)
    cases hm.symm.trans hreads'
  | refused hp' _ hr =>
    cases hp.symm.trans hp'
    have hr' := (congrArg Prod.fst hrun).symm.trans hr
    constructor
    · intro h
      cases h
    · intro h
      rw [h] at hr'
      cases hr'
  | unchanged hp' _ hr =>
    cases hp.symm.trans hp'
    have hr' := hrun.symm.trans hr
    cases hrows : ((Plan.ofSelect table second condition).useIndex db.catalog).rows db.catalog with
    | error fault =>
      rw [hrows] at hr'
      cases hr'
    | ok rows =>
      rw [hrows] at hr'
      cases hr'
      constructor
      · intro h
        cases h
        rfl
      · intro h
        cases h
        rfl
  | saved hp' _ hr hm | unsaved hp' _ hr hm =>
    cases hp.symm.trans hp'
    have hmutating := Plan.isMutating_of_modified hr hm
    have hreads' := Plan.isMutating_of_readsRows (Plan.readsRows_ofSelect table second condition)
    cases hmutating.symm.trans hreads'

theorem execute_join_iff {j : Join} (hp : Statement.parse text = .ok (.select table (some j) none))
    (w : σ) (found : List Row) :
    (db.execute save text w).1.1 = .ok (.rows found) ↔
      ∃ l r, db.catalog.find? table = some l ∧ db.catalog.find? j.table = some r ∧
        j.left.column ∈ l.schema.columnNames ∧ j.right.column ∈ r.schema.columnNames ∧
        found = ((l.rows.product r.rows).filter fun pair =>
          pair.1.agrees j.left.column pair.2 j.right.column).map fun pair =>
            pair.1.joinWith j.table pair.2 := by
  rw [execute_select_iff hp, Plan.useIndex_ofSelect_none, Plan.rows_ofSelect_join_iff]

/-- Whatever tables its condition names, a join is answered with rows if and only if the first
table of the selection has the column on the left of the condition and the second table the column
on the right, and the rows are those of the pairs that are displayed alike in these columns. They
are the pairs of the condition as it is written if and only if it names the first table on the left
and the second on the right, or names them the other way round and no pair tells the two readings
apart. -/
theorem answers_join {j : Join} (hp : Statement.parse text = .ok (.select table (some j) none))
    (w : σ) :
    (∀ found, (db.execute save text w).1.1 = .ok (.rows found) ↔
      ∃ l r, db.catalog.find? table = some l ∧ db.catalog.find? j.table = some r ∧
        j.left.column ∈ l.schema.columnNames ∧ j.right.column ∈ r.schema.columnNames ∧
        found = ((l.rows.product r.rows).filter fun pair =>
          pair.1.agrees j.left.column pair.2 j.right.column).map fun pair =>
            pair.1.joinWith j.table pair.2) ∧
    ∀ l r, db.catalog.find? table = some l → db.catalog.find? j.table = some r →
      (j.writtenPairs table l.rows r.rows = some ((l.rows.product r.rows).filter fun pair =>
          pair.1.agrees j.left.column pair.2 j.right.column) ↔
        j.left.table = table ∧ j.right.table = j.table ∨
        j.left.table = j.table ∧ j.right.table = table ∧ ∀ x ∈ l.rows, ∀ y ∈ r.rows,
          y.agrees j.left.column x j.right.column = x.agrees j.left.column y j.right.column) :=
  ⟨execute_join_iff hp w, fun l r _ _ => j.writtenPairs_eq_iff table l.rows r.rows⟩

/-- A table joined with itself on its key. -/
theorem answers_join_of_seven :
    ∃ (s : Store) (w : FileSystem) (db : Database), Reachable s w db ∧
      (db.execute (m := StateM FileSystem) s.save "SELECT * FROM t JOIN t ON t.id=t.id" w).1.1 =
        .ok (.rows [.ofList [("id", .integer 7), ("t_id", .integer 7)]]) := by
  obtain ⟨s, w, db, hreach, -, t, ht, hname, hkey, -, hrows⟩ := exists_reachable_of_one_row
  have hfind : db.catalog.find? "t" = some t :=
    Catalog.find?_eq_some_iff.2 ⟨ht ▸ List.mem_singleton_self t, hname⟩
  have hcolumn := t.schema.key_mem "id" hkey
  have hfound := @answers_join FileSystem s.save db _ _ _ parse_join_of_seven w
  refine ⟨s, w, db, hreach, (hfound.1 _).2 ⟨t, t, hfind, hfind, hcolumn, hcolumn, ?_⟩⟩
  rw [hrows]
  rfl

/-- The same rows are the answer to a condition on tables that there are not. -/
theorem exists_join_of_other_tables :
    ∃ (s : Store) (w : FileSystem) (db : Database) (t : Table) (j : Join), Reachable s w db ∧
      db.catalog.find? "t" = some t ∧
      Statement.parse "SELECT * FROM t JOIN t ON p.id=q.id" = .ok (.select "t" (some j) none) ∧
      j.writtenPairs "t" t.rows t.rows = none ∧
      (db.execute (m := StateM FileSystem) s.save "SELECT * FROM t JOIN t ON p.id=q.id" w).1.1 =
        .ok (.rows [.ofList [("id", .integer 7), ("t_id", .integer 7)]]) := by
  obtain ⟨s, w, db, hreach, -, t, ht, hname, hkey, -, hrows⟩ := exists_reachable_of_one_row
  have hparse : Statement.parse "SELECT * FROM t JOIN t ON p.id=q.id" =
      .ok (.select "t" (some ⟨"t", ⟨"p", "id"⟩, ⟨"q", "id"⟩⟩) none) := by cbv
  have hfind : db.catalog.find? "t" = some t :=
    Catalog.find?_eq_some_iff.2 ⟨ht ▸ List.mem_singleton_self t, hname⟩
  have hcolumn := t.schema.key_mem "id" hkey
  refine ⟨s, w, db, t, _, hreach, hfind, hparse, rfl, (execute_join_iff hparse w _).2 ?_⟩
  refine ⟨t, t, hfind, hfind, hcolumn, hcolumn, ?_⟩
  rw [hrows]
  rfl

end Database

end RelStore
