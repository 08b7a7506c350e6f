import RelStore.Proofs.Attempt
import RelStore.Proofs.Except
import RelStore.Proofs.KeyIndex
import RelStore.Table

/-!
Well-formed tables: every row has the table's columns for its fields, and the index over the
primary key is exact. Each operation on a table keeps this, whether it appends a row, takes in a
stored row or removes rows by whatever column. A row that is refused has not been put anywhere, since
the checks come before the changes.
-/

namespace RelStore
set_option autoImplicit false

namespace Table

/-- The rows have the columns of the schema in its order, and the index is the exact index over
the primary key. -/
structure WellFormed (t : Table) : Prop where
  row_keys : ∀ row ∈ t.rows, row.keys = t.schema.columnNames
  index_column : t.index.map KeyIndex.column = t.schema.primaryKey
  indexes : ∀ index, t.index = some index → index.Indexes t.rows

theorem nodup_columnNames (s : Schema) : s.columnNames.Nodup :=
  s.columns.nodup

/-- The index is the exact index over the primary key, and every row has a key. The other fields of the
rows are left open. -/
structure Indexed (t : Table) : Prop where
  index_column : t.index.map KeyIndex.column = t.schema.primaryKey
  indexes : ∀ index, t.index = some index → index.Indexes t.rows
  has_key : ∀ column, t.schema.primaryKey = some column → ∀ row ∈ t.rows, (row.get? column).isSome

namespace Indexed

variable {t : Table}

theorem primaryKey_of_index (h : t.Indexed) {index : KeyIndex} (hi : t.index = some index) :
    t.schema.primaryKey = some index.column := by
  rw [← h.index_column, hi]
  rfl

theorem index_of_primaryKey (h : t.Indexed) {column : String}
    (hk : t.schema.primaryKey = some column) :
    ∃ index, t.index = some index ∧ index.column = column := by
  rw [← h.index_column, Option.map_eq_some_iff] at hk
  exact hk

theorem keyed (h : t.Indexed) {column : String} (hk : t.schema.primaryKey = some column) :
    KeyIndex.Keyed column t.rows := by
  obtain ⟨index, hi, rfl⟩ := h.index_of_primaryKey hk
  exact (h.indexes index hi).keyed (h.has_key _ hk)

theorem contains_iff (h : t.Indexed) {index : KeyIndex} (hi : t.index = some index)
    {key : Value} :
    index.contains key = true ↔ ∃ row ∈ t.rows, row.get? index.column = some key :=
  (h.indexes index hi).contains_iff

end Indexed

namespace WellFormed

variable {t : Table}

theorem isSome_get? (h : t.WellFormed) {row : Row} (hr : row ∈ t.rows) {column : String}
    (hc : column ∈ t.schema.columnNames) : (row.get? column).isSome := by
  rw [OrderedMap.isSome_get?_iff, h.row_keys row hr]
  exact hc

theorem get?_eq_none (h : t.WellFormed) {row : Row} (hr : row ∈ t.rows) {column : String}
    (hc : column ∉ t.schema.columnNames) : row.get? column = none := by
  rw [OrderedMap.get?_eq_none_iff, h.row_keys row hr]
  exact hc

theorem indexed (h : t.WellFormed) : t.Indexed :=
  ⟨h.index_column, h.indexes, fun _ hk _ hr => h.isSome_get? hr (t.schema.key_mem _ hk)⟩

theorem primaryKey_of_index (h : t.WellFormed) {index : KeyIndex} (hi : t.index = some index) :
    t.schema.primaryKey = some index.column :=
  h.indexed.primaryKey_of_index hi

theorem index_of_primaryKey (h : t.WellFormed) {column : String}
    (hk : t.schema.primaryKey = some column) :
    ∃ index, t.index = some index ∧ index.column = column :=
  h.indexed.index_of_primaryKey hk

theorem keyed (h : t.WellFormed) {column : String} (hk : t.schema.primaryKey = some column) :
    KeyIndex.Keyed column t.rows :=
  h.indexed.keyed hk

end WellFormed

theorem wellFormed_empty (name : String) (schema : Schema) : (empty name schema).WellFormed := by
  refine ⟨nofun, ?_, ?_⟩
  · change (schema.primaryKey.map KeyIndex.empty).map KeyIndex.column = schema.primaryKey
    rw [Option.map_map]
    exact congrFun Option.map_id schema.primaryKey
  · intro index hi
    obtain ⟨column, -, rfl⟩ := Option.map_eq_some_iff.1 hi
    exact .nil column

theorem on_enterKey (t : Table) (row : Row) (position : Nat) :
    (enterKey row position).on t =
      match t.index with
      | none => (.ok (), t)
      | some index =>
        match index.keyOf? row with
        | none => (.error (.columnNotFound index.column t.name), t)
        | some key =>
          if index.contains key then (.error (.duplicateKey key), t)
          else (.ok (), { t with index := some (index.insert key position) }) := by
  unfold enterKey
  rw [Attempt.on_get_bind]
  cases t.index with
  | none => rfl
  | some index =>
    dsimp only
    cases index.keyOf? row with
    | none => rfl
    | some key =>
      dsimp only
      split <;> rfl

/-- The key is put into the index when all has been checked. -/
theorem atomic_enterKey (row : Row) (position : Nat) : (enterKey row position).Atomic := by
  refine .after_reads .get fun t => ?_
  split
  · exact (Attempt.Succeeds.pure _).atomic
  · split
    · exact (Attempt.Reads.throw _).atomic
    · split
      · exact (Attempt.Reads.throw _).atomic
      · exact (Attempt.Succeeds.set _).atomic

/-- A row that is refused leaves the table as it was, its rows and its index. -/
theorem atomic_insert (row : Row) : (insert row).Atomic := by
  refine .after_reads .get fun t => ?_
  refine (atomic_enterKey row t.rows.length).bind fun _ => ?_
  exact (Attempt.Succeeds.modify _).bind fun _ => .pure _

theorem atomic_insertValues (values : List Value) : (insertValues values).Atomic :=
  .after_reads (.check _) fun row => atomic_insert row

theorem on_insert (t : Table) (row : Row) :
    (insert row).on t =
      match (enterKey row t.rows.length).on t with
      | (.ok _, t') => (.ok t.rows.length, t'.pushRow row)
      | (.error r, t') => (.error r, t') := by
  unfold insert
  rw [Attempt.on_get_bind, Attempt.on_bind]
  rcases (enterKey row t.rows.length).on t with ⟨_ | _, _⟩ <;> rfl

theorem insert_eq_ok {t t' : Table} {row : Row} {position : Nat}
    (h : (insert row).on t = (.ok position, t')) :
    position = t.rows.length ∧
      ((t.index = none ∧ t' = { t with rows := t.rows ++ [row] }) ∨
       ∃ index key, t.index = some index ∧ index.keyOf? row = some key ∧
        index.contains key = false ∧
        t' = { t with rows := t.rows ++ [row],
                      index := some (index.insert key t.rows.length) }) := by
  rw [on_insert, on_enterKey] at h
  split at h
  · rename_i taken t₁ he
    cases h
    refine ⟨rfl, ?_⟩
    split at he
    · rename_i hi
      cases he
      exact .inl ⟨hi, rfl⟩
    · rename_i index hi
      split at he
      · cases he
      · rename_i key hkey
        split at he
        · cases he
        · rename_i hc
          cases he
          exact .inr ⟨index, key, hi, hkey, Bool.eq_false_iff.2 hc, rfl⟩
  · cases h

theorem on_insertValues (t : Table) (values : List Value) :
    (insertValues values).on t =
      match t.rowOf values with
      | .ok row => (insert row).on t
      | .error r => (.error r, t) := by
  unfold insertValues
  rw [Attempt.on_check_bind]
  cases t.rowOf values <;> rfl

theorem insertValues_eq_ok {t t' : Table} {values : List Value} {position : Nat} :
    (insertValues values).on t = (.ok position, t') ↔
      ∃ row, t.rowOf values = .ok row ∧ (insert row).on t = (.ok position, t') := by
  rw [on_insertValues]
  cases t.rowOf values with
  | error r => exact iff_of_false nofun nofun
  | ok row => exact ⟨fun h => ⟨row, rfl, h⟩, fun ⟨_, hr, h⟩ => by cases hr; exact h⟩

theorem of_insert_eq_ok {t t' : Table} {row : Row} {position : Nat}
    (h : (insert row).on t = (.ok position, t')) :
    t'.name = t.name ∧ t'.schema = t.schema ∧ t'.rows = t.rows ++ [row] := by
  obtain ⟨-, ⟨-, rfl⟩ | ⟨index, key, -, -, -, rfl⟩⟩ := insert_eq_ok h
  · exact ⟨rfl, rfl, rfl⟩
  · exact ⟨rfl, rfl, rfl⟩

theorem ne_of_insert {t t' : Table} {row : Row} {position : Nat}
    (h : (insert row).on t = (.ok position, t')) : t' ≠ t := by
  rintro rfl
  have hrows : t'.rows = t'.rows ++ [row] := (of_insert_eq_ok h).2.2
  exact List.cons_ne_nil row [] (List.self_eq_append_right.1 hrows)

/-- Whatever else a row holds that is taken in, it has a key, and one that is new. -/
theorem Indexed.insert {t t' : Table} {row : Row} {position : Nat} (h : t.Indexed)
    (hi : (Table.insert row).on t = (.ok position, t')) : t'.Indexed := by
  obtain ⟨-, ⟨hnone, rfl⟩ | ⟨index, key, hsome, hkey, hnew, rfl⟩⟩ := insert_eq_ok hi
  · have hkeyless : t.schema.primaryKey = none := by
      rw [← h.index_column, hnone]
      rfl
    refine ⟨h.index_column, fun index he => ?_, fun column hk => ?_⟩
    · cases hnone.symm.trans he
    · cases hkeyless.symm.trans hk
  · refine ⟨?_, ?_, ?_⟩
    · rw [← h.index_column, hsome]
      rfl
    · intro index' he
      cases he
      exact (h.indexes index hsome).append hkey hnew
    · intro column hk row' hr
      cases (h.primaryKey_of_index hsome).symm.trans hk
      rcases List.mem_append.1 hr with hr | hr
      · exact h.has_key _ hk row' hr
      · rw [List.mem_singleton.1 hr]
        exact Option.isSome_of_eq_some hkey

theorem WellFormed.insert {t t' : Table} {row : Row} {position : Nat} (h : t.WellFormed)
    (hrow : row.keys = t.schema.columnNames) (hi : (Table.insert row).on t = (.ok position, t')) :
    t'.WellFormed := by
  obtain ⟨-, hschema, hrows⟩ := of_insert_eq_ok hi
  have hindexed := h.indexed.insert hi
  refine ⟨fun row' hr => ?_, hindexed.index_column, hindexed.indexes⟩
  rw [hrows] at hr
  rw [hschema]
  rcases List.mem_append.1 hr with hr | hr
  · exact h.row_keys row' hr
  · rw [List.mem_singleton.1 hr, hrow]

theorem Indexed.insert_of_missing {t : Table} {row : Row} {column : String}
    (h : t.Indexed) (hk : t.schema.primaryKey = some column) (hkey : row.get? column = none) :
    (Table.insert row).on t = (.error (.columnNotFound column t.name), t) := by
  obtain ⟨index, hi, rfl⟩ := h.index_of_primaryKey hk
  rw [on_insert, on_enterKey, hi]
  simp only [KeyIndex.keyOf?, hkey]

theorem Indexed.insert_of_taken {t : Table} {row : Row} {column : String} {key : Value}
    (h : t.Indexed) (hk : t.schema.primaryKey = some column)
    (hkey : row.get? column = some key) (ht : ∃ other ∈ t.rows, other.get? column = some key) :
    (Table.insert row).on t = (.error (.duplicateKey key), t) := by
  obtain ⟨index, hi, rfl⟩ := h.index_of_primaryKey hk
  rw [on_insert, on_enterKey, hi]
  simp only [KeyIndex.keyOf?, hkey, (h.contains_iff hi).2 ht, if_true]

/-- A row is taken in if there is no primary key or if its key is new. -/
theorem Indexed.exists_insert {t : Table} {row : Row} (h : t.Indexed)
    (hfree : ∀ column, t.schema.primaryKey = some column →
      ∃ key, row.get? column = some key ∧ ∀ other ∈ t.rows, other.get? column ≠ some key) :
    ∃ t', (Table.insert row).on t = (.ok t.rows.length, t') ∧ t'.name = t.name ∧
      t'.schema = t.schema ∧ t'.rows = t.rows ++ [row] := by
  rw [on_insert, on_enterKey]
  cases hi : t.index with
  | none => exact ⟨_, rfl, rfl, rfl, rfl⟩
  | some index =>
    obtain ⟨key, hkey, hnew⟩ := hfree index.column (h.primaryKey_of_index hi)
    have hc : ¬ index.contains key = true := by
      rw [h.contains_iff hi]
      rintro ⟨other, hother, he⟩
      exact hnew other hother he
    simp only [KeyIndex.keyOf?, hkey, if_neg hc]
    exact ⟨_, rfl, rfl, rfl, rfl⟩

/-- The check that stored rows undergo. -/
theorem hasFields_columnNames_iff {s : Schema} {row : Row} :
    row.HasFields s.columnNames ↔ row.size = s.columns.size ∧ row.keys.all s.hasColumn = true := by
  rw [Row.hasFields_iff (nodup_columnNames s), Schema.columnNames, OrderedMap.length_keys,
    List.all_eq_true]
  exact and_congr_right fun _ => forall₂_congr fun _ _ => OrderedMap.contains_iff.symm

theorem accept_eq_ok {t t' : Table} {row : Row} (h : t.accept row = .ok t') :
    row.HasFields t.schema.columnNames ∧
      ∃ position, (insert (row.arrange t.schema.columnNames)).on t = (.ok position, t') := by
  unfold accept at h
  split at h
  · rename_i hrow
    split at h
    · rename_i position _ hi
      cases h
      exact ⟨hasFields_columnNames_iff.2 hrow, position, hi⟩
    · cases h
    · cases h
  · cases h

/-- A row that fills the columns in order is taken in as it is. -/
theorem accept_of_insert {t t' : Table} {row : Row} {position : Nat}
    (hrow : row.keys = t.schema.columnNames) (hi : (insert row).on t = (.ok position, t')) :
    t.accept row = .ok t' := by
  have hfields : row.HasFields t.schema.columnNames := fun field => by rw [hrow]
  have harrange : row.arrange t.schema.columnNames = row := by
    rw [← hrow, row.arrange_keys]
  unfold accept
  rw [if_pos (hasFields_columnNames_iff.1 hfields), harrange, hi]

theorem keys_arrange_columnNames {s : Schema} {row : Row} (h : row.HasFields s.columnNames) :
    (row.arrange s.columnNames).keys = s.columnNames :=
  Row.keys_arrange (nodup_columnNames s) fun column hc => (h column).2 hc

theorem WellFormed.accept {t t' : Table} {row : Row} (h : t.WellFormed)
    (ha : t.accept row = .ok t') : t'.WellFormed := by
  obtain ⟨hrow, position, hi⟩ := accept_eq_ok ha
  exact h.insert (keys_arrange_columnNames hrow) hi

theorem wellFormed_restore {name : String} {schema : Schema} {rows : List Row} {t : Table}
    (h : restore name schema rows = .ok t) : t.WellFormed :=
  of_foldlM_eq_ok (fun _ _ _ hb ha => hb.accept ha) (wellFormed_empty name schema) h

theorem accept_of_not_hasFields {t : Table} {row : Row}
    (h : ¬ row.HasFields t.schema.columnNames) :
    t.accept row = .error (.columnsDiffer t.name) := by
  rw [hasFields_columnNames_iff] at h
  exact if_neg h

theorem WellFormed.accept_of_taken {t : Table} {row : Row} {column : String} {key : Value}
    (ht : t.WellFormed) (h : row.HasFields t.schema.columnNames)
    (hk : t.schema.primaryKey = some column) (hkey : row.get? column = some key)
    (htaken : ∃ other ∈ t.rows, other.get? column = some key) :
    t.accept row = .error (.duplicateKey key t.name) := by
  have hkey' : (row.arrange t.schema.columnNames).get? column = some key := by
    rw [h.get?_arrange (nodup_columnNames _), hkey]
  unfold Table.accept
  rw [if_pos (hasFields_columnNames_iff.1 h), ht.indexed.insert_of_taken hk hkey' htaken]

theorem WellFormed.exists_accept {t : Table} {row : Row} (ht : t.WellFormed)
    (h : row.HasFields t.schema.columnNames)
    (hfree : ∀ column, t.schema.primaryKey = some column →
      ∀ other ∈ t.rows, other.get? column ≠ row.get? column) :
    ∃ t', t.accept row = .ok t' ∧ t'.WellFormed ∧ t'.name = t.name ∧ t'.schema = t.schema ∧
      t'.rows = t.rows ++ [row.arrange t.schema.columnNames] := by
  have hfree' : ∀ column, t.schema.primaryKey = some column →
      ∃ key, (row.arrange t.schema.columnNames).get? column = some key ∧
        ∀ other ∈ t.rows, other.get? column ≠ some key := by
    intro column hk
    have hm : column ∈ row.keys := (h column).2 (t.schema.key_mem column hk)
    obtain ⟨key, hkey⟩ := Option.isSome_iff_exists.1 (OrderedMap.isSome_get?_iff.2 hm)
    rw [h.get?_arrange (nodup_columnNames t.schema)]
    exact ⟨key, hkey, fun other hother he => hfree column hk other hother (he.trans hkey.symm)⟩
  obtain ⟨t', hi, hname, hschema, hrows⟩ := ht.indexed.exists_insert hfree'
  have ha : t.accept row = .ok t' := by
    unfold Table.accept
    rw [if_pos (hasFields_columnNames_iff.1 h), hi]
  exact ⟨t', ha, ht.accept ha, hname, hschema, hrows⟩

/-- A stored row is taken in, or it has not the columns, or its key is taken. The table refuses it
for no other reason. -/
theorem WellFormed.accept_cases {t : Table} (ht : t.WellFormed) (row : Row) :
    (row.HasFields t.schema.columnNames ∧
      (∀ column, t.schema.primaryKey = some column →
        ∀ other ∈ t.rows, other.get? column ≠ row.get? column) ∧
      ∃ t', t.accept row = .ok t' ∧ t'.WellFormed ∧ t'.name = t.name ∧ t'.schema = t.schema ∧
        t'.rows = t.rows ++ [row.arrange t.schema.columnNames]) ∨
    (¬ row.HasFields t.schema.columnNames ∧ t.accept row = .error (.columnsDiffer t.name)) ∨
    ∃ column key, t.schema.primaryKey = some column ∧ row.get? column = some key ∧
      (∃ other ∈ t.rows, other.get? column = some key) ∧
      t.accept row = .error (.duplicateKey key t.name) := by
  by_cases h : row.HasFields t.schema.columnNames
  · by_cases hfree : ∀ column, t.schema.primaryKey = some column →
        ∀ other ∈ t.rows, other.get? column ≠ row.get? column
    · exact .inl ⟨h, hfree, ht.exists_accept h hfree⟩
    · push Not at hfree
      obtain ⟨column, hk, other, hother, he⟩ := hfree
      have hm : column ∈ row.keys := (h column).2 (t.schema.key_mem column hk)
      obtain ⟨key, hkey⟩ := Option.isSome_iff_exists.1 (OrderedMap.isSome_get?_iff.2 hm)
      have htaken : ∃ other ∈ t.rows, other.get? column = some key := ⟨other, hother, he.trans hkey⟩
      exact .inr (.inr ⟨column, key, hk, hkey, htaken, ht.accept_of_taken h hk hkey htaken⟩)
  · exact .inr (.inl ⟨h, accept_of_not_hasFields h⟩)

/-- Stored rows are taken in if they all have the columns and no key comes twice. -/
theorem WellFormed.exists_foldlM_accept {t : Table} (ht : t.WellFormed) {rows : List Row}
    (hfields : ∀ row ∈ rows, row.HasFields t.schema.columnNames)
    (hkeys : ∀ column, t.schema.primaryKey = some column →
      ((t.rows ++ rows).map (·.get? column)).Nodup) :
    ∃ t', rows.foldlM Table.accept t = .ok t' ∧ t'.WellFormed ∧ t'.name = t.name ∧
      t'.schema = t.schema ∧ t'.rows = t.rows ++ rows.map (·.arrange t.schema.columnNames) := by
  induction rows generalizing t with
  | nil => exact ⟨t, rfl, ht, rfl, rfl, (List.append_nil _).symm⟩
  | cons row rest ih =>
    have hrow := hfields row List.mem_cons_self
    have hfree : ∀ column, t.schema.primaryKey = some column →
        ∀ other ∈ t.rows, other.get? column ≠ row.get? column := by
      intro column hk other hother he
      exact not_mem_map_of_nodup_append (hkeys column hk) (he ▸ List.mem_map_of_mem hother)
    obtain ⟨u, ha, hu, hname, hschema, hrows⟩ := ht.exists_accept hrow hfree
    obtain ⟨t', hfold, ht', hname', hschema', hrows'⟩ := ih hu
      (fun row' hr => hschema ▸ hfields row' (List.mem_cons_of_mem _ hr))
      (fun column hk => by
        rw [hrows, hrow.map_get?_arrange (nodup_columnNames _)]
        exact hkeys column (hschema ▸ hk))
    refine ⟨t', ?_, ht', hname'.trans hname, hschema'.trans hschema, ?_⟩
    · rw [List.foldlM_cons, ha]
      exact hfold
    · rw [hrows', hrows, hschema, List.map_cons, List.append_assoc, List.singleton_append]

theorem WellFormed.of_foldlM_accept {t t' : Table} (ht : t.WellFormed) {rows : List Row}
    (h : rows.foldlM Table.accept t = .ok t') :
    (∀ row ∈ rows, row.HasFields t.schema.columnNames) ∧
      ∀ column, t.schema.primaryKey = some column →
        ((t.rows ++ rows).map (·.get? column)).Nodup := by
  induction rows generalizing t with
  | nil =>
    refine ⟨nofun, fun column hk => ?_⟩
    rw [List.append_nil]
    exact (ht.keyed hk).nodup
  | cons row rest ih =>
    rw [List.foldlM_cons, bind_eq_ok] at h
    obtain ⟨u, ha, hrest⟩ := h
    rcases ht.accept_cases row with ⟨hrow, -, u', ha', hu, -, hschema, hrows⟩ | ⟨-, he⟩ |
      ⟨column, key, -, -, -, he⟩
    · cases ha.symm.trans ha'
      obtain ⟨hfields, hkeys⟩ := ih hu hrest
      rw [hschema] at hfields hkeys
      rw [hrows] at hkeys
      refine ⟨fun row' hr => ?_, fun column hk => ?_⟩
      · rcases List.mem_cons.1 hr with rfl | hr
        · exact hrow
        · exact hfields row' hr
      · rw [← hrow.map_get?_arrange (nodup_columnNames _)]
        exact hkeys column hk
    · cases ha.symm.trans he
    · cases ha.symm.trans he

theorem WellFormed.foldlM_accept_ne_refused {t : Table} (ht : t.WellFormed) {rows : List Row}
    {fault : RowFault} (h : rows.foldlM Table.accept t = .error fault) (r : Refusal) :
    fault ≠ .refused r := by
  refine of_foldlM_eq_error (P := WellFormed) (Q := (· ≠ .refused r))
    (fun _ _ _ hb ha => hb.accept ha) ?_ ht h
  intro u row e hu he
  rcases hu.accept_cases row with ⟨-, -, u', ha, -⟩ | ⟨-, ha⟩ | ⟨column, key, -, -, -, ha⟩
  · cases he.symm.trans ha
  · cases he.symm.trans ha
    nofun
  · cases he.symm.trans ha
    nofun

/-- The index is the one that is made of the rows. -/
theorem Indexed.index_eq {t : Table} (ht : t.Indexed) :
    t.index = t.schema.primaryKey.map fun column => KeyIndex.build column t.rows := by
  rw [← ht.index_column, Option.map_map]
  cases hi : t.index with
  | none => rfl
  | some index =>
    have hkeyed := ht.keyed (ht.primaryKey_of_index hi)
    have hbuilt : (KeyIndex.build index.column t.rows).Indexes t.rows :=
      (KeyIndex.empty index.column).indexes_rebuild hkeyed
    exact congrArg some ((ht.indexes index hi).unique hbuilt (KeyIndex.column_rebuild _ _).symm)

theorem WellFormed.ext {t u : Table} (ht : t.WellFormed) (hu : u.WellFormed)
    (hname : t.name = u.name) (hschema : t.schema = u.schema) (hrows : t.rows = u.rows) :
    t = u := by
  have hindex : t.index = u.index := by
    have hcolumn : t.index.map KeyIndex.column = u.index.map KeyIndex.column := by
      rw [ht.index_column, hu.index_column, hschema]
    cases hi : t.index with
    | none =>
      rw [hi] at hcolumn
      exact (Option.map_eq_none_iff.1 hcolumn.symm).symm
    | some index =>
      rw [hi] at hcolumn
      obtain ⟨index', hi', hc⟩ := Option.map_eq_some_iff.1 hcolumn.symm
      rw [hi', (ht.indexes index hi).unique (hrows ▸ hu.indexes index' hi') hc.symm]
  cases t
  cases u
  cases hname
  cases hschema
  cases hrows
  cases hindex
  rfl

/-- Of the rows of a table, those that are not yet taken in make up what is missing. -/
theorem WellFormed.foldlM_accept {t u : Table} (ht : t.WellFormed) (hu : u.WellFormed)
    (hname : u.name = t.name) (hschema : u.schema = t.schema) {rows : List Row}
    (hrows : u.rows ++ rows = t.rows) : rows.foldlM Table.accept u = .ok t := by
  induction rows generalizing u with
  | nil =>
    rw [List.append_nil] at hrows
    exact congrArg Except.ok (hu.ext ht hname hschema hrows)
  | cons row rows ih =>
    have hmem : row ∈ t.rows := hrows ▸ List.mem_append_right _ List.mem_cons_self
    have hkeys : row.keys = u.schema.columnNames := hschema ▸ ht.row_keys row hmem
    have hfree : ∀ column, u.schema.primaryKey = some column →
        ∃ key, row.get? column = some key ∧ ∀ other ∈ u.rows, other.get? column ≠ some key := by
      intro column hk
      rw [hschema] at hk
      have hkeyed := ht.keyed hk
      obtain ⟨key, hkey⟩ := Option.isSome_iff_exists.1 (hkeyed.isSome row hmem)
      have hnodup := hkeyed.nodup
      rw [← hrows] at hnodup
      refine ⟨key, hkey, fun other hother he => not_mem_map_of_nodup_append hnodup ?_⟩
      exact List.mem_map.2 ⟨other, hother, he.trans hkey.symm⟩
    obtain ⟨u', hi, hname', hschema', hrows'⟩ := hu.indexed.exists_insert hfree
    -- one row fewer is to come, and the table so far is well-formed again
    rw [List.foldlM_cons, accept_of_insert hkeys hi]
    refine ih (hu.insert hkeys hi) (hname'.trans hname) (hschema'.trans hschema) ?_
    rw [hrows', List.append_assoc]
    exact hrows

/-- A table is made again of its rows. -/
theorem WellFormed.restore {t : Table} (h : t.WellFormed) :
    Table.restore t.name t.schema t.rows = .ok t :=
  h.foldlM_accept (wellFormed_empty t.name t.schema) rfl rfl rfl

def keptRows (t : Table) (column text : String) : List Row :=
  t.rows.filter fun row => !row.fieldMatches column text

theorem length_sub_length_keptRows (t : Table) (column text : String) :
    t.rows.length - (t.keptRows column text).length =
      t.rows.countP (·.fieldMatches column text) := by
  have hsplit := List.length_eq_countP_add_countP (·.fieldMatches column text) (l := t.rows)
  have hkept : (t.keptRows column text).length =
      t.rows.countP fun row => !row.fieldMatches column text :=
    List.countP_eq_length_filter.symm
  simp only [Bool.not_eq_true, Bool.decide_eq_false] at hsplit
  omega

theorem deleteWhere_eq (t : Table) (column text : String) :
    t.deleteWhere column text =
      if t.rows.countP (·.fieldMatches column text) = 0 then (0, t)
      else (t.rows.countP (·.fieldMatches column text),
        { t with rows := t.keptRows column text,
                 index := t.index.map (·.rebuild (t.keptRows column text)) }) := by
  rw [← length_sub_length_keptRows]
  rfl

theorem fst_deleteWhere (t : Table) (column text : String) :
    (t.deleteWhere column text).1 = t.rows.countP (·.fieldMatches column text) := by
  rw [deleteWhere_eq]
  split
  · rename_i h
    exact h.symm
  · rfl

theorem rows_deleteWhere (t : Table) (column text : String) :
    (t.deleteWhere column text).2.rows = t.keptRows column text := by
  rw [deleteWhere_eq]
  split
  · rename_i h
    rw [List.countP_eq_zero] at h
    refine (List.filter_eq_self.2 fun row hr => ?_).symm
    rw [Bool.not_eq_true']
    exact Bool.eq_false_iff.2 (h row hr)
  · rfl

@[simp] theorem name_deleteWhere (t : Table) (column text : String) :
    (t.deleteWhere column text).2.name = t.name := by
  rw [deleteWhere_eq]
  split <;> rfl

@[simp] theorem schema_deleteWhere (t : Table) (column text : String) :
    (t.deleteWhere column text).2.schema = t.schema := by
  rw [deleteWhere_eq]
  split <;> rfl

theorem Indexed.deleteWhere {t : Table} (h : t.Indexed) (column text : String) :
    (t.deleteWhere column text).2.Indexed := by
  rw [deleteWhere_eq]
  split
  · exact h
  · refine ⟨?_, ?_, fun key hk row hr => h.has_key key hk row (List.mem_of_mem_filter hr)⟩
    · rw [← h.index_column]
      simp only [Option.map_map, Function.comp_def, KeyIndex.column_rebuild]
    · intro index he
      obtain ⟨old, hold, rfl⟩ := Option.map_eq_some_iff.1 he
      have hkeyed := h.keyed (h.primaryKey_of_index hold)
      exact old.indexes_rebuild (hkeyed.sublist List.filter_sublist)

theorem WellFormed.deleteWhere {t : Table} (h : t.WellFormed) (column text : String) :
    (t.deleteWhere column text).2.WellFormed := by
  have hindexed := h.indexed.deleteWhere column text
  refine ⟨fun row hr => ?_, hindexed.index_column, hindexed.indexes⟩
  rw [rows_deleteWhere] at hr
  rw [schema_deleteWhere]
  exact h.row_keys row (List.mem_of_mem_filter hr)

end Table
end RelStore
