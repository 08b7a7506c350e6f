import RelStore.Proofs.Selection

/-!
The fields of joined rows. A right row is put into the left one, each field under its name after the
name of the second table. A left field that has such a name itself gives way: the joined row then has
the right value under it and one field fewer. Where no left column has the name of a right one after
the table's name, nothing is lost.
-/

namespace RelStore
set_option autoImplicit false

namespace Row

theorem joinName_inj {label field field' : String} :
    joinName label field = joinName label field' ↔ field = field' :=
  String.append_right_inj _

/-- The fields of a right row under their names in a joined row. -/
def joinEntries (label : String) (r : Row) : List (String × Value) :=
  r.entries.map fun e => (joinName label e.1, e.2)

/-- A joined row has the fields of the left row and those of the right row, these under their names
after a label, and nothing else. -/
structure Unites (joined l r : Row) (label : String) : Prop where
  left : ∀ field ∈ l.keys, joined.get? field = l.get? field
  right : ∀ field ∈ r.keys, joined.get? (joinName label field) = r.get? field
  size_eq : joined.size = l.size + r.size

variable {l r : Row} {label field : String}

theorem map_fst_joinEntries (label : String) (r : Row) :
    (joinEntries label r).map Prod.fst = r.keys.map (joinName label) := by
  unfold joinEntries
  rw [List.map_map, OrderedMap.keys, List.map_map]
  rfl

theorem nodup_joinEntries (label : String) (r : Row) :
    ((joinEntries label r).map Prod.fst).Nodup := by
  rw [map_fst_joinEntries]
  exact r.nodup.map fun _ _ h => joinName_inj.1 h

theorem get?_joinWith (l r : Row) (label field : String) :
    (l.joinWith label r).get? field =
      (OrderedMap.find field (joinEntries label r)).or (l.get? field) :=
  OrderedMap.get?_insertAll (nodup_joinEntries label r) field

/-- The right value stands under its prefixed name, whatever the left row has there. -/
theorem get?_joinWith_joinName (hf : field ∈ r.keys) :
    (l.joinWith label r).get? (joinName label field) = r.get? field := by
  obtain ⟨v, hv⟩ := Option.isSome_iff_exists.1 (OrderedMap.isSome_get?_iff.2 hf)
  have hmem : (joinName label field, v) ∈ joinEntries label r :=
    List.mem_map.2 ⟨(field, v), OrderedMap.get?_eq_some_iff.1 hv, rfl⟩
  rw [get?_joinWith, OrderedMap.find_of_mem (nodup_joinEntries label r) hmem, hv]
  rfl

/-- A left field that has no prefixed name of a right one keeps its value. -/
theorem get?_joinWith_of_ne (h : ∀ other ∈ r.keys, field ≠ joinName label other) :
    (l.joinWith label r).get? field = l.get? field := by
  have hnone : OrderedMap.find field (joinEntries label r) = none := by
    rw [OrderedMap.find_eq_none_iff, map_fst_joinEntries]
    intro hm
    obtain ⟨other, hother, he⟩ := List.mem_map.1 hm
    exact h other hother he.symm
  rw [get?_joinWith, hnone]
  rfl

/-- There are as many fields as the two rows have, less the left ones that give way. -/
theorem size_joinWith (l r : Row) (label : String) :
    (l.joinWith label r).size + r.keys.countP (fun field => decide (joinName label field ∈ l.keys)) =
      l.size + r.size := by
  have hcount : r.keys.countP (fun field => decide (joinName label field ∈ l.keys)) =
      (joinEntries label r).countP fun e => decide (e.1 ∈ l.keys) := by
    unfold joinEntries OrderedMap.keys
    rw [List.countP_map, List.countP_map]
    rfl
  have hlength : (joinEntries label r).length = r.size := List.length_map _
  rw [hcount, ← hlength]
  exact OrderedMap.size_insertAll (nodup_joinEntries label r)

theorem unites_joinWith_iff :
    (l.joinWith label r).Unites l r label ↔ ∀ field ∈ r.keys, joinName label field ∉ l.keys := by
  have hsize := size_joinWith l r label
  constructor
  · intro h field hf hl
    have hcount : r.keys.countP (fun field => decide (joinName label field ∈ l.keys)) = 0 := by
      have hunited := h.size_eq
      omega
    exact List.countP_eq_zero.1 hcount field hf (decide_eq_true hl)
  · intro h
    refine ⟨fun field hf => get?_joinWith_of_ne fun other hother he => h other hother (he ▸ hf),
      fun field hf => get?_joinWith_joinName hf, ?_⟩
    have hcount : r.keys.countP (fun field => decide (joinName label field ∈ l.keys)) = 0 := by
      rw [List.countP_eq_zero]
      exact fun field hf hl => h field hf (of_decide_eq_true hl)
    omega

end Row

section Reachable

variable {σ : Type} [Disk (StateM σ)] {s : Store} {w : σ} {db : Database}

/-- In a database that a run comes to, a join of two tables on columns that they have is answered with
a row for each pair of rows that are displayed alike there. It has the right values under the right
columns' names after the name of the second table, the left values under the left columns other than
those names, and a field fewer than the two tables have columns for each left column that has such a
name. So nothing is lost just if no left column has one. -/
theorem Reachable.fields_of_join (h : Reachable s w db) {text a b x y : String} {t u : Table}
    (ht : db.catalog.find? a = some t) (hu : db.catalog.find? b = some u)
    (hx : x ∈ t.schema.columnNames) (hy : y ∈ u.schema.columnNames)
    (hp : Statement.parse text = .ok (.select a (some ⟨b, ⟨a, x⟩, ⟨b, y⟩⟩) none)) :
    let pairs := (t.rows.product u.rows).filter fun pair => pair.1.agrees x pair.2 y
    (db.execute (m := StateM σ) s.save text w).1.1 =
      .ok (.rows (pairs.map fun pair => pair.1.joinWith b pair.2)) ∧
    ∀ l r, (l, r) ∈ pairs →
      (l ∈ t.rows ∧ r ∈ u.rows ∧ l.keys = t.schema.columnNames ∧ r.keys = u.schema.columnNames) ∧
      (∀ g ∈ u.schema.columnNames, (l.joinWith b r).get? (b ++ "_" ++ g) = r.get? g) ∧
      (∀ f ∈ t.schema.columnNames, (∀ g ∈ u.schema.columnNames, f ≠ b ++ "_" ++ g) →
        (l.joinWith b r).get? f = l.get? f) ∧
      (l.joinWith b r).size +
          u.schema.columnNames.countP (fun g => decide (b ++ "_" ++ g ∈ t.schema.columnNames)) =
        t.schema.columns.size + u.schema.columns.size ∧
      ((l.joinWith b r).Unites l r b ↔
        ∀ g ∈ u.schema.columnNames, b ++ "_" ++ g ∉ t.schema.columnNames) := by
  intro pairs
  refine ⟨(Database.execute_join_iff hp w _).2 ⟨t, u, ht, hu, hx, hy, rfl⟩, fun l r hpair => ?_⟩
  obtain ⟨hl, hr⟩ := List.mem_product.1 (List.mem_filter.1 hpair).1
  have hlkeys := (h.wellFormed t (Catalog.find?_eq_some_iff.1 ht).1).row_keys l hl
  have hrkeys := (h.wellFormed u (Catalog.find?_eq_some_iff.1 hu).1).row_keys r hr
  have hsize := Row.size_joinWith l r b
  have hunites : (l.joinWith b r).Unites l r b ↔ _ := Row.unites_joinWith_iff
  rw [← OrderedMap.length_keys l, ← OrderedMap.length_keys r, hlkeys, hrkeys, Schema.columnNames,
    Schema.columnNames, OrderedMap.length_keys, OrderedMap.length_keys] at hsize
  rw [hlkeys, hrkeys] at hunites
  refine ⟨⟨hl, hr, hlkeys, hrkeys⟩, fun g hg => ?_, fun f _ hne => ?_, hsize, hunites⟩
  · exact Row.get?_joinWith_joinName (hrkeys ▸ hg)
  · exact Row.get?_joinWith_of_ne (hrkeys ▸ hne)

end Reachable

/-- The joined row of the table with itself on its key has both keys. -/
theorem fields_of_join_of_seven :
    ∃ (s : Store) (w : FileSystem) (db : Database) (row : Row), Reachable s w db ∧
      (db.execute (m := StateM FileSystem) s.save "SELECT * FROM t JOIN t ON t.id=t.id" w).1.1 =
        .ok (.rows [row.joinWith "t" row]) ∧
      row.entries = [("id", .integer 7)] ∧ (row.joinWith "t" row).Unites row row "t" := by
  obtain ⟨s, w, db, t, hreach, -, hfind, hkey, hcolumns, hrows⟩ := exists_reachable_of_seven
  have hcolumn := t.schema.key_mem "id" hkey
  obtain ⟨hanswer, hfields⟩ := hreach.fields_of_join hfind hfind hcolumn hcolumn parse_join_of_seven
  rw [hrows] at hanswer hfields
  obtain ⟨-, -, -, -, hunites⟩ := hfields _ _ (List.mem_singleton_self _)
  rw [hcolumns] at hunites
  exact ⟨s, w, db, _, hreach, hanswer, rfl, hunites.2 (by decide)⟩

/-- The row of a table with columns `k`, `t_k` and `t_v`, joined with itself, has lost its value under
`t_k`, and has five fields. -/
theorem exists_join_of_lost_field :
    ∃ (s : Store) (w : FileSystem) (db : Database) (t : Table) (row joined : Row),
      Reachable s w db ∧ db.catalog.find? "t" = some t ∧ t.rows = [row] ∧
      t.schema.columnNames = ["k", "t_k", "t_v"] ∧
      Statement.parse "SELECT * FROM t JOIN t ON t.k=t.k" =
        .ok (.select "t" (some ⟨"t", ⟨"t", "k"⟩, ⟨"t", "k"⟩⟩) none) ∧
      (db.execute (m := StateM FileSystem) s.save "SELECT * FROM t JOIN t ON t.k=t.k" w).1.1 =
        .ok (.rows [joined]) ∧
      row.get? "t_k" = some (.integer 2) ∧ joined.get? "t_k" = some (.integer 1) ∧
      joined.size = 5 := by
  obtain ⟨s, w, db, hreach, -, t, hfind, -, hcolumns, hrows⟩ :=
    exists_reachable_of_prefixed_columns
  have hp : Statement.parse "SELECT * FROM t JOIN t ON t.k=t.k" =
      .ok (.select "t" (some ⟨"t", ⟨"t", "k"⟩, ⟨"t", "k"⟩⟩) none) := by decide +kernel
  have hcolumn : "k" ∈ t.schema.columnNames := by
    rw [hcolumns]
    exact List.mem_cons_self
  have hanswer : (db.execute (m := StateM FileSystem) s.save _ w).1.1 = .ok (.rows _) :=
    (Database.execute_join_iff hp w _).2 ⟨t, t, hfind, hfind, hcolumn, hcolumn, rfl⟩
  rw [hrows] at hanswer
  exact ⟨s, w, db, t, _, _, hreach, hfind, hrows, hcolumns, hp, hanswer, rfl, rfl, rfl⟩

end RelStore
