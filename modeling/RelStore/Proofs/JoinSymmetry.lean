import RelStore.Proofs.Join

/-!
A join and the join the other way round. Both answers are made of the same pairs of positions, since it
does not matter for two rows which of them is asked whether they agree. The one lists the pairs by the
position in its left table first, the other by the position in its own.
-/

namespace RelStore
set_option autoImplicit false

theorem Row.agrees_comm (l r : Row) (x y : String) : r.agrees y l x = l.agrees x r y := by
  unfold agrees
  cases l.get? x with
  | none => cases r.get? y <;> rfl
  | some v =>
    cases r.get? y with
    | none => rfl
    | some w =>
      simp only [Option.any_some]
      rw [Bool.eq_iff_iff, beq_iff_eq, beq_iff_eq]
      exact eq_comm

section Positions

variable {α β : Type}

/-- The pairs of positions in two lists, by the position in the left one first. -/
def positions (left : List α) (right : List β) : List (Fin left.length × Fin right.length) :=
  (List.finRange left.length).product (List.finRange right.length)

theorem mem_positions {left : List α} {right : List β}
    (p : Fin left.length × Fin right.length) : p ∈ positions left right :=
  List.mem_product.2 ⟨List.mem_finRange p.1, List.mem_finRange p.2⟩

theorem pairwise_positions (left : List α) (right : List β) :
    (positions left right).Pairwise fun p q => p.1 < q.1 ∨ p.1 = q.1 ∧ p.2 < q.2 := by
  unfold positions List.product
  rw [List.pairwise_flatMap]
  constructor
  · intro i _
    rw [List.pairwise_map]
    apply (List.pairwise_lt_finRange _).imp
    intro j j' hj
    exact .inr ⟨rfl, hj⟩
  · apply (List.pairwise_lt_finRange _).imp
    intro i i' hi p hp q hq
    obtain ⟨j, -, rfl⟩ := List.mem_map.1 hp
    obtain ⟨j', -, rfl⟩ := List.mem_map.1 hq
    exact .inl hi

/-- The pairs of a product are those at the pairs of positions. -/
theorem map_positions (left : List α) (right : List β) :
    (positions left right).map (Prod.map left.get right.get) = left.product right := by
  conv_rhs => rw [← List.map_get_finRange left, ← List.map_get_finRange right]
  unfold positions List.product
  rw [List.map_flatMap, List.flatMap_map]
  apply List.flatMap_congr
  intro i _
  rw [List.map_map, List.map_map]
  rfl

end Positions

/-- The pairs of positions at which rows are displayed alike in a column of each, by the position on
the left first. -/
def agreeing (left right : List Row) (x y : String) : List (Fin left.length × Fin right.length) :=
  (positions left right).filter fun p => (left.get p.1).agrees x (right.get p.2) y

variable {left right : List Row} {x y : String}

theorem mem_agreeing (p : Fin left.length × Fin right.length) :
    p ∈ agreeing left right x y ↔ (left.get p.1).agrees x (right.get p.2) y = true := by
  unfold agreeing
  rw [List.mem_filter]
  exact and_iff_right (mem_positions p)

theorem pairwise_agreeing (left right : List Row) (x y : String) :
    (agreeing left right x y).Pairwise fun p q => p.1 < q.1 ∨ p.1 = q.1 ∧ p.2 < q.2 :=
  (pairwise_positions left right).filter _

theorem nodup_agreeing (left right : List Row) (x y : String) :
    (agreeing left right x y).Nodup := by
  apply (pairwise_agreeing left right x y).imp
  rintro p q h rfl
  rcases h with h | ⟨-, h⟩
  · exact lt_irrefl _ h
  · exact lt_irrefl _ h

/-- The other way round the same pairs agree. -/
theorem perm_agreeing_swap (left right : List Row) (x y : String) :
    ((agreeing right left y x).map Prod.swap).Perm (agreeing left right x y) := by
  have hnodup := (nodup_agreeing right left y x).map Prod.swap_injective
  rw [List.perm_ext_iff_of_nodup hnodup (nodup_agreeing left right x y)]
  intro p
  rw [mem_agreeing, ← Row.agrees_comm]
  constructor
  · intro h
    obtain ⟨q, hq, rfl⟩ := List.mem_map.1 h
    exact (mem_agreeing q).1 hq
  · intro h
    exact List.mem_map.2 ⟨p.swap, (mem_agreeing p.swap).2 h, p.swap_swap⟩

/-- The rows of a join are those at the positions that agree. -/
theorem map_agreeing (left right : List Row) (x y label : String) :
    (((left.product right).filter fun pair => pair.1.agrees x pair.2 y).map fun pair =>
        pair.1.joinWith label pair.2) =
      (agreeing left right x y).map fun p => (left.get p.1).joinWith label (right.get p.2) := by
  unfold agreeing
  rw [← map_positions, List.filter_map, List.map_map]
  rfl

section Reachable

variable {σ : Type} [Disk (StateM σ)] {s : Store} {w : σ} {db : Database}

/-- In a database that a run comes to, two tables are joined on a column of each, and the other way
round. Both answers have a row for each pair of positions at which the tables are displayed alike in
these columns, in which every row has a value, and for no other pair. So they have equally many rows;
the first lists the pairs by the position in `t` first, and the second by the position in `u`. -/
theorem Reachable.joins_symmetric (h : Reachable s w db) {first second a b x y : String}
    {t u : Table} (ht : db.catalog.find? a = some t) (hu : db.catalog.find? b = some u)
    (hx : x ∈ t.schema.columnNames) (hy : y ∈ u.schema.columnNames)
    (hp : Statement.parse first = .ok (.select a (some ⟨b, ⟨a, x⟩, ⟨b, y⟩⟩) none))
    (hq : Statement.parse second = .ok (.select b (some ⟨a, ⟨b, y⟩, ⟨a, x⟩⟩) none)) :
    ∃ (pairs pairs' : List (Fin t.rows.length × Fin u.rows.length)) (found found' : List Row),
      (db.execute (m := StateM σ) s.save first w).1.1 = .ok (.rows found) ∧
      found = pairs.map (fun p => (t.rows.get p.1).joinWith b (u.rows.get p.2)) ∧
      (db.execute (m := StateM σ) s.save second w).1.1 = .ok (.rows found') ∧
      found' = pairs'.map (fun p => (u.rows.get p.2).joinWith a (t.rows.get p.1)) ∧
      pairs.Nodup ∧ pairs'.Perm pairs ∧ found'.length = found.length ∧
      pairs.Pairwise (fun p q => p.1 < q.1 ∨ p.1 = q.1 ∧ p.2 < q.2) ∧
      pairs'.Pairwise (fun p q => p.2 < q.2 ∨ p.2 = q.2 ∧ p.1 < q.1) ∧
      ∀ i j, ∃ v v', (t.rows.get i).get? x = some v ∧ (u.rows.get j).get? y = some v' ∧
        ((i, j) ∈ pairs ↔ v.display = v'.display) := by
  have htwf := h.wellFormed t (Catalog.find?_eq_some_iff.1 ht).1
  have huwf := h.wellFormed u (Catalog.find?_eq_some_iff.1 hu).1
  have hperm := perm_agreeing_swap t.rows u.rows x y
  refine ⟨agreeing t.rows u.rows x y, (agreeing u.rows t.rows y x).map Prod.swap, _, _,
    (Database.execute_join_iff hp w _).2 ⟨t, u, ht, hu, hx, hy, rfl⟩, map_agreeing _ _ _ _ _,
    (Database.execute_join_iff hq w _).2 ⟨u, t, hu, ht, hy, hx, rfl⟩, ?_,
    nodup_agreeing _ _ _ _, hperm, ?_, pairwise_agreeing _ _ _ _, ?_, ?_⟩
  · rw [map_agreeing, List.map_map]
    rfl
  · have hlength := hperm.length_eq
    simp only [map_agreeing, List.length_map] at hlength ⊢
    exact hlength
  · rw [List.pairwise_map]
    exact pairwise_agreeing _ _ _ _
  · intro i j
    obtain ⟨v, hv⟩ := Option.isSome_iff_exists.1 (htwf.isSome_get? (List.get_mem t.rows i) hx)
    obtain ⟨v', hv'⟩ := Option.isSome_iff_exists.1 (huwf.isSome_get? (List.get_mem u.rows j) hy)
    refine ⟨v, v', hv, hv', ?_⟩
    rw [mem_agreeing]
    simp only [Row.agrees, hv, hv', Option.any_some, beq_iff_eq]

end Reachable

/-- The table with the one row 7 is joined with itself; the row agrees with itself. -/
theorem joins_symmetric_of_seven :
    ∃ (s : Store) (w : FileSystem) (db : Database) (t : Table)
      (pairs : List (Fin t.rows.length × Fin t.rows.length)), Reachable s w db ∧
      db.catalog.find? "t" = some t ∧ t.rows.length = 1 ∧ pairs.Nodup ∧ (∀ i j, (i, j) ∈ pairs) ∧
      (db.execute (m := StateM FileSystem) s.save "SELECT * FROM t JOIN t ON t.id=t.id" w).1.1 =
        .ok (.rows (pairs.map fun p => (t.rows.get p.1).joinWith "t" (t.rows.get p.2))) := by
  obtain ⟨s, w, db, t, hreach, -, hfind, hkey, -, hrows⟩ := exists_reachable_of_seven
  have hcolumn := t.schema.key_mem "id" hkey
  have hseven : ∀ row ∈ t.rows, row.get? "id" = some (.integer 7) := by
    rw [hrows]
    intro row hr
    rw [List.mem_singleton.1 hr]
    rfl
  have hlength : t.rows.length = 1 := by
    rw [hrows]
    rfl
  obtain ⟨pairs, pairs', found, found', hanswer, rfl, -, -, hnodup, -, -, -, -, hagrees⟩ :=
    hreach.joins_symmetric hfind hfind hcolumn hcolumn parse_join_of_seven parse_join_of_seven
  refine ⟨s, w, db, t, pairs, hreach, hfind, hlength, hnodup, ?_, hanswer⟩
  intro i j
  obtain ⟨v, v', hv, hv', hmem⟩ := hagrees i j
  rw [hseven _ (List.get_mem t.rows i)] at hv
  rw [hseven _ (List.get_mem t.rows j)] at hv'
  rw [hmem, ← Option.some.inj hv, ← Option.some.inj hv']

end RelStore
