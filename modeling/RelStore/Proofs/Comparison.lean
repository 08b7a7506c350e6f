import RelStore.Proofs.Refinement.Statement

/-!
The comparison of values. A join compares values with one another, a filter and a deletion compare a
value with the text of a literal. They are one relation, that of being displayed alike, so a row is
joined with just those rows that a filter by the displayed text of its value lets through and that a
deletion by this text takes out.
-/

namespace RelStore
set_option autoImplicit false

namespace Value

theorem matchesValue_iff (v w : Value) : v.matchesValue w = true ↔ v.display = w.display := by
  rw [matchesValue_eq_display, beq_iff_eq]

theorem matchesText_display (v w : Value) : v.matchesText w.display = v.matchesValue w := by
  rw [matchesText_eq, matchesValue_eq_display]

theorem equivalence_matchesValue : Equivalence fun v w : Value => v.matchesValue w = true where
  refl v := (matchesValue_iff v v).2 rfl
  symm := by
    intro v w h
    exact (matchesValue_iff w v).2 ((matchesValue_iff v w).1 h).symm
  trans := by
    intro u v w huv hvw
    exact (matchesValue_iff u w).2 (((matchesValue_iff u v).1 huv).trans ((matchesValue_iff v w).1 hvw))

theorem matchesValue_comm (v w : Value) : v.matchesValue w = w.matchesValue v := by
  rw [Bool.eq_iff_iff]
  exact ⟨equivalence_matchesValue.symm, equivalence_matchesValue.symm⟩

end Value

theorem Row.fieldMatches_display (row : Row) (column : String) (v : Value) :
    row.fieldMatches column v.display = (row.get? column).any v.matchesValue := by
  rw [fieldMatches_eq_any]
  refine congrArg (row.get? column).any (funext fun w => ?_)
  rw [v.matchesValue_comm, w.matchesValue_eq_display]

namespace Table

variable {t : Table} {column : String} {row : Row}

/-- In a column that the table has, a filter and a deletion go by the same test. -/
theorem WellFormed.passes_eq_fieldMatches (h : t.WellFormed) (hr : row ∈ t.rows)
    (hc : column ∈ t.schema.columnNames) (fallback text : String) :
    Plan.passes column fallback text row = row.fieldMatches column text := by
  rw [h.passes_eq hr hc, row.fieldMatches_eq_any]

theorem WellFormed.rows_deleteWhere_eq_filter_passes (h : t.WellFormed)
    (hc : column ∈ t.schema.columnNames) (fallback text : String) :
    (t.deleteWhere column text).2.rows =
      t.rows.filter fun row => !Plan.passes column fallback text row := by
  rw [rows_deleteWhere]
  apply List.filter_congr
  intro row hr
  rw [h.passes_eq_fieldMatches hr hc]

theorem WellFormed.joinRow_eq_filter_passes (h : t.WellFormed)
    (hc : column ∈ t.schema.columnNames) {l : Row} {x : String} {v : Value} (hv : l.get? x = some v)
    (fallback label : String) :
    Plan.joinRow x label column t.rows l =
      (t.rows.filter (Plan.passes column fallback v.display)).map (l.joinWith label) := by
  have htests : t.rows.filter (Plan.passes column fallback v.display) =
      t.rows.filter fun row => (row.get? column).any v.matchesValue := by
    apply List.filter_congr
    intro row hr
    rw [h.passes_eq_fieldMatches hr hc, Row.fieldMatches_display]
  unfold Plan.joinRow
  rw [htests, hv]

end Table

/-- The comparisons of joins, filters and deletions are one relation. Two values go together if and only
if they are displayed alike, and if and only if the one goes together with the displayed text of the
other; so going together is an equivalence of values, integers and texts alike. In a column of a table,
a row is joined with the rows that a filter by the displayed text of its value lets through, and these
are the rows that a deletion by this text takes out. -/
theorem comparisons_agree :
    (∀ v w : Value, (v.matchesValue w = true ↔ v.display = w.display) ∧
      (v.display = w.display ↔ v.matchesText w.display = true)) ∧
    (Equivalence fun v w : Value => v.matchesValue w = true) ∧
    ∀ t : Table, t.WellFormed → ∀ column ∈ t.schema.columnNames,
      ∀ (l : Row) (x : String) (v : Value), l.get? x = some v → ∀ fallback label : String,
        Plan.joinRow x label column t.rows l =
          (t.rows.filter (Plan.passes column fallback v.display)).map (l.joinWith label) ∧
        (t.deleteWhere column v.display).2.rows =
          t.rows.filter fun row => !Plan.passes column fallback v.display row := by
  refine ⟨fun v w => ⟨v.matchesValue_iff w, ?_⟩, Value.equivalence_matchesValue, ?_⟩
  · rw [v.matchesText_display w, v.matchesValue_iff w]
  · intro t h column hc l x v hv fallback label
    exact ⟨h.joinRow_eq_filter_passes hc hv fallback label,
      h.rows_deleteWhere_eq_filter_passes hc fallback v.display⟩

/-- A row with the text 7 is joined with the row that has the number, and by the text this row is
deleted. -/
theorem comparisons_agree_of_seven :
    (Value.text "7").matchesValue (.integer 7) = true ∧
    ∃ t : Table, t.WellFormed ∧ t.rows = [.ofList [("id", .integer 7)]] ∧
      Plan.joinRow "k" "t" "id" t.rows (.ofList [("k", .text "7")]) =
        [.ofList [("k", .text "7"), ("t_id", .integer 7)]] ∧
      (t.deleteWhere "id" "7").2.rows = [] := by
  obtain ⟨s, w, db, t, hreach, -, hfind, hkey, -, hrows⟩ := exists_reachable_of_seven
  have hwf := hreach.wellFormed t (Catalog.find?_eq_some_iff.1 hfind).1
  have hcolumn := t.schema.key_mem "id" hkey
  obtain ⟨hvalues, -, htables⟩ := comparisons_agree
  have hdisplay : (Value.text "7").display = (Value.integer 7).display := by decide
  obtain ⟨hjoined, hdeleted⟩ :=
    htables t hwf "id" hcolumn (.ofList [("k", .text "7")]) "k" (.text "7") rfl "t_id" "t"
  rw [hrows] at hjoined hdeleted
  refine ⟨(hvalues _ _).1.2 hdisplay, t, hwf, hrows, ?_, hdeleted⟩
  rw [hrows]
  exact hjoined

end RelStore
