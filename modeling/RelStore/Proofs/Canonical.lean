import RelStore.Proofs.Grown
import RelStore.Proofs.Literal
import RelStore.Proofs.Selection

/-!
Canonical values. A literal is stored as a value for which its own displayed text is a literal again.
Tables that start from none hold only such values, however often they are saved and opened again, so
two of their keys are displayed alike only if they are one key, and a deletion by the displayed text of
a key takes out the one row that has it.
-/

namespace RelStore
set_option autoImplicit false
set_option maxRecDepth 4096

/-- Among entries that a key tells apart, all but one have another key than that one. -/
theorem filter_ne_of_nodup_map {α β : Type} [BEq β] [LawfulBEq β] {f : α → β}
    {before after : List α} {a : α} (hn : ((before ++ a :: after).map f).Nodup) :
    (before ++ a :: after).filter (fun b => !(f b == f a)) = before ++ after := by
  have hother : ∀ b ∈ before ++ after, (!(f b == f a)) = true := by
    intro b hb
    rw [List.map_append, List.map_cons, List.nodup_middle, ← List.map_append, List.nodup_cons] at hn
    rw [Bool.not_eq_true', beq_eq_false_iff_ne]
    intro he
    exact hn.1 (he ▸ List.mem_map_of_mem hb)
  have hself : ¬ (!(f a == f a)) = true := by simp
  rw [List.filter_append, List.filter_cons, if_neg hself, ← List.filter_append]
  exact List.filter_eq_self.2 hother

/-- The displayed text of the value, taken as a literal, stands for the value. -/
def Value.IsCanonical (v : Value) : Prop :=
  Value.ofLiteral v.display = v

theorem Value.IsCanonical.eq_of_display {v w : Value} (hv : v.IsCanonical) (hw : w.IsCanonical)
    (h : v.display = w.display) : v = w := by
  rw [← hv, ← hw, h]

namespace Table

def Canonical (t : Table) : Prop :=
  ∀ row ∈ t.rows, ∀ v ∈ row.values, v.IsCanonical

variable {t : Table} {column : String} {row : Row} {v w : Value}

theorem Canonical.of_get? (h : t.Canonical) (hr : row ∈ t.rows) (hv : row.get? column = some v) :
    v.IsCanonical := by
  apply h row hr
  exact List.mem_map.2 ⟨(column, v), OrderedMap.get?_eq_some_iff.1 hv, rfl⟩

theorem isCanonical_of_rowOf {literals : List Literal}
    (h : t.rowOf (literals.map Literal.value) = .ok row) : ∀ v ∈ row.values, v.IsCanonical := by
  intro v hv
  rw [OrderedMap.values, (rowOf_eq_ok h).2] at hv
  obtain ⟨e, he, rfl⟩ := List.mem_map.1 hv
  obtain ⟨l, -, hl⟩ := List.mem_map.1 (List.of_mem_zip he).2
  rw [← hl]
  exact Value.ofLiteral_display_ofLiteral l.text

theorem Canonical.insert {t' : Table} {position : Nat} (h : t.Canonical)
    (hr : ∀ v ∈ row.values, v.IsCanonical) (hi : (Table.insert row).on t = (.ok position, t')) :
    t'.Canonical := by
  intro other hother
  rw [(of_insert_eq_ok hi).2.2] at hother
  rcases List.mem_append.1 hother with hother | hother
  · exact h other hother
  · exact List.mem_singleton.1 hother ▸ hr

theorem Canonical.deleteWhere (h : t.Canonical) (column text : String) :
    (t.deleteWhere column text).2.Canonical := by
  intro row hr
  rw [rows_deleteWhere] at hr
  exact h row (List.mem_of_mem_filter hr)

/-- The keys of such a table are told apart by their displayed texts. -/
theorem Canonical.nodup_display (h : t.Canonical) (ht : t.WellFormed)
    (hk : t.schema.primaryKey = some column) :
    (t.rows.map fun row => (row.get? column).map Value.display).Nodup := by
  have hkeyed := ht.keyed hk
  have hmap : (t.rows.map fun row => (row.get? column).map Value.display) =
      (t.rows.map (·.get? column)).map (Option.map Value.display) := by
    rw [List.map_map]
    rfl
  rw [hmap]
  apply List.Nodup.map_on _ hkeyed.nodup
  intro x hx y hy hxy
  obtain ⟨row, hr, rfl⟩ := List.mem_map.1 hx
  obtain ⟨other, ho, rfl⟩ := List.mem_map.1 hy
  obtain ⟨v, hv⟩ := Option.isSome_iff_exists.1 (hkeyed.isSome row hr)
  obtain ⟨w, hw⟩ := Option.isSome_iff_exists.1 (hkeyed.isSome other ho)
  simp only [hv, hw, Option.map_some, Option.some.injEq] at hxy
  rw [hv, hw, (h.of_get? hr hv).eq_of_display (h.of_get? ho hw) hxy]

/-- A condition that the key is displayed as a stored key holds of the row with that key alone. -/
theorem Canonical.holds_eq (h : t.Canonical) (ht : t.WellFormed)
    (hk : t.schema.primaryKey = some column) {other : Row} (hr : row ∈ t.rows)
    (ho : other ∈ t.rows) (hv : row.get? column = some v) :
    (Condition.mk column (.quoted v.display)).holds other = (other.get? column == row.get? column) := by
  obtain ⟨w, hw⟩ := Option.isSome_iff_exists.1 ((ht.keyed hk).isSome other ho)
  simp only [Condition.holds, hv, hw, Option.any_some]
  rw [Bool.eq_iff_iff, beq_iff_eq, beq_iff_eq, Option.some.injEq]
  constructor
  · exact (h.of_get? ho hw).eq_of_display (h.of_get? hr hv)
  · intro he
    rw [he]
    rfl

/-- A deletion by the displayed text of a key takes out the row that has the key, and no other. -/
theorem Canonical.rows_deleteWhere (h : t.Canonical) (ht : t.WellFormed)
    (hk : t.schema.primaryKey = some column) {before after : List Row}
    (hrows : t.rows = before ++ row :: after) (hv : row.get? column = some v) :
    t.rows.filter (Condition.mk column (.quoted v.display)).holds = [row] ∧
      (t.deleteWhere column v.display).2.rows = before ++ after := by
  have hr : row ∈ t.rows := by
    rw [hrows]
    exact List.mem_append_right before List.mem_cons_self
  have hholds : ∀ other ∈ t.rows, (Condition.mk column (.quoted v.display)).holds other =
      (other.get? column == row.get? column) := by
    intro other ho
    exact h.holds_eq ht hk hr ho hv
  have hnodup := (ht.keyed hk).nodup
  constructor
  · rw [List.filter_congr hholds]
    exact filter_beq_of_nodup_map hnodup hr
  · apply (t.rows_deleteWhere_eq_filter ⟨column, .quoted v.display⟩).trans
    rw [List.filter_congr fun other ho => congrArg not (hholds other ho), hrows]
    apply filter_ne_of_nodup_map
    rw [← hrows]
    exact hnodup

end Table

theorem Catalog.Canonical.run {c : Catalog} {plan : Plan} {answer : Answer} {e : Engine}
    (h : ∀ t ∈ c.tables, t.Canonical) (hr : plan.run c = (.ok answer, e)) :
    ∀ t ∈ e.catalog.tables, t.Canonical := by
  cases Plan.ran_of_run hr with
  | kept | returned => exact h
  | created _ _ ha => exact Catalog.forall_mem_add h (fun _ hrow => absurd hrow List.not_mem_nil) ha
  | inserted ht hrow hi =>
    have htable := h _ (Catalog.find?_eq_some_iff.1 (Catalog.table_eq_ok.1 ht)).1
    exact Catalog.forall_mem_replace h (htable.insert (Table.isCanonical_of_rowOf hrow) hi)
  | deleted ht =>
    have htable := h _ (Catalog.find?_eq_some_iff.1 (Catalog.table_eq_ok.1 ht)).1
    exact Catalog.forall_mem_replace h (htable.deleteWhere _ _)

namespace Database

variable {σ : Type} [Disk (StateM σ)] {files : σ → FileSystem} {s : Store} {w : σ} {db : Database}
  {history : List Event}

/-- A literal is stored as a value whose displayed text is a literal for it. In a run that begins
without tables, and in which no save fails, no database is halted; all stored values are of this kind;
the keys of a table are displayed as different texts; and the deletion of the rows in which the key is
displayed as one of them takes out the one row that has it, leaves the others in their order, with the
exact index, and reports one row. -/
theorem Grown.values_canonical (hd : Disk.Honest files) (h : Grown s files (w, db) history) :
    (∀ text, Value.ofLiteral (Value.ofLiteral text).display = Value.ofLiteral text) ∧
    ((∀ e ∈ history, ¬ e.IsFailedSave) → db.halted = false) ∧
    ∀ t ∈ db.catalog.tables,
      (∀ row ∈ t.rows, ∀ v ∈ row.values, Value.ofLiteral v.display = v) ∧
      ∀ k, t.schema.primaryKey = some k →
        (t.rows.map fun row => (row.get? k).map Value.display).Nodup ∧
        ∀ before row after v text, t.rows = before ++ row :: after → row.get? k = some v →
          Statement.parse text = .ok (.delete t.name ⟨k, .quoted v.display⟩) →
          db.halted = false →
          let result := db.execute (m := StateM σ) s.save text w
          ∃ left index, left.name = t.name ∧ left.schema = t.schema ∧
            left.rows = before ++ after ∧
            left.index = some index ∧ index.column = k ∧ index.Indexes left.rows ∧
            result.1.2.catalog = db.catalog.replace left ∧
            ∀ w', s.save (m := StateM σ) result.1.2.catalog w = (.ok (), w') →
              result.1.1 = .ok (.notice (.rowsDeleted 1)) := by
  have hcanonical := (h.kept hd (P := fun c => ∀ t ∈ c.tables, t.Canonical) nofun
    Catalog.Canonical.run).1
  refine ⟨Value.ofLiteral_display_ofLiteral, h.halted, ?_⟩
  intro t ht
  have hwf := (h.run.invariant hd).wellFormed t ht
  have htable := hcanonical t ht
  refine ⟨htable, fun k hk => ⟨htable.nodup_display hwf hk, ?_⟩⟩
  intro before row after v text hrows hv hp hh result
  have hfind := Catalog.find?_eq_some_iff.2 ⟨ht, rfl⟩
  obtain ⟨hcatalog, hsaved, -⟩ := execute_deletion (s.save (m := StateM σ)) hh hfind hp w
  obtain ⟨hremoved, hleft⟩ := htable.rows_deleteWhere hwf hk hrows hv
  rw [hremoved] at hsaved
  have hwf' := hwf.deleteWhere k v.display
  have hschema := t.schema_deleteWhere k v.display
  obtain ⟨index, hi, hcolumn⟩ := hwf'.index_of_primaryKey (hschema ▸ hk)
  exact ⟨_, index, t.name_deleteWhere k v.display, hschema, hleft, hi, hcolumn,
    hwf'.indexes index hi, hcatalog, hsaved⟩

/-- The row with the key 7 is deleted by the text 7. -/
theorem values_canonical_of_seven :
    ∃ (s : Store) (w : FileSystem) (db : Database) (history : List Event) (t : Table) (row : Row),
      Grown s id (w, db) history ∧ db.halted = false ∧ t ∈ db.catalog.tables ∧
      t.schema.primaryKey = some "id" ∧ t.rows = [row] ∧ row.get? "id" = some (.integer 7) ∧
      Value.ofLiteral (Value.integer 7).display = .integer 7 ∧
      ∃ left, left.rows = [] ∧
        (db.execute (m := StateM FileSystem) s.save "DELETE FROM t WHERE id='7'" w).1.2.catalog =
          db.catalog.replace left := by
  let s : Store := ⟨⟨"db", false, false⟩, 0⟩
  let created := (Database.ofCatalog .empty).execute (m := StateM FileSystem) s.save
    "CREATE TABLE t (id int) PRIMARY KEY id" ⟨.empty, []⟩
  let filled := created.1.2.execute (m := StateM FileSystem) s.save
    "INSERT INTO t VALUES (7)" created.2
  have hopened : s.openDatabase (m := StateM FileSystem) ⟨.empty, []⟩ =
      (.ok (.ofCatalog .empty), ⟨.empty, []⟩) := by cbv
  have hcreated : created.1.1 = .ok (.notice (.tableCreated "t")) := by
    dsimp only [created, s]
    cbv
  have hfilled : (filled.1.1, filled.1.2.halted, filled.1.2.catalog.tables.map fun t =>
      (t.name, t.schema.primaryKey, t.rows.map (·.entries))) =
      (.ok (.notice .rowInserted), false, [("t", some "id", [[("id", .integer 7)]])]) := by
    dsimp only [filled, created, s]
    cbv
  simp only [Prod.mk.injEq] at hfilled
  obtain ⟨hinserted, hhalted, htables⟩ := hfilled
  obtain ⟨t, ht, hparts⟩ := List.map_eq_singleton_iff.1 htables
  simp only [Prod.mk.injEq] at hparts
  obtain ⟨hname, hkey, hrows⟩ := hparts
  obtain ⟨row, hrow, hentries⟩ := List.map_eq_singleton_iff.1 hrows
  obtain rfl : row = .ofList [("id", .integer 7)] := OrderedMap.ext hentries
  have hgrown : Grown s id (filled.2, filled.1.2) _ :=
    ((Grown.opened hopened rfl).executed hcreated).executed hinserted
  have hmem : t ∈ filled.1.2.catalog.tables := ht ▸ List.mem_singleton_self t
  have hp : Statement.parse "DELETE FROM t WHERE id='7'" =
      .ok (.delete t.name ⟨"id", .quoted (Value.integer 7).display⟩) := by
    rw [hname]
    cbv
  obtain ⟨-, -, htable⟩ := hgrown.values_canonical Disk.honest_fileSystem
  obtain ⟨hvalues, hkeys⟩ := htable t hmem
  obtain ⟨left, -, -, -, hleft, -, -, -, hcatalog, -⟩ :=
    (hkeys "id" hkey).2 [] _ [] _ _ hrow rfl hp hhalted
  exact ⟨s, filled.2, filled.1.2, _, t, _, hgrown, hhalted, hmem, hkey, hrow, rfl,
    hvalues _ (hrow ▸ List.mem_singleton_self _) _ List.mem_cons_self, left, hleft, hcatalog⟩

end Database
end RelStore
