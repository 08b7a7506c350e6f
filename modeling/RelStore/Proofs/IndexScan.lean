import RelStore.Proofs.Reachable

/-!
Lookups against scans. A lookup finds just the rows whose key is the given value, as equal values.
A scan with a condition finds the rows whose key is displayed as the given text. The two part ways
at a key that is the value of a literal and is displayed otherwise, such as 7 for the literal 007,
and at a key that is displayed as a literal whose value is another, such as the number -5, which
the literal -5 does not stand for.
-/

namespace RelStore
set_option autoImplicit false
set_option maxRecDepth 4096

theorem filter_eq_filter_iff {α : Type} {p q : α → Bool} {l : List α} :
    l.filter p = l.filter q ↔ ∀ a ∈ l, p a = q a := by
  constructor
  · intro h a ha
    have hmem : a ∈ l.filter p ↔ a ∈ l.filter q := by rw [h]
    simp only [List.mem_filter, ha, true_and] at hmem
    exact Bool.eq_iff_iff.2 hmem
  · exact List.filter_congr

/-- Among entries that a key tells apart, one entry has the key of a given one. -/
theorem filter_beq_of_nodup_map {α β : Type} [BEq β] [LawfulBEq β] {f : α → β} {l : List α}
    (hn : (l.map f).Nodup) {a : α} (ha : a ∈ l) : l.filter (fun b => f b == f a) = [a] := by
  induction l with
  | nil => cases ha
  | cons b rest ih =>
    rw [List.map_cons, List.nodup_cons] at hn
    rcases List.mem_cons.1 ha with rfl | ha
    · have hrest : rest.filter (fun b => f b == f a) = [] := by
        rw [List.filter_eq_nil_iff]
        intro b hb he
        exact hn.1 (eq_of_beq he ▸ List.mem_map_of_mem hb)
      rw [List.filter_cons, if_pos (beq_self_eq_true _), hrest]
    · have hne : ¬ (f b == f a) = true := by
        intro he
        exact hn.1 (eq_of_beq he ▸ List.mem_map_of_mem ha)
      rw [List.filter_cons, if_neg hne]
      exact ih hn.2 ha

namespace Table

variable {t : Table} {column : String}

/-- A lookup finds the rows that have the key, of which there is at most one. -/
theorem Indexed.toList_lookup (h : t.Indexed) (hk : t.schema.primaryKey = some column)
    (key : Value) :
    (t.lookup key).toList = t.rows.filter fun row => row.get? column == some key := by
  obtain ⟨index, hi, rfl⟩ := h.index_of_primaryKey hk
  have hindexes := h.indexes index hi
  have hlookup : t.lookup key = (index.get? key).bind (t.rows[·]?) := by
    unfold lookup
    rw [hi]
    rfl
  rw [hlookup]
  cases hg : index.get? key with
  | none =>
    -- a row with the key would have an entry
    refine (List.filter_eq_nil_iff.2 fun row hr he => ?_).symm
    have hc := hindexes.contains_iff.2 ⟨row, hr, eq_of_beq he⟩
    rw [KeyIndex.contains_eq, hg] at hc
    cases hc
  | some position =>
    obtain ⟨row, hrow, hkey⟩ := (hindexes.get?_eq_some_iff key position).1 hg
    have hkey' : row.get? index.column = some key := hkey
    have hfilter := filter_beq_of_nodup_map (h.keyed hk).nodup (List.mem_of_getElem? hrow)
    rw [hkey'] at hfilter
    rw [hfilter, Option.bind_some, hrow]
    rfl

/-- A row of a table passes a condition on one of its columns by the displayed value. -/
theorem WellFormed.passes_eq (h : t.WellFormed) {row : Row} (hr : row ∈ t.rows)
    (hc : column ∈ t.schema.columnNames) (fallback text : String) :
    Plan.passes column fallback text row = (row.get? column).any (·.display == text) := by
  obtain ⟨v, hv⟩ := Option.isSome_iff_exists.1 (h.isSome_get? hr hc)
  unfold Plan.passes
  simp only [hv, Option.any_some, Value.matchesText_eq]

/-- In a column, the value of the literal is found just where its text is displayed. -/
def AgreesOn (t : Table) (column : String) (l : Literal) : Prop :=
  ∀ row ∈ t.rows, ∀ v, row.get? column = some v → (v = l.value ↔ v.display = l.text)

theorem WellFormed.lookup_eq_filter_iff (h : t.WellFormed)
    (hk : t.schema.primaryKey = some column) (fallback : String) (l : Literal) :
    (t.lookup l.value).toList = t.rows.filter (Plan.passes column fallback l.text) ↔
      t.AgreesOn column l := by
  have hcolumn := t.schema.key_mem column hk
  rw [h.indexed.toList_lookup hk, filter_eq_filter_iff]
  refine forall₂_congr fun row hr => ?_
  obtain ⟨v, hv⟩ := Option.isSome_iff_exists.1 (h.isSome_get? hr hcolumn)
  rw [h.passes_eq hr hcolumn, hv, Bool.eq_iff_iff]
  simp only [beq_iff_eq, Option.some.injEq, Option.any_some, forall_eq']

end Table

namespace Plan

variable {c : Catalog}

theorem run_of_not_isMutating {plan : Plan} (h : plan.isMutating = false) :
    plan.run c = ((plan.rows c).map .rows, ⟨c, false⟩) := by
  have hexecute : plan.execute = (do
      let found ← .check fun e : Engine => rows e.catalog plan
      return .rows found) := by
    cases plan with
    | createTable | insert | delete => cases h
    | scan | lookup | filter | join => rfl
  unfold run
  rw [hexecute, Attempt.on_check_bind]
  cases rows c plan <;> rfl

theorem run_of_readsRows {plan : Plan} (h : plan.readsRows = true) :
    plan.run c = ((plan.rows c).map .rows, ⟨c, false⟩) :=
  run_of_not_isMutating (isMutating_of_readsRows h)

theorem isPrimaryKey_iff {table column : String} :
    isPrimaryKey c table column = true ↔
      ∃ t, c.find? table = some t ∧ t.schema.primaryKey = some column := by
  unfold isPrimaryKey
  split
  · rename_i t ht
    rw [beq_iff_eq]
    exact ⟨fun hk => ⟨t, ht, hk⟩, fun ⟨u, hu, hk⟩ => by rw [ht] at hu; cases hu; exact hk⟩
  · rename_i hn
    exact ⟨nofun, fun ⟨u, hu, _⟩ => by rw [hn] at hu; cases hu⟩

theorem tableOf_of_find? {table : String} {t : Table} (h : c.find? table = some t) :
    tableOf c table = .ok t := by
  unfold tableOf
  rw [Catalog.table_eq_ok.2 h]
  rfl

theorem rows_scan {table : String} {t : Table} (h : c.find? table = some t) :
    rows c (.scan table) = .ok t.rows := by
  unfold rows
  rw [tableOf_of_find? h]
  rfl

theorem rows_lookup {table : String} {t : Table} (h : c.find? table = some t) (key : Value) :
    rows c (.lookup table key) = .ok (t.lookup key).toList := by
  unfold rows
  rw [tableOf_of_find? h]
  rfl

theorem rows_filter {input : Plan} {found : List Row} (h : rows c input = .ok found)
    (column fallback : String) (value : Literal) :
    rows c (.filter input column fallback value) =
      .ok (found.filter (passes column fallback value.text)) := by
  rw [rows, h]
  rfl

/-- Only a condition on the primary key of an unjoined table is answered otherwise than by a
scan, and the answer differs just where value and text of the literal part ways. -/
theorem rows_useIndex_ofSelect_iff (hc : c.WellFormed) (table : String) (second : Option Join)
    (condition : Option Condition) :
    rows c ((ofSelect table second condition).useIndex c) =
        rows c (ofSelect table second condition) ↔
      ∀ f t, second = none → condition = some f → c.find? table = some t →
        t.schema.primaryKey = some f.column → t.AgreesOn f.column f.value := by
  cases condition with
  | none => cases second <;> exact ⟨nofun, fun _ => rfl⟩
  | some f =>
    cases second with
    | some j => exact ⟨nofun, fun _ => rfl⟩
    | none =>
      change rows c (useIndex c (.filter (.scan table) f.column (table ++ "_" ++ f.column) f.value))
        = rows c (.filter (.scan table) f.column (table ++ "_" ++ f.column) f.value) ↔ _
      rw [useIndex]
      split
      · rename_i hkey
        obtain ⟨t, ht, hk⟩ := isPrimaryKey_iff.1 hkey
        have hwf := hc t (Catalog.find?_eq_some_iff.1 ht).1
        rw [rows_lookup ht, rows_filter (rows_scan ht), Except.ok.injEq,
          hwf.lookup_eq_filter_iff hk]
        constructor
        · intro h f' t' _ hf ht' _
          cases hf
          rw [ht] at ht'
          cases ht'
          exact h
        · exact fun h => h f t rfl rfl ht hk
      · rename_i hkey
        refine ⟨fun _ f' t' _ hf ht' hk' => ?_, fun _ => rfl⟩
        cases hf
        exact absurd (isPrimaryKey_iff.2 ⟨t', ht', hk'⟩) hkey

theorem run_useIndex_ofSelect_iff (hc : c.WellFormed) (table : String) (second : Option Join)
    (condition : Option Condition) :
    ((ofSelect table second condition).useIndex c).run c = (ofSelect table second condition).run c ↔
      ∀ f t, second = none → condition = some f → c.find? table = some t →
        t.schema.primaryKey = some f.column → t.AgreesOn f.column f.value := by
  have hreads := readsRows_ofSelect table second condition
  have hreads' : ((ofSelect table second condition).useIndex c).readsRows = true := by
    rw [readsRows_useIndex, hreads]
  rw [run_of_readsRows hreads, run_of_readsRows hreads', Prod.mk.injEq, and_iff_left rfl, map_inj]
  · exact rows_useIndex_ofSelect_iff hc table second condition
  · intro found found' he
    cases he
    rfl

end Plan

/-- In a database that a run comes to, the plan of a selection that goes through the index gives
what the plan that scans gives, rows or refusal, if and only if the selection is not one without
a join and with a condition on the primary key of a table in which some key is the value of the
literal without having its text, or has its text without being its value. -/
theorem Reachable.run_useIndex_eq_run_iff {σ : Type} [Disk (StateM σ)] {s : Store} {w : σ}
    {db : Database} (h : Reachable s w db) (table : String) (second : Option Join)
    (condition : Option Condition) :
    ((Plan.ofSelect table second condition).useIndex db.catalog).run db.catalog =
        (Plan.ofSelect table second condition).run db.catalog ↔
      ∀ f t, second = none → condition = some f → db.catalog.find? table = some t →
        t.schema.primaryKey = some f.column →
        ∀ row ∈ t.rows, ∀ v, row.get? f.column = some v →
          (v = f.value.value ↔ v.display = f.value.text) :=
  Plan.run_useIndex_ofSelect_iff h.wellFormed table second condition

/-- The key 7 is found for the literal 7 either way. -/
theorem run_useIndex_eq_run_of_seven :
    ∃ (s : Store) (w : FileSystem) (db : Database), Reachable s w db ∧
      ((Plan.ofSelect "t" none (some ⟨"id", .number "7"⟩)).useIndex db.catalog).run db.catalog =
        (Plan.ofSelect "t" none (some ⟨"id", .number "7"⟩)).run db.catalog := by
  obtain ⟨s, w, db, hreach, -, t, ht, -, -, -, hrows⟩ := exists_reachable_of_one_row
  refine ⟨s, w, db, hreach, (hreach.run_useIndex_eq_run_iff _ _ _).2 ?_⟩
  intro f u _ hf hu _ row hr v hv
  have hmem := (Catalog.find?_eq_some_iff.1 hu).1
  rw [ht, List.mem_singleton] at hmem
  subst hmem
  cases hf
  rw [hrows, List.mem_singleton] at hr
  subst hr
  obtain rfl : .integer 7 = v := Option.some.inj hv
  exact iff_of_true (by decide) (by decide)

/-- The key 7 is found for the literal 007 through the index and not by a scan. -/
theorem exists_run_useIndex_ne_run :
    ∃ (s : Store) (w : FileSystem) (db : Database), Reachable s w db ∧
      ((Plan.ofSelect "t" none (some ⟨"id", .number "007"⟩)).useIndex db.catalog).run db.catalog ≠
        (Plan.ofSelect "t" none (some ⟨"id", .number "007"⟩)).run db.catalog := by
  obtain ⟨s, w, db, hreach, -, t, ht, hname, hkey, -, hrows⟩ := exists_reachable_of_one_row
  refine ⟨s, w, db, hreach, fun he => ?_⟩
  have hfind : db.catalog.find? "t" = some t :=
    Catalog.find?_eq_some_iff.2 ⟨ht ▸ List.mem_singleton_self t, hname⟩
  have hagrees := (Plan.run_useIndex_ofSelect_iff hreach.wellFormed _ _ _).1 he _ t rfl rfl hfind
    hkey _ (hrows ▸ List.mem_singleton_self _) (.integer 7) rfl
  exact absurd (hagrees.1 (by decide)) (by decide)

end RelStore
