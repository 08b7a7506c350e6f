import Mathlib.Data.List.Nodup
import RelStore.Checkpoint
import RelStore.Plan.Run
import RelStore.Proofs.Table

/-!
Well-formed catalogs: every table is well-formed. A catalog that is read from a checkpoint is
well-formed, and so is the catalog after a plan was carried out on a well-formed one. A plan that
fails leaves the catalog, and the note whether it was changed, as they were.
-/

namespace RelStore
set_option autoImplicit false

namespace Catalog

def WellFormed (c : Catalog) : Prop :=
  ∀ t ∈ c.tables, t.WellFormed

variable {c c' : Catalog} {t : Table} {name : String}

theorem wellFormed_empty : empty.WellFormed :=
  nofun

theorem find?_eq_some_iff : c.find? name = some t ↔ t ∈ c.tables ∧ t.name = name := by
  unfold find?
  constructor
  · intro h
    exact ⟨List.mem_of_find?_eq_some h, by simpa using List.find?_some h⟩
  · rintro ⟨ht, rfl⟩
    obtain ⟨u, hf⟩ : ∃ u, c.tables.find? (·.name = t.name) = some u := by
      rw [← Option.isSome_iff_exists, List.find?_isSome]
      exact ⟨t, ht, decide_eq_true rfl⟩
    have hu : u ∈ c.tables := List.mem_of_find?_eq_some hf
    have hname : u.name = t.name := by simpa using List.find?_some hf
    rw [hf, List.inj_on_of_nodup_map c.nodup hu ht hname]

theorem contains_iff : c.contains name = true ↔ name ∈ c.names :=
  decide_eq_true_iff

theorem table_eq_ok : c.table name = .ok t ↔ c.find? name = some t := by
  unfold table
  split
  · rename_i u hu
    rw [hu]
    exact ⟨fun h => by cases h; rfl, fun h => by cases h; rfl⟩
  · rename_i hn
    rw [hn]
    exact ⟨nofun, nofun⟩

theorem WellFormed.table (h : c.WellFormed) (ht : c.table name = .ok t) : t.WellFormed :=
  h t (find?_eq_some_iff.1 (table_eq_ok.1 ht)).1

theorem on_add_of_mem (h : t.name ∈ c.names) :
    (add t).on c = (.error (.tableAlreadyExists t.name), c) := by
  unfold add
  rw [Attempt.on_get_bind, dif_pos h]
  rfl

theorem on_add_of_not_mem (h : t.name ∉ c.names) : (add t).on c = (.ok (), c.push t h) := by
  unfold add
  rw [Attempt.on_get_bind, dif_neg h]
  rfl

theorem add_eq_ok (h : (add t).on c = (.ok (), c')) :
    t.name ∉ c.names ∧ c'.tables = c.tables ++ [t] := by
  by_cases hn : t.name ∈ c.names
  · cases (on_add_of_mem hn).symm.trans h
  · cases (on_add_of_not_mem hn).symm.trans h
    exact ⟨hn, rfl⟩

theorem exists_add (h : t.name ∉ c.names) :
    ∃ c', (add t).on c = (.ok (), c') ∧ c'.tables = c.tables ++ [t] :=
  ⟨_, on_add_of_not_mem h, rfl⟩

/-- A table that is refused has not been put into the catalog. -/
theorem atomic_add (t : Table) : (add t).Atomic := by
  intro c r hr
  by_cases hn : t.name ∈ c.names
  · rw [on_add_of_mem hn]
  · rw [on_add_of_not_mem hn] at hr
    cases hr

theorem find?_replace {t' : Table} (ht : c.find? name = some t) (hn : t'.name = t.name) :
    (c.replace t').find? name = some t' := by
  obtain ⟨hmem, rfl⟩ := find?_eq_some_iff.1 ht
  exact find?_eq_some_iff.2 ⟨List.mem_map.2 ⟨t, hmem, if_pos hn.symm⟩, hn⟩

theorem find?_replace_of_ne (hn : t.name ≠ name) : (c.replace t).find? name = c.find? name := by
  have hsame : ∀ u : Table, ((if u.name = t.name then t else u).name = name) = (u.name = name) := by
    intro u
    split
    · rename_i h
      rw [h]
    · rfl
  unfold find? replace
  simp only [List.find?_map, Function.comp_def, hsame]
  cases hf : c.tables.find? (·.name = name) with
  | none => rfl
  | some u =>
    have hname : u.name = name := by simpa using List.find?_some hf
    rw [Option.map_some, if_neg (hname ▸ hn.symm)]

theorem table_replace_of_ne (hn : t.name ≠ name) : (c.replace t).table name = c.table name := by
  unfold table
  rw [find?_replace_of_ne hn]

/-- Replacements of different tables can be made in either order. -/
theorem replace_comm {t' : Table} (hn : t.name ≠ t'.name) :
    (c.replace t).replace t' = (c.replace t').replace t := by
  apply ext
  simp only [replace, List.map_map]
  apply List.map_congr_left
  intro u _
  simp only [Function.comp_apply]
  by_cases h : u.name = t.name
  · have h' : ¬ u.name = t'.name := fun he => hn (h.symm.trans he)
    rw [if_pos h, if_neg h', if_neg hn, if_pos h]
  · rw [if_neg h]
    by_cases h' : u.name = t'.name
    · rw [if_pos h', if_neg hn.symm]
    · rw [if_neg h', if_neg h]

/-- Of two replacements of one table the later counts. -/
theorem replace_replace {t' : Table} (hn : t.name = t'.name) :
    (c.replace t).replace t' = c.replace t' := by
  apply ext
  simp only [replace, List.map_map]
  apply List.map_congr_left
  intro u _
  simp only [Function.comp_apply, hn]
  by_cases h : u.name = t'.name
  · rw [if_pos h, if_pos hn, if_pos h]
  · rw [if_neg h, if_neg h]

theorem replace_self (ht : c.find? name = some t) : c.replace t = c := by
  obtain ⟨hmem, -⟩ := find?_eq_some_iff.1 ht
  refine ext ?_
  have hsame : ∀ u ∈ c.tables, (if u.name = t.name then t else u) = u := by
    intro u hu
    split
    · rename_i hname
      exact (List.inj_on_of_nodup_map c.nodup hu hmem hname).symm
    · rfl
  exact (List.map_congr_left hsame).trans (List.map_id _)

theorem replace_eq_self_iff {t' : Table} (ht : c.find? name = some t) (hn : t'.name = t.name) :
    c.replace t' = c ↔ t' = t := by
  constructor
  · intro h
    have hfind := find?_replace ht hn
    rw [h, ht] at hfind
    exact (Option.some.inj hfind).symm
  · rintro rfl
    exact replace_self ht

theorem on_onTable {α : Type} {x : Attempt Refusal Table α} (ht : c.table name = .ok t) :
    (onTable name x).on c = ((x.on t).1, c.replace (x.on t).2) := by
  have hcheck : (Attempt.check fun c : Catalog => c.table name).on c = (.ok t, c) := by
    rw [Attempt.on_check, ht]
  unfold onTable
  rw [Attempt.on_bind_of_ok hcheck, Attempt.on_part]

theorem on_onTable_of_error {α : Type} {x : Attempt Refusal Table α} {r : Refusal}
    (ht : c.table name = .error r) : (onTable name x).on c = (.error r, c) := by
  have hcheck : (Attempt.check fun c : Catalog => c.table name).on c = (.error r, c) := by
    rw [Attempt.on_check, ht]
  unfold onTable
  rw [Attempt.on_bind_of_error hcheck]

theorem onTable_eq_ok {α : Type} {x : Attempt Refusal Table α} {a : α} :
    (onTable name x).on c = (.ok a, c') ↔
      ∃ t t', c.table name = .ok t ∧ x.on t = (.ok a, t') ∧ c' = c.replace t' := by
  constructor
  · intro h
    cases ht : c.table name with
    | error r => cases (on_onTable_of_error ht).symm.trans h
    | ok t =>
      obtain ⟨hx, hc⟩ := Prod.mk.inj ((on_onTable ht).symm.trans h)
      exact ⟨t, (x.on t).2, rfl, Prod.ext hx rfl, hc.symm⟩
  · rintro ⟨t, t', ht, hx, rfl⟩
    rw [on_onTable ht, hx]

/-- What leaves a table alone if it is refused leaves the catalog alone. -/
theorem atomic_onTable {α : Type} (name : String) {x : Attempt Refusal Table α} (hx : x.Atomic) :
    (onTable name x).Atomic := by
  intro c r hr
  cases ht : c.table name with
  | error r' => rw [on_onTable_of_error ht]
  | ok t =>
    rw [on_onTable ht] at hr ⊢
    have hsame : (x.on t).2 = t := hx t r hr
    rw [hsame]
    exact replace_self (table_eq_ok.1 ht)

theorem ne_of_add (h : (add t).on c = (.ok (), c')) : c' ≠ c := by
  rintro rfl
  have htables : c'.tables = c'.tables ++ [t] := (add_eq_ok h).2
  exact List.cons_ne_nil t [] (List.self_eq_append_right.1 htables)

/-- What holds of every table and of one more holds of every table with that one added. -/
theorem forall_mem_add {P : Table → Prop} (h : ∀ u ∈ c.tables, P u) (ht : P t)
    (ha : (add t).on c = (.ok (), c')) : ∀ u ∈ c'.tables, P u := by
  intro u hu
  rw [(add_eq_ok ha).2] at hu
  rcases List.mem_append.1 hu with hu | hu
  · exact h u hu
  · exact List.mem_singleton.1 hu ▸ ht

theorem forall_mem_replace {P : Table → Prop} (h : ∀ u ∈ c.tables, P u) (ht : P t) :
    ∀ u ∈ (c.replace t).tables, P u := by
  intro u hu
  obtain ⟨v, hv, rfl⟩ := List.mem_map.1 hu
  split
  · exact ht
  · exact h v hv

theorem WellFormed.add (h : c.WellFormed) (ht : t.WellFormed)
    (ha : (Catalog.add t).on c = (.ok (), c')) : c'.WellFormed :=
  forall_mem_add h ht ha

theorem WellFormed.replace (h : c.WellFormed) (ht : t.WellFormed) : (c.replace t).WellFormed :=
  forall_mem_replace h ht

end Catalog

namespace Document

theorem addTable_eq_ok {c c' : Catalog} {name : String} {d : TableDocument}
    (h : addTable c name d = .ok c') :
    ∃ schema t, Schema.ofColumns name d.columns d.primaryKey = .ok schema ∧
      Table.restore name schema d.rows = .ok t ∧ (Catalog.add t).on c = (.ok (), c') := by
  unfold addTable at h
  obtain ⟨schema, hs, h⟩ := bind_eq_ok.1 h
  obtain ⟨t, ht, h⟩ := bind_eq_ok.1 h
  obtain ⟨⟨⟩, ha, h⟩ := bind_eq_ok.1 h
  cases h
  exact ⟨schema, t, mapError_eq_ok.1 hs, mapError_eq_ok.1 ht, Prod.ext (mapError_eq_ok.1 ha) rfl⟩

theorem wellFormed_toCatalog {d : Document} {c : Catalog} (h : d.toCatalog = .ok c) :
    c.WellFormed := by
  refine of_foldlM_eq_ok (fun c e c' hc ha => ?_) Catalog.wellFormed_empty h
  obtain ⟨schema, t, -, ht, hadd⟩ := addTable_eq_ok ha
  exact hc.add (Table.wellFormed_restore ht) hadd

end Document

theorem Catalog.wellFormed_ofCheckpoint {text : String} {c : Catalog}
    (h : Catalog.ofCheckpoint text = .ok c) : c.WellFormed := by
  unfold Catalog.ofCheckpoint at h
  split at h
  · exact Document.wellFormed_toCatalog h
  · cases h

namespace Engine

variable {α : Type} {report : α → Notice} {x : Attempt Refusal Catalog α} {e e' : Engine}
  {answer : Answer}

theorem on_change (report : α → Notice) (x : Attempt Refusal Catalog α) (e : Engine) :
    (change report x).on e =
      match x.on e.catalog with
      | (.ok a, c') => (.ok (.notice (report a)), ⟨c', true⟩)
      | (.error r, c') => (.error r, ⟨c', e.modified⟩) := by
  unfold change
  rw [Attempt.on_bind, Attempt.on_part]
  rcases x.on e.catalog with ⟨_ | _, _⟩ <;> rfl

theorem change_eq_ok (h : (change report x).on e = (.ok answer, e')) :
    ∃ a c', x.on e.catalog = (.ok a, c') ∧ answer = .notice (report a) ∧ e' = ⟨c', true⟩ := by
  rw [on_change] at h
  rcases hx : x.on e.catalog with ⟨r | a, c'⟩
  · rw [hx] at h
    cases h
  · rw [hx] at h
    cases h
    exact ⟨a, c', rfl, rfl, rfl⟩

/-- A change is noted when it has been made. -/
theorem atomic_change (report : α → Notice) (hx : x.Atomic) : (change report x).Atomic := by
  refine (hx.part fun _ => rfl).bind fun a => ?_
  exact (Attempt.Succeeds.modify _).bind fun _ => .pure _

end Engine

namespace Plan

variable {c : Catalog} {answer : Answer} {e : Engine}

theorem atomic_runCreate (table : String) (columns : List (String × ColumnType))
    (primaryKey : Option String) : (runCreate table columns primaryKey).Atomic := by
  refine .after_reads .get fun e => ?_
  split
  · exact (Attempt.Succeeds.pure _).atomic
  · exact .after_reads (.check _) fun _ => Engine.atomic_change _ (Catalog.atomic_add _)

theorem atomic_runInsert (table : String) (values : List Literal) :
    (runInsert table values).Atomic :=
  Engine.atomic_change _ (Catalog.atomic_onTable table (Table.atomic_insertValues _))

theorem atomic_runDelete (table column : String) (value : Literal) :
    (runDelete table column value).Atomic :=
  Engine.atomic_change _ (Catalog.atomic_onTable table (Attempt.Succeeds.modifyGet _).atomic)

/-- A plan that fails has changed nothing: not the catalog, and not the note that it was changed. -/
theorem atomic_execute (plan : Plan) : plan.execute.Atomic := by
  cases plan with
  | createTable table columns primaryKey => exact (atomic_runCreate _ _ _).mapError _
  | insert table values => exact (atomic_runInsert _ _).mapError _
  | delete table column value => exact (atomic_runDelete _ _ _).mapError _
  | scan | lookup | filter | join =>
    exact .after_reads (.check _) fun found => (Attempt.Succeeds.pure _).atomic

theorem run_of_error {plan : Plan} {fault : PlanFault} (h : (plan.run c).1 = .error fault) :
    plan.run c = (.error fault, ⟨c, false⟩) :=
  plan.atomic_execute.on_eq h

/-- What carrying out a plan comes to: the ways in which each kind of plan succeeds, with all that
was checked on the way. -/
inductive Ran (c : Catalog) : Plan → Answer → Engine → Prop where
  | kept {table : String} {columns : List (String × ColumnType)} {primaryKey : Option String}
      (hc : c.contains table = true) :
    Ran c (.createTable table columns primaryKey) (.notice (.tableKept table)) ⟨c, false⟩
  | created {table : String} {columns : List (String × ColumnType)} {primaryKey : Option String}
      {schema : Schema} {c' : Catalog} (hc : c.contains table = false)
      (hs : Schema.ofColumns table columns primaryKey = .ok schema)
      (ha : (Catalog.add (.empty table schema)).on c = (.ok (), c')) :
    Ran c (.createTable table columns primaryKey) (.notice (.tableCreated table)) ⟨c', true⟩
  | inserted {table : String} {values : List Literal} {t t' : Table} {row : Row} {position : Nat}
      (ht : c.table table = .ok t) (hr : t.rowOf (values.map Literal.value) = .ok row)
      (hi : (Table.insert row).on t = (.ok position, t')) :
    Ran c (.insert table values) (.notice .rowInserted) ⟨c.replace t', true⟩
  | deleted {table column : String} {value : Literal} {t : Table} (ht : c.table table = .ok t) :
    Ran c (.delete table column value)
      (.notice (.rowsDeleted (t.deleteWhere column value.text).1))
      ⟨c.replace (t.deleteWhere column value.text).2, true⟩
  | returned {plan : Plan} {found : List Row} (hm : plan.isMutating = false)
      (hf : plan.rows c = .ok found) : Ran c plan (.rows found) ⟨c, false⟩

theorem ran_of_run {plan : Plan} (h : plan.run c = (.ok answer, e)) : Ran c plan answer e := by
  cases plan with
  | createTable table columns primaryKey =>
    have hcreate := Attempt.mapError_eq_ok.1 h
    unfold runCreate at hcreate
    rw [Attempt.on_get_bind] at hcreate
    split at hcreate
    · rename_i hc
      cases hcreate
      exact .kept hc
    · rename_i hc
      rw [Attempt.on_check_bind] at hcreate
      cases hs : Schema.ofColumns table columns primaryKey with
      | error r =>
        rw [hs] at hcreate
        cases hcreate
      | ok schema =>
        rw [hs] at hcreate
        obtain ⟨⟨⟩, c', ha, rfl, rfl⟩ := Engine.change_eq_ok hcreate
        exact .created (Bool.eq_false_iff.2 hc) hs ha
  | insert table values =>
    obtain ⟨position, c', hc, rfl, rfl⟩ := Engine.change_eq_ok (Attempt.mapError_eq_ok.1 h)
    obtain ⟨t, t', ht, hi, rfl⟩ := Catalog.onTable_eq_ok.1 hc
    obtain ⟨row, hr, hi⟩ := Table.insertValues_eq_ok.1 hi
    exact .inserted ht hr hi
  | delete table column value =>
    obtain ⟨count, c', hc, rfl, rfl⟩ := Engine.change_eq_ok (Attempt.mapError_eq_ok.1 h)
    obtain ⟨t, t', ht, hd, rfl⟩ := Catalog.onTable_eq_ok.1 hc
    cases hd
    exact .deleted ht
  | scan | lookup | filter | join =>
    obtain ⟨found, e', hc, hr⟩ := Attempt.on_bind_eq_ok.1 h
    obtain ⟨hf, rfl⟩ := Attempt.check_eq_ok.1 hc
    cases hr
    exact .returned rfl hf

theorem isMutating_of_run {plan : Plan} (h : plan.run c = (.ok answer, e))
    (hm : e.modified = true) : plan.isMutating = true := by
  cases ran_of_run h with
  | created | inserted | deleted => rfl
  | kept | returned => cases hm

/-- A plan that leaves nothing to be saved leaves the tables as they are. -/
theorem catalog_of_not_modified {plan : Plan} (h : plan.run c = (.ok answer, e))
    (hm : e.modified = false) : e.catalog = c := by
  cases ran_of_run h with
  | kept | returned => rfl
  | created | inserted | deleted => cases hm

theorem run_insert {table : String} {t t' : Table} {values : List Literal} {row : Row}
    {position : Nat} (ht : c.find? table = some t)
    (hr : t.rowOf (values.map Literal.value) = .ok row)
    (hi : (Table.insert row).on t = (.ok position, t')) :
    (insert table values).run c = (.ok (.notice .rowInserted), ⟨c.replace t', true⟩) := by
  refine Attempt.mapError_eq_ok.2 ?_
  have hvalues := Table.insertValues_eq_ok.2 ⟨row, hr, hi⟩
  unfold runInsert
  rw [Engine.on_change, Catalog.on_onTable (Catalog.table_eq_ok.2 ht), hvalues]

theorem run_delete {table : String} {t : Table} (ht : c.find? table = some t)
    (column : String) (value : Literal) :
    (delete table column value).run c =
      (.ok (.notice (.rowsDeleted (t.deleteWhere column value.text).1)),
        ⟨c.replace (t.deleteWhere column value.text).2, true⟩) := by
  refine Attempt.mapError_eq_ok.2 ?_
  unfold runDelete
  rw [Engine.on_change, Catalog.on_onTable (Catalog.table_eq_ok.2 ht)]
  rfl

end Plan

namespace Table

theorem map_fst_zip_columnNames {t : Table} {values : List Value}
    (h : values.length = t.schema.columns.size) :
    (t.schema.columnNames.zip values).map Prod.fst = t.schema.columnNames := by
  refine List.map_fst_zip (Nat.le_of_eq ?_)
  rw [Schema.columnNames, OrderedMap.length_keys, h]

theorem rowOf_eq_ok {t : Table} {values : List Value} {row : Row}
    (h : t.rowOf values = .ok row) :
    values.length = t.schema.columns.size ∧ row.entries = t.schema.columnNames.zip values := by
  unfold rowOf at h
  split at h
  · rename_i hlength
    cases h
    refine ⟨hlength, OrderedMap.entries_ofList ?_⟩
    rw [map_fst_zip_columnNames hlength]
    exact nodup_columnNames t.schema
  · cases h

theorem keys_of_rowOf {t : Table} {values : List Value} {row : Row}
    (h : t.rowOf values = .ok row) : row.keys = t.schema.columnNames := by
  obtain ⟨hlength, hentries⟩ := rowOf_eq_ok h
  rw [OrderedMap.keys, hentries, map_fst_zip_columnNames hlength]

end Table

/-- Whatever a plan does to a well-formed catalog, the catalog stays well-formed. -/
theorem Catalog.WellFormed.run {c : Catalog} {plan : Plan} {answer : Answer} {e : Engine}
    (h : c.WellFormed) (hr : plan.run c = (.ok answer, e)) : e.catalog.WellFormed := by
  cases Plan.ran_of_run hr with
  | kept | returned => exact h
  | created hc hs ha => exact h.add (Table.wellFormed_empty _ _) ha
  | inserted ht hrow hi => exact h.replace ((h.table ht).insert (Table.keys_of_rowOf hrow) hi)
  | deleted ht => exact h.replace ((h.table ht).deleteWhere _ _)

end RelStore
