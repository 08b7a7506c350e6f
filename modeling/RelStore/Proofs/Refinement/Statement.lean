import RelStore.Proofs.IndexScan
import RelStore.Proofs.Schema
import RelStore.Proofs.Value

/-!
Statements carried out by plans, against statements carried out on the rows themselves. A catalog
without its indexes is a state of the plain interpreter. On a well-formed catalog the plan of a
statement, the index used where it can be, gives the answer of the plain interpreter and a catalog
that stands for its state.
-/

namespace RelStore
set_option autoImplicit false

def Table.toRelation (t : Table) : Reference.Relation :=
  ⟨t.name, t.schema.columns.entries, t.schema.primaryKey, t.rows⟩

def Catalog.toState (c : Catalog) : Reference.State :=
  c.tables.map Table.toRelation

/-- What is seen of an engine that has carried something out: the answer and the tables without their
indexes. -/
def Engine.observed {ε : Type} (result : Except ε Answer × Engine) :
    Except ε (Answer × Reference.State) :=
  result.1.map fun answer => (answer, result.2.catalog.toState)

theorem Engine.observed_mapError {ε ε' : Type} {f : ε → ε'} (x : Attempt ε Engine Answer)
    (e : Engine) : Engine.observed ((x.mapError f).on e) = (Engine.observed (x.on e)).mapError f := by
  rw [Attempt.on_mapError]
  exact map_mapError _ _ _

theorem Row.fieldMatches_eq_any (row : Row) (field text : String) :
    row.fieldMatches field text = (row.get? field).any fun v => v.display == text := by
  unfold Row.fieldMatches
  cases row.get? field with
  | none => rfl
  | some v => exact v.matchesText_eq text

namespace Catalog

variable {c : Catalog} {t : Table} {name : String}

theorem find_toState (c : Catalog) (name : String) :
    Reference.find c.toState name = (c.table name).map Table.toRelation := by
  have hfind : c.toState.find? (·.name = name) = (c.find? name).map Table.toRelation :=
    List.find?_map
  unfold Reference.find Catalog.table
  rw [hfind]
  cases c.find? name <;> rfl

theorem map_name_toState (c : Catalog) : c.toState.map Reference.Relation.name = c.names := by
  unfold toState names
  rw [List.map_map]
  rfl

theorem toState_replace {t' : Table} (ht : c.find? name = some t) (hn : t'.name = t.name)
    (hs : t'.schema = t.schema) :
    (c.replace t').toState = Reference.setRows c.toState name t'.rows := by
  obtain ⟨hmem, rfl⟩ := find?_eq_some_iff.1 ht
  unfold toState Reference.setRows replace
  rw [List.map_map, List.map_map]
  refine List.map_congr_left fun u hu => ?_
  simp only [Function.comp_apply, hn]
  by_cases hname : u.name = t.name
  · have hut : u = t := List.inj_on_of_nodup_map c.nodup hu hmem hname
    subst hut
    have hrel : u.toRelation.name = u.name := rfl
    rw [if_pos rfl, if_pos hrel]
    unfold Table.toRelation
    rw [hn, hs]
  · have hrel : ¬ u.toRelation.name = t.name := hname
    rw [if_neg hname, if_neg hrel]

end Catalog

namespace Plan

variable {c : Catalog}

/-- A table with this schema is put at the end. -/
theorem observed_add {table : String} (hn : table ∉ c.names) (schema : Schema) :
    Engine.observed ((Engine.change (fun _ => .tableCreated table)
        (Catalog.add (.empty table schema))).on ⟨c, false⟩) =
      .ok (.notice (.tableCreated table),
        c.toState ++ [⟨table, schema.columns.entries, schema.primaryKey, []⟩]) := by
  obtain ⟨c', hc', htables⟩ := Catalog.exists_add (t := .empty table schema) hn
  have hstate : c'.toState =
      c.toState ++ [⟨table, schema.columns.entries, schema.primaryKey, []⟩] := by
    unfold Catalog.toState
    rw [htables, List.map_append]
    rfl
  rw [Engine.on_change, hc', ← hstate]
  rfl

theorem observed_runCreate (c : Catalog) (table : String) (columns : List (String × ColumnType))
    (primaryKey : Option String) :
    Engine.observed ((runCreate table columns primaryKey).on ⟨c, false⟩) =
      Reference.create c.toState table columns primaryKey := by
  unfold runCreate Reference.create
  rw [Attempt.on_get_bind, Catalog.map_name_toState]
  by_cases hn : table ∈ c.names
  · rw [if_pos (Catalog.contains_iff.2 hn), if_pos hn]
    rfl
  rw [if_neg (fun h => hn (Catalog.contains_iff.1 h)), if_neg hn, Attempt.on_check_bind]
  cases hrep : Reference.firstRepeated [] (columns.map Prod.fst) with
  | some column =>
    rw [Schema.ofColumns_of_repeated primaryKey hrep]
    rfl
  | none =>
    by_cases hk : ∀ key, primaryKey = some key → key ∈ columns.map Prod.fst
    · obtain ⟨schema, hs, hentries, hkey⟩ := Schema.exists_ofColumns table hrep hk
      have hadd := observed_add hn schema
      rw [hentries, hkey] at hadd
      rw [hs]
      refine hadd.trans ?_
      cases primaryKey with
      | none => rfl
      | some key => exact (if_pos (hk key rfl)).symm
    · cases primaryKey with
      | none =>
        refine absurd ?_ hk
        intro key he
        cases he
      | some key =>
        have hk' : key ∉ columns.map Prod.fst := fun hm => hk fun _ he => Option.some.inj he ▸ hm
        rw [Schema.ofColumns_of_key_not_mem hrep hk']
        exact (if_neg hk').symm

theorem observed_insert {t : Table} {table : String} {row : Row} (ht : t.WellFormed)
    (hfind : c.find? table = some t) (hrow : row.keys = t.schema.columnNames) :
    (((Table.insert row).on t).1.map fun _ =>
        (Answer.notice .rowInserted, (c.replace ((Table.insert row).on t).2).toState)) =
      match (Reference.keyOf? t.toRelation row).filter fun key =>
          t.rows.any fun other => Reference.keyOf? t.toRelation other == some key with
      | some key => .error (.duplicateKey key)
      | none => .ok (.notice .rowInserted, Reference.setRows c.toState table (t.rows ++ [row])) := by
  -- the row that was taken in stands for the row at the end of the list
  have hinserted : (∀ column, t.schema.primaryKey = some column →
      ∃ key, row.get? column = some key ∧ ∀ other ∈ t.rows, other.get? column ≠ some key) →
      (((Table.insert row).on t).1.map fun _ =>
          (Answer.notice .rowInserted, (c.replace ((Table.insert row).on t).2).toState)) =
        .ok (.notice .rowInserted, Reference.setRows c.toState table (t.rows ++ [row])) := by
    intro hfree
    obtain ⟨t', ht', hname, hschema, hrows⟩ := ht.indexed.exists_insert hfree
    rw [ht', ← hrows, ← Catalog.toState_replace hfind hname hschema]
    rfl
  unfold Reference.keyOf? Table.toRelation
  cases hk : t.schema.primaryKey with
  | none => exact hinserted fun column hc => by cases hk.symm.trans hc
  | some column =>
    have hmem : column ∈ row.keys := by
      rw [hrow]
      exact t.schema.key_mem column hk
    obtain ⟨key, hkey⟩ := Option.isSome_iff_exists.1 (OrderedMap.isSome_get?_iff.2 hmem)
    simp only [Option.bind_some, hkey]
    by_cases htaken : ∃ other ∈ t.rows, other.get? column = some key
    · have hany : (t.rows.any fun other => other.get? column == some key) = true := by
        simpa only [List.any_eq_true, beq_iff_eq] using htaken
      rw [ht.indexed.insert_of_taken hk hkey htaken, Option.filter_some, if_pos hany]
      rfl
    · have hany : ¬ (t.rows.any fun other => other.get? column == some key) = true := by
        simpa only [List.any_eq_true, beq_iff_eq] using htaken
      rw [Option.filter_some, if_neg hany]
      refine hinserted fun column' hc => ?_
      cases hk.symm.trans hc
      exact ⟨key, hkey, fun other hother he => htaken ⟨other, hother, he⟩⟩

theorem observed_runInsert (hc : c.WellFormed) (table : String) (literals : List Literal) :
    Engine.observed ((runInsert table literals).on ⟨c, false⟩) =
      Reference.insert c.toState table literals := by
  unfold runInsert Reference.insert
  rw [Catalog.find_toState, Engine.on_change]
  cases ht : c.table table with
  | error r =>
    rw [Catalog.on_onTable_of_error ht]
    rfl
  | ok t =>
    have hfind := Catalog.table_eq_ok.1 ht
    obtain ⟨-, hname⟩ := Catalog.find?_eq_some_iff.1 hfind
    have hlength : t.toRelation.columns.length = t.schema.columns.size := rfl
    rw [Catalog.on_onTable ht, Table.on_insertValues, ok_map, ok_bind, hlength]
    by_cases hl : literals.length = t.schema.columns.size
    · have hrowOf : t.rowOf (literals.map Literal.value) =
          .ok (.ofList (t.schema.columnNames.zip (literals.map Literal.value))) :=
        if_pos ((List.length_map _).trans hl)
      have hinsert := observed_insert (hc.table ht) hfind (Table.keys_of_rowOf hrowOf)
      rw [if_neg (not_not.2 hl), hrowOf]
      refine Eq.trans ?_ hinsert
      dsimp only
      generalize (Table.insert (.ofList (t.schema.columnNames.zip (literals.map Literal.value)))).on t =
        result
      rcases result with ⟨_ | _, _⟩ <;> rfl
    · have hrowOf : t.rowOf (literals.map Literal.value) =
          .error (.countMismatch t.name t.schema.columns.size literals.length) := by
        unfold Table.rowOf
        rw [List.length_map, if_neg hl]
      rw [if_pos hl, hrowOf, hname]
      rfl

theorem observed_runDelete (table : String) (condition : Condition) :
    Engine.observed ((runDelete table condition.column condition.value).on ⟨c, false⟩) =
      Reference.delete c.toState table condition := by
  unfold runDelete Reference.delete
  rw [Catalog.find_toState, Engine.on_change]
  cases ht : c.table table with
  | error r =>
    rw [Catalog.on_onTable_of_error ht]
    rfl
  | ok t =>
    have hstate := Catalog.toState_replace (Catalog.table_eq_ok.1 ht)
      (t.name_deleteWhere condition.column condition.value.text)
      (t.schema_deleteWhere condition.column condition.value.text)
    have hcount := t.fst_deleteWhere condition.column condition.value.text
    rw [Table.rows_deleteWhere, Table.keptRows] at hstate
    simp only [Row.fieldMatches_eq_any] at hstate hcount
    rw [Catalog.on_onTable ht, ok_map, ok_bind]
    exact congrArg Except.ok (Prod.ext (congrArg (fun n => Answer.notice (.rowsDeleted n)) hcount)
      hstate)

/-- The condition of a filter, with the fallback used where the row lacks the column. -/
theorem passes_eq_any (column fallback text : String) (row : Row) :
    passes column fallback text row =
      ((row.get? column).or (row.get? fallback)).any fun v => v.display == text := by
  unfold passes
  cases row.get? column with
  | some v => exact v.matchesText_eq text
  | none => exact row.fieldMatches_eq_any fallback text

theorem joinRow_eq (leftColumn rightTable rightColumn : String) (right : List Row) (l : Row) :
    joinRow leftColumn rightTable rightColumn right l =
      (right.filter fun r =>
        match l.get? leftColumn, r.get? rightColumn with
        | some v, some w => v.display == w.display
        | _, _ => false).map (l.joinWith rightTable) := by
  unfold joinRow
  cases l.get? leftColumn with
  | none => rw [List.filter_eq_nil_iff.2 (fun _ _ => Bool.false_ne_true)]; rfl
  | some v =>
    refine congrArg _ (List.filter_congr fun r _ => ?_)
    cases r.get? rightColumn with
    | none => rfl
    | some w => exact v.matchesValue_eq_display w

/-- The engine puts the right fields in one after the other; what comes of it is the joined row. -/
theorem joinWith_eq (l : Row) (label : String) (r : Row) :
    l.joinWith label r = Reference.joinedRow label l r :=
  OrderedMap.ext (OrderedMap.entries_insertAll_eq (Reference.nodup_renamed label r))

theorem flatMap_joinRow (leftColumn rightTable rightColumn : String) (left right : List Row) :
    left.flatMap (joinRow leftColumn rightTable rightColumn right) =
      (Reference.joinPairs left right leftColumn rightColumn).map fun pair =>
        Reference.joinedRow rightTable pair.1 pair.2 := by
  unfold Reference.joinPairs
  rw [List.map_flatMap]
  refine List.flatMap_congr fun l _ => ?_
  rw [joinRow_eq, List.map_map]
  exact List.map_congr_left fun r _ => joinWith_eq l rightTable r

theorem tableOf_eq (c : Catalog) (name : String) :
    tableOf c name = (c.table name).mapError .refusal := rfl

theorem hasColumn_eq (t : Table) (column : String) :
    t.schema.hasColumn column = decide (column ∈ t.toRelation.columns.map Prod.fst) := rfl

theorem rows_ofSelect_none {table : String} {t : Table} (ht : c.find? table = some t)
    (second : Option Join) :
    rows c (ofSelect table second none) =
      (Reference.joined c.toState t.toRelation second).mapError .refusal := by
  cases second with
  | none => exact rows_scan ht
  | some j =>
    change rows c (.join (.scan table) table j.left.column j.table j.right.column) = _
    rw [rows, rows_scan ht, ok_bind, tableOf_of_find? ht, ok_bind, tableOf_eq, Reference.joined,
      Catalog.find_toState]
    cases hr : c.table j.table with
    | error r => rfl
    | ok right =>
      obtain ⟨-, rfl⟩ := Catalog.find?_eq_some_iff.1 ht
      simp only [Except.mapError, ok_bind, ok_map, hasColumn_eq, Bool.not_eq_true',
        decide_eq_false_iff_not]
      split
      · rfl
      · split
        · rfl
        · rw [flatMap_joinRow]
          rfl

theorem useIndex_ofSelect_none (c : Catalog) (table : String) (second : Option Join) :
    (ofSelect table second none).useIndex c = ofSelect table second none := by
  cases second <;> rfl

/-- A condition keeps the rows that fulfil it, also where it is answered by a lookup. -/
theorem rows_useIndex_ofSelect_some (hc : c.WellFormed) {table : String} {t : Table}
    (ht : c.find? table = some t) (second : Option Join) (f : Condition) :
    rows c ((ofSelect table second (some f)).useIndex c) =
      (rows c (ofSelect table second none)).map
        (List.filter (Reference.fulfils t.toRelation second.isSome f)) := by
  obtain ⟨hmem, hname⟩ := Catalog.find?_eq_some_iff.1 ht
  have hfallback : table ++ "_" ++ f.column = t.toRelation.name ++ "_" ++ f.column := by
    rw [← hname]
    rfl
  -- a filter goes by the displayed text, as any condition but one on the key without a join
  have hfilter : ∀ input : Plan, (!second.isSome && t.schema.primaryKey == some f.column) = false →
      rows c (.filter input f.column (table ++ "_" ++ f.column) f.value) =
        (rows c input).map (List.filter (Reference.fulfils t.toRelation second.isSome f)) := by
    intro input hkey
    have hpasses : passes f.column (table ++ "_" ++ f.column) f.value.text =
        Reference.fulfils t.toRelation second.isSome f := by
      funext row
      have hkey' : ¬ (!second.isSome && t.toRelation.primaryKey == some f.column) = true :=
        Bool.eq_false_iff.1 hkey
      rw [passes_eq_any, hfallback, Reference.fulfils, if_neg hkey']
    rw [rows, hpasses]
    exact bind_pure_eq_map _ _
  cases second with
  | some j => exact hfilter (ofSelect table (some j) none) rfl
  | none =>
    change rows c (useIndex c (.filter (.scan table) f.column (table ++ "_" ++ f.column) f.value)) = _
    rw [useIndex]
    split
    · rename_i hkey
      obtain ⟨u, hu, hk⟩ := isPrimaryKey_iff.1 hkey
      cases ht.symm.trans hu
      have hscan : rows c (ofSelect table none none) = .ok t.rows := rows_scan ht
      rw [rows_lookup ht, (hc t hmem).indexed.toList_lookup hk, hscan, ok_map]
      refine congrArg Except.ok (List.filter_congr fun row _ => ?_)
      have hkey' : (!false && t.toRelation.primaryKey == some f.column) = true := beq_iff_eq.2 hk
      exact (if_pos hkey').symm
    · rename_i hkey
      refine hfilter (.scan table) (Bool.eq_false_iff.2 fun hk => hkey ?_)
      exact isPrimaryKey_iff.2 ⟨t, ht, eq_of_beq hk⟩

theorem rows_of_find?_eq_none {table : String} (h : c.find? table = none) (second : Option Join)
    (condition : Option Condition) :
    rows c ((ofSelect table second condition).useIndex c) =
      .error (.refusal (.tableNotFound table)) := by
  have htable : tableOf c table = .error (.refusal (.tableNotFound table)) := by
    unfold tableOf Catalog.table
    rw [h]
    rfl
  have hrows : rows c (ofSelect table second none) = .error (.refusal (.tableNotFound table)) := by
    cases second <;> simp only [ofSelect, rows, htable, error_bind]
  have hkey : ∀ column, ¬ isPrimaryKey c table column = true := by
    intro column hk
    obtain ⟨t, ht, -⟩ := isPrimaryKey_iff.1 hk
    cases h.symm.trans ht
  cases condition with
  | none => rw [useIndex_ofSelect_none, hrows]
  | some f =>
    cases second with
    | none =>
      change rows c (useIndex c (.filter (.scan table) f.column _ f.value)) = _
      rw [useIndex, if_neg (hkey f.column)]
      exact congrArg (· >>= _) hrows
    | some j => exact congrArg (· >>= _) hrows

/-- A selection gives the rows, or the refusal, that the plain interpreter gives. -/
theorem rows_useIndex_ofSelect (hc : c.WellFormed) (table : String) (second : Option Join)
    (condition : Option Condition) :
    (rows c ((ofSelect table second condition).useIndex c)).map Answer.rows =
      (Reference.select c.toState table second condition).mapError .refusal := by
  unfold Reference.select
  rw [Catalog.find_toState]
  cases hf : c.find? table with
  | none =>
    have ht : c.table table = .error (.tableNotFound table) := by
      unfold Catalog.table
      rw [hf]
    rw [rows_of_find?_eq_none hf, ht]
    rfl
  | some t =>
    rw [Catalog.table_eq_ok.2 hf, ok_map, ok_bind]
    have hrows := rows_ofSelect_none hf second
    cases condition with
    | none =>
      rw [useIndex_ofSelect_none, hrows]
      cases Reference.joined c.toState t.toRelation second <;> rfl
    | some f =>
      rw [rows_useIndex_ofSelect_some hc hf, hrows]
      cases Reference.joined c.toState t.toRelation second <;> rfl

end Plan

/-- The plan of a statement, with the index used where it can be, does what the plain interpreter
does. -/
theorem Catalog.WellFormed.observed_run {c : Catalog} (hc : c.WellFormed) (s : Statement) :
    Engine.observed (((Plan.ofStatement s).useIndex c).run c) =
      (Reference.carryOut c.toState s).mapError .refusal := by
  cases s with
  | createTable table columns primaryKey =>
    refine (Engine.observed_mapError _ _).trans (congrArg (Except.mapError _) ?_)
    exact Plan.observed_runCreate c table columns primaryKey
  | insert table literals =>
    refine (Engine.observed_mapError _ _).trans (congrArg (Except.mapError _) ?_)
    exact Plan.observed_runInsert hc table literals
  | delete table condition =>
    refine (Engine.observed_mapError _ _).trans (congrArg (Except.mapError _) ?_)
    exact Plan.observed_runDelete table condition
  | select table second condition =>
    have hreads : ((Plan.ofSelect table second condition).useIndex c).readsRows = true := by
      rw [Plan.readsRows_useIndex, Plan.readsRows_ofSelect]
    have hrun := Plan.run_of_readsRows hreads (c := c)
    have hrows := Plan.rows_useIndex_ofSelect hc table second condition
    rw [Plan.ofStatement, Reference.carryOut]
    generalize (Plan.ofSelect table second condition).useIndex c = plan at hrun hrows
    calc Engine.observed (plan.run c)
        = ((plan.rows c).map Answer.rows).map fun answer => (answer, c.toState) := by
          rw [hrun]
          rfl
      _ = ((Reference.select c.toState table second condition).mapError PlanFault.refusal).map
            fun answer => (answer, c.toState) := by rw [hrows]
      _ = ((Reference.select c.toState table second condition).map
            fun answer => (answer, c.toState)).mapError .refusal := map_mapError _ _ _
      _ = _ := by rw [← bind_pure_eq_map]

end RelStore
