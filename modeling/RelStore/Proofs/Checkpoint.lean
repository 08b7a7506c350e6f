import RelStore.Proofs.Catalog
import RelStore.Proofs.Json.Read
import RelStore.Proofs.Schema

/-!
A checkpoint holds the catalog that it was made of. Values, rows, columns, tables and documents
are each read back from their JSON; and the document of a well-formed catalog states that catalog,
since rows that fill their columns in order are taken in as they are and an exact index is made
again by its rows.
-/

namespace RelStore
set_option autoImplicit false

theorem mapM_map_eq_some {α β : Type} {f : β → Option α} {g : α → β} {l : List α}
    (h : ∀ a ∈ l, f (g a) = some a) : (l.map g).mapM f = some l := by
  induction l with
  | nil => rfl
  | cons a l ih =>
    rw [List.map_cons, List.mapM_cons, h a List.mem_cons_self,
      ih fun b hb => h b (List.mem_cons_of_mem _ hb)]
    rfl

namespace Json

theorem members?_ofMembers (members : List (String × Json)) :
    (ofMembers members).members? = some members :=
  mapM_map_eq_some fun _ _ => rfl

end Json

theorem Value.ofJson?_toJson (v : Value) : ofJson? v.toJson = some v := by
  cases v with
  | integer n =>
    have hbounds : Int64.minValue.toInt ≤ n.toInt ∧ n.toInt ≤ Int64.maxValue.toInt :=
      ⟨n.minValue_le_toInt, n.toInt_le⟩
    rw [toJson, ofJson?, if_pos hbounds, Int64.ofInt_toInt]
  | text s => rfl

theorem Row.ofJson?_toJson (row : Row) : ofJson? row.toJson = some row := by
  have hentries : (row.entries.map fun e => (e.1, e.2.toJson)).mapM
      (fun m => (Value.ofJson? m.2).map (m.1, ·)) = some row.entries := by
    refine mapM_map_eq_some fun e _ => ?_
    rw [Value.ofJson?_toJson]
    rfl
  unfold ofJson? toJson
  rw [Json.members?_ofMembers]
  simp only [Option.bind_eq_bind, Option.bind_some, hentries]
  exact congrArg some row.ofList_entries

theorem ColumnType.ofJson?_toJson (t : ColumnType) : ofJson? t.toJson = some t := by
  cases t <;> rfl

namespace TableDocument

theorem columnOfJson?_array (c : String × ColumnType) :
    columnOfJson? (.array [.ofText c.1, c.2.toJson]) = some c := by
  change (ColumnType.ofJson? c.2.toJson >>= _) = _
  rw [ColumnType.ofJson?_toJson]
  rfl

theorem keyOfJson?_keyToJson (key : Option String) : keyOfJson? (keyToJson key) = some key := by
  cases key <;> rfl

theorem ofJson?_toJson (d : TableDocument) : ofJson? d.toJson = some d := by
  have hcolumns : (d.columns.map fun c => Json.array [.ofText c.1, c.2.toJson]).mapM columnOfJson? =
      some d.columns := mapM_map_eq_some fun c _ => columnOfJson?_array c
  have hrows : (d.rows.map Row.toJson).mapM Row.ofJson? = some d.rows :=
    mapM_map_eq_some fun row _ => row.ofJson?_toJson
  have hparts : ofParts? (.array (d.columns.map fun c => .array [.ofText c.1, c.2.toJson]))
      (keyToJson d.primaryKey) (.array (d.rows.map Row.toJson)) = some d := by
    unfold ofParts?
    simp only [Json.items?, Option.bind_eq_bind, Option.bind_some, hcolumns, keyOfJson?_keyToJson,
      hrows]
    rfl
  unfold toJson
  generalize Json.array (d.columns.map fun c => .array [.ofText c.1, c.2.toJson]) = columns,
    keyToJson d.primaryKey = key, Json.array (d.rows.map Row.toJson) = rows at hparts
  exact hparts

end TableDocument

namespace Document

theorem ofJson?_toJson (d : Document) : ofJson? d.toJson = some d := by
  have hentries : (d.entries.map fun e => (e.1, e.2.toJson)).mapM
      (fun m => (TableDocument.ofJson? m.2).map (m.1, ·)) = some d.entries := by
    refine mapM_map_eq_some fun e _ => ?_
    rw [TableDocument.ofJson?_toJson]
    rfl
  unfold ofJson? toJson
  rw [Json.members?_ofMembers]
  simp only [Option.bind_eq_bind, Option.bind_some, hentries]
  exact congrArg some (OrderedMap.ofList_entries d)

end Document

theorem Document.addTable_ofTable {c c' : Catalog} {t : Table} (h : t.WellFormed)
    (ha : (Catalog.add t).on c = (.ok (), c')) : addTable c t.name (.ofTable t) = .ok c' := by
  unfold addTable TableDocument.ofTable
  rw [Schema.ofColumns_entries, Except.mapError, ok_bind, h.restore, Except.mapError, ok_bind, ha]
  rfl

/-- The tables that are still to come are put after those that are there. -/
theorem Catalog.WellFormed.foldlM_addTable {c c' : Catalog} (h : c.WellFormed)
    {tables : List Table} (htables : c'.tables ++ tables = c.tables) :
    (tables.map fun t => (t.name, TableDocument.ofTable t)).foldlM
      (fun c e => Document.addTable c e.1 e.2) c' = .ok c := by
  induction tables generalizing c' with
  | nil =>
    rw [List.append_nil] at htables
    exact congrArg Except.ok (Catalog.ext htables)
  | cons t tables ih =>
    have ht : t.WellFormed := h t (htables ▸ List.mem_append_right _ List.mem_cons_self)
    have hn : t.name ∉ c'.names := by
      have hnodup := c.nodup
      rw [← htables] at hnodup
      exact not_mem_map_of_nodup_append hnodup
    obtain ⟨c'', hadd, hc''⟩ := exists_add hn
    rw [List.map_cons, List.foldlM_cons, Document.addTable_ofTable ht hadd, ok_bind]
    refine ih ?_
    rw [hc'', List.append_assoc]
    exact htables

theorem Catalog.WellFormed.toCatalog_ofCatalog {c : Catalog} (h : c.WellFormed) :
    (Document.ofCatalog c).toCatalog = .ok c := by
  have htables : Catalog.empty.tables ++ c.tables = c.tables := rfl
  exact h.foldlM_addTable htables

/-- The checkpoint of a well-formed catalog holds that catalog, in either layout. -/
theorem Catalog.WellFormed.ofCheckpoint_checkpoint {c : Catalog} (h : c.WellFormed)
    (l : Json.Layout) : Catalog.ofCheckpoint (c.checkpoint l) = .ok c := by
  unfold Catalog.ofCheckpoint Catalog.checkpoint
  rw [Json.read?_render, Option.bind_some, Document.ofJson?_toJson]
  exact h.toCatalog_ofCatalog

end RelStore
