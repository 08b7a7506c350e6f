import Mathlib
import RelStore.Proofs.Store

/-!
What is loaded. A document of tables is taken in as a whole just if each of its tables is
consistent: distinct columns, a key among them, rows with just these columns, and keys that differ
from row to row. The tables then come out as they are stated, with indexes made of their rows. Any
other document is refused as a corrupt checkpoint, and so is a text that is no document at all; no
refusal of the kind that statements meet with is passed on.
-/

namespace RelStore
set_option autoImplicit false
set_option maxRecDepth 4096

/-- A row has the values of another one, put in the order of given columns. -/
structure Row.Arranged (columns : List String) (row row' : Row) : Prop where
  keys_eq : row'.keys = columns
  get?_eq : ∀ field, row'.get? field = row.get? field

theorem Row.HasFields.arranged {row : Row} {columns : List String} (h : row.HasFields columns)
    (hn : columns.Nodup) : row.Arranged columns (row.arrange columns) :=
  ⟨Row.keys_arrange hn fun c hc => (h c).2 hc, h.get?_arrange hn⟩

namespace TableDocument

def columnNames (d : TableDocument) : List String :=
  d.columns.map Prod.fst

/-- What is asked of a table document. -/
structure Consistent (d : TableDocument) : Prop where
  nodup_columns : d.columnNames.Nodup
  key_mem : ∀ key, d.primaryKey = some key → key ∈ d.columnNames
  hasFields : ∀ row ∈ d.rows, row.HasFields d.columnNames
  nodup_keys : ∀ key, d.primaryKey = some key → (d.rows.map (·.get? key)).Nodup

/-- A table is as a document states it: the rows in their order, each with its fields in the order
of the columns, and the index that is made of these rows. -/
structure States (name : String) (d : TableDocument) (t : Table) : Prop where
  name_eq : t.name = name
  columns_eq : t.schema.columns.entries = d.columns
  primaryKey_eq : t.schema.primaryKey = d.primaryKey
  rows_arranged : List.Forall₂ (Row.Arranged d.columnNames) d.rows t.rows
  index_eq : t.index = d.primaryKey.map fun key => KeyIndex.build key t.rows

end TableDocument

namespace Document

open TableDocument

variable {c : Catalog} {name : String} {d : TableDocument}

theorem addTable_of_consistent (hd : d.Consistent) (hn : name ∉ c.names) :
    ∃ c' t, addTable c name d = .ok c' ∧ d.States name t ∧ c'.tables = c.tables ++ [t] := by
  obtain ⟨schema, hs⟩ : ∃ schema, Schema.ofColumns name d.columns d.primaryKey = .ok schema :=
    Schema.exists_ofColumns_iff.2 ⟨hd.nodup_columns, hd.key_mem⟩
  obtain ⟨hcolumns, hkey⟩ := Schema.eq_of_ofColumns hs
  have hnames : schema.columnNames = d.columnNames := congrArg (List.map Prod.fst) hcolumns
  have hfields : ∀ row ∈ d.rows, row.HasFields schema.columnNames := hnames ▸ hd.hasFields
  obtain ⟨t, ht, hwf, hname, hschema, hrows⟩ :=
    (Table.wellFormed_empty name schema).exists_foldlM_accept hfields
      fun key hk => hd.nodup_keys key (hkey ▸ hk)
  obtain ⟨c', hadd, htables⟩ := Catalog.exists_add (c := c) (t := t) (hname ▸ hn)
  have hkey' : t.schema.primaryKey = d.primaryKey := hschema ▸ hkey
  have hrows' : t.rows = d.rows.map (·.arrange d.columnNames) := hnames ▸ hrows
  refine ⟨c', t, ?_, ⟨hname, hschema ▸ hcolumns, hkey', ?_, ?_⟩, htables⟩
  · unfold addTable Table.restore
    rw [hs, Except.mapError, ok_bind, ht, Except.mapError, ok_bind, hadd]
    rfl
  · rw [hrows', List.forall₂_map_right_iff, List.forall₂_same]
    exact fun row hr => (hd.hasFields row hr).arranged hd.nodup_columns
  · rw [hwf.indexed.index_eq, hkey']

/-- A table that is not consistent is refused before the catalog is asked for it. -/
theorem addTable_of_not_consistent (hd : ¬ d.Consistent) :
    ∃ fault, addTable c name d = .error fault ∧ fault.passedOn? = none := by
  unfold addTable
  cases hs : Schema.ofColumns name d.columns d.primaryKey with
  | error refusal => exact ⟨.schema refusal, rfl, rfl⟩
  | ok schema =>
    obtain ⟨hnodup, hmem⟩ := Schema.exists_ofColumns_iff.1 ⟨schema, hs⟩
    obtain ⟨hcolumns, hkey⟩ := Schema.eq_of_ofColumns hs
    have hnames : schema.columnNames = d.columnNames := congrArg (List.map Prod.fst) hcolumns
    have hempty := Table.wellFormed_empty name schema
    cases ht : Table.restore name schema d.rows with
    | ok t =>
      obtain ⟨hfields, hkeys⟩ := hempty.of_foldlM_accept ht
      refine absurd ⟨hnodup, hmem, fun row hr => ?_, fun key hk => ?_⟩ hd
      · exact hnames ▸ hfields row hr
      · exact hkeys key (hkey.trans hk)
    | error fault =>
      rw [Except.mapError, ok_bind, ht]
      refine ⟨.rows fault, rfl, ?_⟩
      cases fault with
      | columnsDiffer => rfl
      | duplicateKey => rfl
      | refused r => exact absurd rfl (hempty.foldlM_accept_ne_refused ht r)

section entries

variable {e : String × TableDocument} {entries : List (String × TableDocument)}

/-- Names that are still to come stay apart from those that are there. -/
theorem addTable_of_nodup (hd : e.2.Consistent) (hn : (c.names ++ (e :: entries).map Prod.fst).Nodup) :
    ∃ c' t, addTable c e.1 e.2 = .ok c' ∧ e.2.States e.1 t ∧ c'.tables = c.tables ++ [t] ∧
      (c'.names ++ entries.map Prod.fst).Nodup := by
  have hnew : e.1 ∉ c.names := fun hm =>
    (List.nodup_append.1 hn).2.2 e.1 hm e.1 List.mem_cons_self rfl
  obtain ⟨c', t, hadd, ht, htables⟩ := addTable_of_consistent hd hnew
  have hnames : c'.names = c.names ++ [e.1] := by
    rw [Catalog.names, htables, List.map_append, List.map_singleton, ht.name_eq, Catalog.names]
  refine ⟨c', t, hadd, ht, htables, ?_⟩
  rw [hnames, List.append_assoc]
  exact hn

theorem foldlM_addTable_of_consistent (hn : (c.names ++ entries.map Prod.fst).Nodup)
    (h : ∀ e ∈ entries, e.2.Consistent) :
    ∃ c' tables, entries.foldlM (fun c e => addTable c e.1 e.2) c = .ok c' ∧
      c'.tables = c.tables ++ tables ∧ List.Forall₂ (fun e t => e.2.States e.1 t) entries tables := by
  induction entries generalizing c with
  | nil => exact ⟨c, [], rfl, (List.append_nil _).symm, .nil⟩
  | cons e rest ih =>
    obtain ⟨c₁, t, hadd, ht, htables, hn₁⟩ := addTable_of_nodup (h e List.mem_cons_self) hn
    obtain ⟨c', tables, hfold, htables', hstates⟩ :=
      ih hn₁ fun e' he' => h e' (List.mem_cons_of_mem e he')
    refine ⟨c', t :: tables, ?_, ?_, .cons ht hstates⟩
    · rw [List.foldlM_cons, hadd]
      exact hfold
    · rw [htables', htables, List.append_assoc, List.singleton_append]

theorem foldlM_addTable_of_not_consistent (hn : (c.names ++ entries.map Prod.fst).Nodup)
    (h : ¬ ∀ e ∈ entries, e.2.Consistent) :
    ∃ fault, entries.foldlM (fun c e => addTable c e.1 e.2) c = .error fault ∧
      fault.passedOn? = none := by
  induction entries generalizing c with
  | nil => exact absurd (fun _ he => absurd he List.not_mem_nil) h
  | cons e rest ih =>
    rw [List.forall_mem_cons, not_and] at h
    rw [List.foldlM_cons]
    by_cases hd : e.2.Consistent
    · obtain ⟨c₁, t, hadd, -, -, hn₁⟩ := addTable_of_nodup hd hn
      rw [hadd]
      exact ih hn₁ (h hd)
    · obtain ⟨fault, hadd, hnone⟩ : ∃ fault, addTable c e.1 e.2 = .error fault ∧
          fault.passedOn? = none := addTable_of_not_consistent hd
      rw [hadd]
      exact ⟨fault, rfl, hnone⟩

end entries

def Consistent (d : Document) : Prop :=
  ∀ e ∈ d.entries, e.2.Consistent

/-- A catalog has the tables that a document states, in its order. -/
def States (d : Document) (c : Catalog) : Prop :=
  List.Forall₂ (fun e t => e.2.States e.1 t) d.entries c.tables

theorem toCatalog_of_consistent {d : Document} (h : d.Consistent) :
    ∃ c, d.toCatalog = .ok c ∧ d.States c := by
  obtain ⟨c, tables, hc, htables, hstates⟩ := foldlM_addTable_of_consistent (c := .empty) d.nodup h
  refine ⟨c, hc, ?_⟩
  rw [States, htables]
  exact hstates

theorem toCatalog_of_not_consistent {d : Document} (h : ¬ d.Consistent) :
    ∃ fault, d.toCatalog = .error fault ∧ fault.passedOn? = none :=
  foldlM_addTable_of_not_consistent (c := .empty) d.nodup h

end Document

namespace Store

/-- The document that a checkpoint text stands for, if it is the JSON of one. -/
def document? (text : String) : Option Document :=
  (Json.read? text).bind Document.ofJson?

theorem decode_toUTF8 (text : String) :
    decode text.toUTF8 = (Catalog.ofCheckpoint text).mapError .corrupt := by
  unfold decode
  rw [fromUTF8?_toUTF8]

theorem decode_toUTF8_of_none {text : String} (h : document? text = none) :
    decode text.toUTF8 = .error (.corrupt .malformed) := by
  unfold document? at h
  rw [decode_toUTF8, Catalog.ofCheckpoint, h]
  rfl

theorem decode_toUTF8_of_some {text : String} {d : Document} (h : document? text = some d) :
    decode text.toUTF8 = d.toCatalog.mapError .corrupt := by
  unfold document? at h
  rw [decode_toUTF8, Catalog.ofCheckpoint, h]

variable {σ : Type} [Disk (StateM σ)] {s : Store} {w w' : σ}

/-- A checkpoint text is loaded just if it is the JSON of a document whose tables are all consistent,
and the catalog then has the tables that the document states, in its order. In every other case there
is no catalog but the report that the checkpoint is corrupt, and never a refusal passed on. -/
theorem load_text {text : String}
    (h : Disk.read (m := StateM σ) s.path w = (.ok (some text.toUTF8), w')) :
    ((∃ c, s.load (m := StateM σ) w = (.ok c, w')) ↔ ∃ d, document? text = some d ∧ d.Consistent) ∧
    (∀ c w'', s.load (m := StateM σ) w = (.ok c, w'') →
      w'' = w' ∧ ∃ d, document? text = some d ∧ d.States c) ∧
    (∀ fault w'', s.load (m := StateM σ) w = (.error fault, w'') →
      w'' = w' ∧ ∃ f, fault = .corrupt f ∧ f.passedOn? = none) := by
  rw [load_of_read_eq h]
  cases hd : document? text with
  | none =>
    rw [decode_toUTF8_of_none hd]
    refine ⟨⟨nofun, nofun⟩, nofun, fun fault w'' he => ?_⟩
    cases he
    exact ⟨rfl, .malformed, rfl, rfl⟩
  | some d =>
    rw [decode_toUTF8_of_some hd]
    by_cases hc : d.Consistent
    · obtain ⟨c, htc, hstates⟩ := Document.toCatalog_of_consistent hc
      rw [htc]
      refine ⟨⟨fun _ => ⟨d, rfl, hc⟩, fun _ => ⟨c, rfl⟩⟩, fun c' w'' he => ?_, nofun⟩
      cases he
      exact ⟨rfl, d, rfl, hstates⟩
    · obtain ⟨fault, htc, hnone⟩ := Document.toCatalog_of_not_consistent hc
      rw [htc]
      refine ⟨⟨nofun, ?_⟩, nofun, fun fault' w'' he => ?_⟩
      · rintro ⟨d', hd', hc'⟩
        cases hd'
        exact absurd hc' hc
      · cases he
        exact ⟨rfl, fault, rfl, hnone⟩

/-- The text of a checkpoint with one table, the members of the table as the encoder puts them. -/
def textOfOneRow : String :=
  "\x7b\"t\":\x7b\"columns\":[[\"a\",\"integer\"],[\"b\",\"text\"]],\"primary_key\":\"a\"," ++
    "\"rows\":[\x7b\"b\":\"x\",\"a\":7\x7d]\x7d\x7d"

/-- A row whose fields are stored in another order comes out in the order of the columns. -/
theorem load_text_of_one_row :
    ∃ (s : Store) (fs : FileSystem) (c : Catalog) (t : Table) (row : Row),
      Disk.read (m := StateM FileSystem) s.path fs = (.ok (some textOfOneRow.toUTF8), fs) ∧
      s.load (m := StateM FileSystem) fs = (.ok c, fs) ∧ c.tables = [t] ∧ t.rows = [row] ∧
      row.keys = ["a", "b"] ∧ row.get? "a" = some (.integer 7) ∧
      t.index = some (.build "a" [row]) := by
  let stored : Row := .ofList [("b", .text "x"), ("a", .integer 7)]
  let table : TableDocument := ⟨[("a", .integer), ("b", .text)], some "a", [stored]⟩
  let s : Store := ⟨⟨"db", false, false⟩, 0⟩
  let fs : FileSystem := ⟨.ofList [(["db"], .file textOfOneRow.toUTF8)], []⟩
  have hread : Disk.read (m := StateM FileSystem) s.path fs = (.ok (some textOfOneRow.toUTF8), fs) := by
    dsimp only [s, fs]
    cbv
  have hdocument : document? textOfOneRow = some (.ofList [("t", table)]) := by
    dsimp only [table, stored]
    cbv
  have hconsistent : table.Consistent := by
    refine ⟨by decide, fun key hk => ?_, fun row hr => ?_, fun key hk => List.nodup_singleton _⟩
    · cases hk
      exact List.mem_cons_self
    · rw [List.mem_singleton.1 hr, Row.hasFields_iff (by decide)]
      exact ⟨rfl, by decide⟩
  obtain ⟨hloads, hstates, -⟩ := load_text hread
  obtain ⟨c, hc⟩ := hloads.2 ⟨_, hdocument, fun e he => by
    cases List.mem_singleton.1 he
    exact hconsistent⟩
  obtain ⟨-, d, hd, hforall⟩ := hstates c fs hc
  cases hdocument.symm.trans hd
  obtain ⟨t, _, ht, hrest, htables⟩ := List.forall₂_cons_left_iff.1 hforall
  cases List.forall₂_nil_left_iff.1 hrest
  obtain ⟨row, _, hrow, hrows, heq⟩ := List.forall₂_cons_left_iff.1 ht.rows_arranged
  cases List.forall₂_nil_left_iff.1 hrows
  refine ⟨s, fs, c, t, row, hread, hc, htables, heq, hrow.keys_eq, hrow.get?_eq "a", ?_⟩
  rw [ht.index_eq, heq]
  rfl

end Store
end RelStore
