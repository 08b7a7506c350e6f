import RelStore.Proofs.IndexScan

/-!
Tables whose rows are not held against the schema. Rows of any shape may be put into a table, whether
they have its columns or not, and rows may be deleted by any text in any column. The index over the
primary key is exact all the same: a row is taken in only with a key of its own, a row that is refused
has been put neither into the index nor to the rows, and a deletion that takes nothing out leaves
nothing to be indexed anew.
-/

namespace RelStore
set_option autoImplicit false

namespace Table

/-- A call on a table that may change it. -/
inductive Call where
  | insert (row : Row)
  | deleteWhere (column text : String)

/-- The table that a call leaves, whether or not it is refused. -/
def after (t : Table) : Call → Table
  | .insert row => ((Table.insert row).on t).2
  | .deleteWhere column text => (t.deleteWhere column text).2

/-- The tables that come about if an empty or a restored one is called upon, as often as one likes. -/
inductive Made : Table → Prop where
  | empty (name : String) (schema : Schema) : Made (.empty name schema)
  | restored {name : String} {schema : Schema} {rows : List Row} {t : Table}
      (h : Table.restore name schema rows = .ok t) : Made t
  | called {t : Table} (h : Made t) (call : Call) : Made (t.after call)

/-- The reasons for which a row is not taken in. -/
inductive Refuses (t : Table) (row : Row) : Refusal → Prop where
  | missing {column : String} (hk : t.schema.primaryKey = some column)
      (hkey : row.get? column = none) : Refuses t row (.columnNotFound column t.name)
  | taken {column : String} {key : Value} {other : Row} (hk : t.schema.primaryKey = some column)
      (hkey : row.get? column = some key) (hother : other ∈ t.rows)
      (he : other.get? column = some key) : Refuses t row (.duplicateKey key)

variable {t : Table} {row : Row} {column : String}

theorem Indexed.after (h : t.Indexed) (call : Call) : (t.after call).Indexed := by
  cases call with
  | insert row =>
    rcases hi : (Table.insert row).on t with ⟨refusal | position, t'⟩
    all_goals have hafter : t.after (.insert row) = t' := congrArg Prod.snd hi
    · rw [hafter, (atomic_insert row).eq hi]
      exact h
    · rw [hafter]
      exact h.insert hi
  | deleteWhere column text => exact h.deleteWhere column text

theorem Made.indexed (h : t.Made) : t.Indexed := by
  induction h with
  | empty name schema => exact (wellFormed_empty name schema).indexed
  | restored h => exact (wellFormed_restore h).indexed
  | called h call ih => exact ih.after call

/-- A lookup finds the row that has the key, and there is no other with that key to be found. -/
theorem Indexed.lookup_eq_some_iff (h : t.Indexed) (hk : t.schema.primaryKey = some column)
    {key : Value} : t.lookup key = some row ↔ row ∈ t.rows ∧ row.get? column = some key := by
  have hmem : t.lookup key = some row ↔ row ∈ (t.lookup key).toList := Option.mem_toList.symm
  rw [hmem, h.toList_lookup hk, List.mem_filter, beq_iff_eq]

theorem Indexed.insert_eq_error_iff (h : t.Indexed) {refusal : Refusal} :
    ((Table.insert row).on t).1 = .error refusal ↔ t.Refuses row refusal := by
  constructor
  · intro hi
    by_cases hfree : ∀ column, t.schema.primaryKey = some column →
        ∃ key, row.get? column = some key ∧ ∀ other ∈ t.rows, other.get? column ≠ some key
    · obtain ⟨t', hi', -⟩ := h.exists_insert hfree
      rw [hi'] at hi
      cases hi
    push Not at hfree
    obtain ⟨column, hk, htaken⟩ := hfree
    cases hkey : row.get? column with
    | none =>
      rw [h.insert_of_missing hk hkey] at hi
      cases hi
      exact .missing hk hkey
    | some key =>
      obtain ⟨other, hother, he⟩ := htaken key hkey
      rw [h.insert_of_taken hk hkey ⟨other, hother, he⟩] at hi
      cases hi
      exact .taken hk hkey hother he
  · intro hr
    cases hr with
    | missing hk hkey => rw [h.insert_of_missing hk hkey]
    | taken hk hkey hother he => rw [h.insert_of_taken hk hkey ⟨_, hother, he⟩]

theorem Indexed.index_of_key (h : t.Indexed) (hk : t.schema.primaryKey = some column) :
    t.index = some (KeyIndex.build column t.rows) := by
  rw [h.index_eq, hk]
  rfl

/-- However a table was made: with a primary key, its index is the one that is built of its rows, has
an entry for each of them, and leads from a key to the row that has it, if there is one. A row is
refused if and only if it lacks the primary key or its key is taken, for that reason, and then the
refused insertion has left the table as it was, its rows and its index. -/
theorem Made.index_exact (h : t.Made) :
    (∀ column, t.schema.primaryKey = some column →
      t.index = some (KeyIndex.build column t.rows) ∧
      (KeyIndex.build column t.rows).size = t.rows.length ∧
      ∀ key row, t.lookup key = some row ↔ row ∈ t.rows ∧ row.get? column = some key) ∧
    ∀ row refusal, (((insert row).on t).1 = .error refusal ↔ t.Refuses row refusal) ∧
      (((insert row).on t).1 = .error refusal → ((insert row).on t).2 = t) := by
  have hindexed := h.indexed
  refine ⟨fun column hk => ?_, fun row refusal => ?_⟩
  · have hindex := hindexed.index_of_key hk
    exact ⟨hindex, (hindexed.indexes _ hindex).size_eq, fun _ _ => hindexed.lookup_eq_some_iff hk⟩
  · exact ⟨hindexed.insert_eq_error_iff, atomic_insert row t refusal⟩

/-- Of two rows with a key one has a further field and one has a text for a number; both are found, a
row without a key and one with a key that is there are refused. -/
theorem index_exact_of_two_rows :
    ∃ t : Table, t.Made ∧ t.schema.primaryKey = some "id" ∧
      t.rows = [.ofList [("id", .integer 1), ("x", .text "a")], .ofList [("id", .text "1")]] ∧
      (KeyIndex.build "id" t.rows).size = 2 ∧
      t.lookup (.text "1") = some (.ofList [("id", .text "1")]) ∧
      (insert (.ofList [("x", .text "a")])).on t = (.error (.columnNotFound "id" "t"), t) ∧
      (insert (.ofList [("id", .integer 1)])).on t = (.error (.duplicateKey (.integer 1)), t) := by
  let schema : Schema := ⟨.ofList [("id", .integer)], some "id", by decide⟩
  let first : Row := .ofList [("id", .integer 1), ("x", .text "a")]
  let second : Row := .ofList [("id", .text "1")]
  let t : Table := ((empty "t" schema).after (.insert first)).after (.insert second)
  have hmade : t.Made := .called (.called (.empty "t" schema) _) _
  have hrows : t.rows = [first, second] := rfl
  have hk : t.schema.primaryKey = some "id" := rfl
  obtain ⟨hindex, hrefused⟩ := hmade.index_exact
  obtain ⟨-, hsize, hlookup⟩ := hindex "id" hk
  have hfirst : first ∈ t.rows := hrows ▸ List.mem_cons_self
  have hsecond : second ∈ t.rows := hrows ▸ List.mem_cons_of_mem first (List.mem_singleton_self second)
  refine ⟨t, hmade, hk, hrows, ?_, ?_, ?_, ?_⟩
  · rw [hsize, hrows]
    rfl
  · exact (hlookup (.text "1") second).2 ⟨hsecond, rfl⟩
  · obtain ⟨hiff, hsame⟩ := hrefused (.ofList [("x", .text "a")]) (.columnNotFound "id" "t")
    have hmissing := hiff.2 (.missing hk rfl)
    exact Prod.ext hmissing (hsame hmissing)
  · obtain ⟨hiff, hsame⟩ := hrefused (.ofList [("id", .integer 1)]) (.duplicateKey (.integer 1))
    have htaken := hiff.2 (.taken hk rfl hfirst rfl)
    exact Prod.ext htaken (hsame htaken)

end Table
end RelStore
