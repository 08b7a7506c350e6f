import Mathlib.Data.List.Induction
import RelStore.KeyIndex
import RelStore.Proofs.OrderedMap

/-!
Exact indexes. An index is exact for a list of rows if it leads from a key to a position exactly
when the row there has the key, and has as many entries as there are rows. Appending a row with
a new key and indexing anew after a removal both give the exact index, and there is only one.
-/

namespace RelStore.KeyIndex
set_option autoImplicit false

/-- The index leads to each row by its key, and nowhere else. -/
structure Indexes (index : KeyIndex) (rows : List Row) : Prop where
  get?_eq_some_iff : ∀ key position, index.get? key = some position ↔
    ∃ row, rows[position]? = some row ∧ index.keyOf? row = some key
  size_eq : index.size = rows.length

/-- Every row has a key in the column, and no two rows have the same one. -/
structure Keyed (column : String) (rows : List Row) : Prop where
  isSome : ∀ row ∈ rows, (row.get? column).isSome
  nodup : (rows.map (·.get? column)).Nodup

theorem Keyed.sublist {column : String} {rows rows' : List Row} (h : Keyed column rows)
    (hs : rows'.Sublist rows) : Keyed column rows' :=
  ⟨fun row hr => h.isSome row (hs.subset hr), h.nodup.sublist (hs.map _)⟩

@[simp] theorem keyOf?_insert (index : KeyIndex) (key : Value) (position : Nat) (row : Row) :
    (index.insert key position).keyOf? row = index.keyOf? row := rfl

theorem get?_insert (index : KeyIndex) (key key' : Value) (position : Nat) :
    (index.insert key position).get? key' =
      if key = key' then some position else index.get? key' := by
  unfold get? insert
  rw [Std.ExtTreeMap.getElem?_insert]
  simp only [Std.LawfulEqCmp.compare_eq_iff_eq]

theorem contains_eq (index : KeyIndex) (key : Value) :
    index.contains key = (index.get? key).isSome :=
  Std.ExtTreeMap.contains_eq_isSome_getElem?

theorem size_insert {index : KeyIndex} {key : Value} (h : index.contains key = false)
    (position : Nat) : (index.insert key position).size = index.size + 1 := by
  unfold size insert
  have hc : index.positions.contains key = false := h
  rw [Std.ExtTreeMap.size_insert, hc]
  rfl

theorem ext {index index' : KeyIndex} (hc : index.column = index'.column)
    (h : ∀ key, index.get? key = index'.get? key) : index = index' := by
  cases index
  cases index'
  cases hc
  exact congrArg _ (Std.ExtTreeMap.ext_getElem? h)

theorem getElem?_append_singleton_eq_some_iff {α : Type} {l : List α} {a b : α} {i : Nat} :
    (l ++ [a])[i]? = some b ↔ l[i]? = some b ∨ i = l.length ∧ a = b := by
  rcases Nat.lt_trichotomy i l.length with hlt | rfl | hgt
  · rw [List.getElem?_append_left hlt]
    exact ⟨.inl, fun h => h.resolve_right fun he => Nat.ne_of_lt hlt he.1⟩
  · rw [List.getElem?_concat_length, List.getElem?_eq_none (Nat.le_refl _)]
    simp
  · have hlength : (l ++ [a]).length ≤ i := by
      rw [List.length_append, List.length_singleton]
      exact hgt
    rw [List.getElem?_eq_none hlength, List.getElem?_eq_none (Nat.le_of_lt hgt)]
    simp [Nat.ne_of_gt hgt]

namespace Indexes

variable {index index' : KeyIndex} {rows : List Row}

theorem nil (column : String) : (empty column).Indexes [] := by
  refine ⟨fun key position => ?_, Std.ExtTreeMap.size_empty⟩
  have hempty : (empty column).get? key = none := Std.ExtTreeMap.getElem?_empty
  simp [hempty]

theorem contains_iff (h : index.Indexes rows) {key : Value} :
    index.contains key = true ↔ ∃ row ∈ rows, index.keyOf? row = some key := by
  rw [contains_eq, Option.isSome_iff_exists]
  constructor
  · rintro ⟨position, hp⟩
    obtain ⟨row, hrow, hkey⟩ := (h.get?_eq_some_iff key position).1 hp
    exact ⟨row, List.mem_of_getElem? hrow, hkey⟩
  · rintro ⟨row, hrow, hkey⟩
    obtain ⟨position, hp⟩ := List.mem_iff_getElem?.1 hrow
    exact ⟨position, (h.get?_eq_some_iff key position).2 ⟨row, hp, hkey⟩⟩

/-- A row with a new key goes to the position after the last. -/
theorem append (h : index.Indexes rows) {row : Row} {key : Value}
    (hkey : index.keyOf? row = some key) (hnew : index.contains key = false) :
    (index.insert key rows.length).Indexes (rows ++ [row]) := by
  refine ⟨fun key' position => ?_, ?_⟩
  · rw [get?_insert]
    simp only [getElem?_append_singleton_eq_some_iff, keyOf?_insert]
    split
    · rename_i he
      subst he
      constructor
      · intro hp
        exact ⟨row, .inr ⟨(Option.some.inj hp).symm, rfl⟩, hkey⟩
      · rintro ⟨row', hrow' | ⟨rfl, -⟩, hkey'⟩
        · -- an earlier row cannot have the new key
          have hc := h.contains_iff.2 ⟨row', List.mem_of_getElem? hrow', hkey'⟩
          rw [hnew] at hc
          cases hc
        · rfl
    · rename_i hne
      rw [h.get?_eq_some_iff]
      constructor
      · rintro ⟨row', hrow', hkey'⟩
        exact ⟨row', .inl hrow', hkey'⟩
      · rintro ⟨row', hrow' | ⟨-, rfl⟩, hkey'⟩
        · exact ⟨row', hrow', hkey'⟩
        · exact absurd (Option.some.inj (hkey.symm.trans hkey')) hne
  · rw [size_insert hnew, h.size_eq, List.length_append, List.length_singleton]

theorem keyed (h : index.Indexes rows) (hs : ∀ row ∈ rows, (index.keyOf? row).isSome) :
    Keyed index.column rows := by
  refine ⟨hs, ?_⟩
  rw [List.Nodup, List.pairwise_map, List.pairwise_iff_getElem]
  intro i j hi hj hij he
  obtain ⟨key, hkey⟩ := Option.isSome_iff_exists.1 (hs rows[i] (List.getElem_mem hi))
  have hgi : index.get? key = some i :=
    (h.get?_eq_some_iff key i).2 ⟨rows[i], List.getElem?_eq_getElem hi, hkey⟩
  have hgj : index.get? key = some j :=
    (h.get?_eq_some_iff key j).2 ⟨rows[j], List.getElem?_eq_getElem hj, he.symm.trans hkey⟩
  have hpos : i = j := Option.some.inj (hgi.symm.trans hgj)
  omega

theorem unique (h : index.Indexes rows) (h' : index'.Indexes rows)
    (hc : index.column = index'.column) : index = index' := by
  refine ext hc fun key => Option.ext fun position => ?_
  rw [h.get?_eq_some_iff, h'.get?_eq_some_iff]
  unfold keyOf?
  rw [hc]

end Indexes

theorem rebuild_append (index : KeyIndex) (rows : List Row) (row : Row) :
    index.rebuild (rows ++ [row]) = (index.rebuild rows).insertRow row rows.length := by
  simp only [rebuild, List.zipIdx_append, List.foldl_append, List.zipIdx_cons, List.zipIdx_nil,
    List.foldl_cons, List.foldl_nil, Nat.zero_add]

@[simp] theorem column_insertRow (index : KeyIndex) (row : Row) (position : Nat) :
    (index.insertRow row position).column = index.column := by
  unfold insertRow
  split <;> rfl

@[simp] theorem column_rebuild (index : KeyIndex) (rows : List Row) :
    (index.rebuild rows).column = index.column := by
  induction rows using List.reverseRecOn with
  | nil => rfl
  | append_singleton rows row ih => rw [rebuild_append, column_insertRow, ih]

/-- Indexing anew is exact for rows that their keys tell apart. -/
theorem indexes_rebuild (index : KeyIndex) {rows : List Row} (h : Keyed index.column rows) :
    (index.rebuild rows).Indexes rows := by
  induction rows using List.reverseRecOn with
  | nil => exact .nil _
  | append_singleton rows row ih =>
    have hrows := ih (h.sublist (List.sublist_append_left _ _))
    obtain ⟨key, hkey⟩ := Option.isSome_iff_exists.1 (h.isSome row (by simp))
    have hkeyOf : (index.rebuild rows).keyOf? row = some key := by
      rw [keyOf?, column_rebuild, hkey]
    have hnew : (index.rebuild rows).contains key = false := by
      rw [Bool.eq_false_iff, ne_eq, hrows.contains_iff]
      rintro ⟨row', hrow', hkey'⟩
      rw [keyOf?, column_rebuild] at hkey'
      refine not_mem_map_of_nodup_append h.nodup ?_
      exact List.mem_map.2 ⟨row', hrow', hkey'.trans hkey.symm⟩
    rw [rebuild_append, insertRow, hkeyOf]
    exact hrows.append hkeyOf hnew

end RelStore.KeyIndex
