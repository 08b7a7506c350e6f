import RelStore.Proofs.OrderedMap
import RelStore.Reference
import RelStore.Schema

/-!
Schemas from declarations: columns with distinct names are taken as declared, and otherwise the
first name that is repeated is refused.
-/

namespace RelStore
set_option autoImplicit false

namespace Schema

@[ext] theorem ext {s s' : Schema} (hc : s.columns = s'.columns)
    (hk : s.primaryKey = s'.primaryKey) : s = s' := by
  cases s
  cases s'
  cases hc
  cases hk
  rfl

theorem addColumn_of_mem {s : Schema} {column : String} (h : column ∈ s.columnNames)
    (type : ColumnType) : s.addColumn column type = .error (.duplicateColumn column) :=
  if_pos (OrderedMap.contains_iff.2 h)

theorem addColumn_of_not_mem {s : Schema} {column : String} (h : column ∉ s.columnNames)
    (type : ColumnType) : ∃ s', s.addColumn column type = .ok s' ∧
      s'.columns.entries = s.columns.entries ++ [(column, type)] ∧
      s'.primaryKey = s.primaryKey := by
  have hc : ¬ s.hasColumn column = true := fun hc => h (OrderedMap.contains_iff.1 hc)
  unfold addColumn
  rw [if_neg hc]
  exact ⟨_, rfl, OrderedMap.put_of_not_mem h, rfl⟩

section addColumns

variable {columns : List (String × ColumnType)} {s : Schema} {seen : List String}

theorem mem_columnNames_of_addColumn {s' : Schema} {column : String × ColumnType}
    (hs : s'.columns.entries = s.columns.entries ++ [column])
    (hseen : ∀ name, name ∈ seen ↔ name ∈ s.columnNames) (name : String) :
    name ∈ column.1 :: seen ↔ name ∈ s'.columnNames := by
  unfold columnNames OrderedMap.keys
  rw [hs, List.map_append, List.mem_append, List.mem_cons, hseen name, or_comm]
  exact or_congr_right List.mem_singleton.symm

theorem foldlM_addColumn_of_repeated {column : String}
    (hseen : ∀ name, name ∈ seen ↔ name ∈ s.columnNames)
    (h : Reference.firstRepeated seen (columns.map Prod.fst) = some column) :
    columns.foldlM (fun s c => s.addColumn c.1 c.2) s = .error (.duplicateColumn column) := by
  induction columns generalizing s seen with
  | nil => cases h
  | cons c rest ih =>
    rw [List.map_cons, Reference.firstRepeated] at h
    rw [List.foldlM_cons]
    by_cases hc : c.1 ∈ seen
    · rw [if_pos hc] at h
      cases h
      rw [addColumn_of_mem ((hseen c.1).1 hc)]
      rfl
    · rw [if_neg hc] at h
      obtain ⟨s', hs', hentries, -⟩ := addColumn_of_not_mem (fun hm => hc ((hseen c.1).2 hm)) c.2
      rw [hs']
      exact ih (mem_columnNames_of_addColumn hentries hseen) h

theorem exists_foldlM_addColumn (hseen : ∀ name, name ∈ seen ↔ name ∈ s.columnNames)
    (h : Reference.firstRepeated seen (columns.map Prod.fst) = none) :
    ∃ s', columns.foldlM (fun s c => s.addColumn c.1 c.2) s = .ok s' ∧
      s'.columns.entries = s.columns.entries ++ columns ∧ s'.primaryKey = s.primaryKey := by
  induction columns generalizing s seen with
  | nil => exact ⟨s, rfl, (List.append_nil _).symm, rfl⟩
  | cons c rest ih =>
    rw [List.map_cons, Reference.firstRepeated] at h
    rw [List.foldlM_cons]
    by_cases hc : c.1 ∈ seen
    · rw [if_pos hc] at h
      cases h
    · rw [if_neg hc] at h
      obtain ⟨s', hs', hentries, hkey⟩ :=
        addColumn_of_not_mem (fun hm => hc ((hseen c.1).2 hm)) c.2
      obtain ⟨t, ht, htentries, htkey⟩ := ih (mem_columnNames_of_addColumn hentries hseen) h
      rw [hs']
      refine ⟨t, ht, ?_, htkey.trans hkey⟩
      rw [htentries, hentries, List.append_assoc]
      rfl

end addColumns

section ofColumns

variable {table : String} {columns : List (String × ColumnType)}

/-- A repeated column is refused before the key is looked at. -/
theorem ofColumns_of_repeated {column : String} (primaryKey : Option String)
    (h : Reference.firstRepeated [] (columns.map Prod.fst) = some column) :
    ofColumns table columns primaryKey = .error (.duplicateColumn column) := by
  have hfold := foldlM_addColumn_of_repeated (s := empty) (fun _ => Iff.rfl) h
  unfold ofColumns
  rw [hfold]
  rfl

theorem ofColumns_of_key_not_mem {key : String}
    (h : Reference.firstRepeated [] (columns.map Prod.fst) = none)
    (hk : key ∉ columns.map Prod.fst) :
    ofColumns table columns (some key) = .error (.columnNotFound key table) := by
  obtain ⟨s, hs, hentries, -⟩ := exists_foldlM_addColumn (s := empty) (fun _ => Iff.rfl) h
  have hentries' : s.columns.entries = columns := hentries
  have hnot : ¬ s.hasColumn key = true := by
    intro hc
    rw [← hentries'] at hk
    exact hk (OrderedMap.contains_iff.1 hc)
  unfold ofColumns
  rw [hs]
  exact dif_neg hnot

theorem exists_ofColumns (table : String) {primaryKey : Option String}
    (h : Reference.firstRepeated [] (columns.map Prod.fst) = none)
    (hk : ∀ key, primaryKey = some key → key ∈ columns.map Prod.fst) :
    ∃ s, ofColumns table columns primaryKey = .ok s ∧ s.columns.entries = columns ∧
      s.primaryKey = primaryKey := by
  obtain ⟨s, hs, hentries, hkey⟩ := exists_foldlM_addColumn (s := empty) (fun _ => Iff.rfl) h
  have hentries' : s.columns.entries = columns := hentries
  unfold ofColumns
  rw [hs]
  cases primaryKey with
  | none => exact ⟨s, rfl, hentries', hkey⟩
  | some key =>
    have hc : s.hasColumn key = true := by
      refine OrderedMap.contains_iff.2 ?_
      unfold OrderedMap.keys
      rw [hentries']
      exact hk key rfl
    change ∃ s', s.setPrimaryKey table key = .ok s' ∧ _
    unfold setPrimaryKey
    rw [dif_pos hc]
    exact ⟨_, rfl, hentries', rfl⟩

end ofColumns

theorem firstRepeated_eq_none {seen names : List String} (hn : names.Nodup)
    (hseen : ∀ name ∈ names, name ∉ seen) : Reference.firstRepeated seen names = none := by
  induction names generalizing seen with
  | nil => rfl
  | cons name rest ih =>
    rw [List.nodup_cons] at hn
    rw [Reference.firstRepeated, if_neg (hseen name List.mem_cons_self)]
    refine ih hn.2 fun other hother => ?_
    rw [List.mem_cons, not_or]
    exact ⟨fun he => hn.1 (he ▸ hother), hseen other (List.mem_cons_of_mem _ hother)⟩

theorem nodup_of_firstRepeated_eq_none {seen names : List String}
    (h : Reference.firstRepeated seen names = none) :
    names.Nodup ∧ ∀ name ∈ names, name ∉ seen := by
  induction names generalizing seen with
  | nil => exact ⟨.nil, nofun⟩
  | cons name rest ih =>
    rw [Reference.firstRepeated] at h
    split at h
    · cases h
    · rename_i hname
      obtain ⟨hrest, hseen⟩ := ih h
      refine ⟨List.nodup_cons.2 ⟨fun hm => hseen name hm List.mem_cons_self, hrest⟩, ?_⟩
      intro other hother
      rcases List.mem_cons.1 hother with rfl | hother
      · exact hname
      · exact fun hm => hseen other hother (List.mem_cons_of_mem _ hm)

/-- A declaration is accepted if no column is repeated and the key is one of the columns. -/
theorem exists_ofColumns_iff {table : String} {columns : List (String × ColumnType)}
    {primaryKey : Option String} :
    (∃ s, ofColumns table columns primaryKey = .ok s) ↔
      (columns.map Prod.fst).Nodup ∧ ∀ key, primaryKey = some key → key ∈ columns.map Prod.fst := by
  constructor
  · rintro ⟨s, hs⟩
    cases hf : Reference.firstRepeated [] (columns.map Prod.fst) with
    | some column =>
      rw [ofColumns_of_repeated primaryKey hf] at hs
      cases hs
    | none =>
      refine ⟨(nodup_of_firstRepeated_eq_none hf).1, ?_⟩
      rintro key rfl
      by_contra hk
      rw [ofColumns_of_key_not_mem hf hk] at hs
      cases hs
  · rintro ⟨hn, hk⟩
    have hf : Reference.firstRepeated [] (columns.map Prod.fst) = none :=
      firstRepeated_eq_none hn fun _ _ => List.not_mem_nil
    obtain ⟨s, hs, -⟩ := exists_ofColumns table hf hk
    exact ⟨s, hs⟩

theorem eq_of_ofColumns {table : String} {columns : List (String × ColumnType)}
    {primaryKey : Option String} {s : Schema} (h : ofColumns table columns primaryKey = .ok s) :
    s.columns.entries = columns ∧ s.primaryKey = primaryKey := by
  obtain ⟨hn, hk⟩ := exists_ofColumns_iff.1 ⟨s, h⟩
  have hf : Reference.firstRepeated [] (columns.map Prod.fst) = none :=
    firstRepeated_eq_none hn fun _ _ => List.not_mem_nil
  obtain ⟨s', hs', hcolumns, hkey⟩ := exists_ofColumns table hf hk
  cases h.symm.trans hs'
  exact ⟨hcolumns, hkey⟩

/-- A schema is made again from its own declaration. -/
theorem ofColumns_entries (s : Schema) (table : String) :
    ofColumns table s.columns.entries s.primaryKey = .ok s := by
  have hnone : Reference.firstRepeated [] s.columnNames = none :=
    firstRepeated_eq_none s.columns.nodup fun _ _ => List.not_mem_nil
  obtain ⟨s', hs', hentries, hkey⟩ := exists_ofColumns table hnone s.key_mem
  rw [hs', ext (OrderedMap.ext hentries) hkey]

end Schema
end RelStore
