import Mathlib.Data.List.Perm.Subperm
import RelStore.Row

/-!
Further laws of ordered maps: entries with distinct keys make the map that has just these
entries, a key has the value it is entered with, entries put into a map that has some of their keys
take the places of those, and a row put into the order of given columns has these columns for its
fields.
-/

namespace RelStore
set_option autoImplicit false

theorem not_mem_map_of_nodup_append {α β : Type} {f : α → β} {before after : List α} {a : α}
    (h : ((before ++ a :: after).map f).Nodup) : f a ∉ before.map f := by
  rw [List.map_append, List.nodup_append] at h
  intro hm
  exact h.2.2 _ hm _ (List.mem_map_of_mem List.mem_cons_self) rfl

namespace OrderedMap

variable {κ β : Type} [DecidableEq κ]

theorem put_of_not_mem {k : κ} {v : β} {l : List (κ × β)} (h : k ∉ l.map Prod.fst) :
    put k v l = l ++ [(k, v)] := by
  induction l with
  | nil => rfl
  | cons e rest ih =>
    rw [List.map_cons, List.mem_cons, not_or] at h
    have hne : ¬ e.1 = k := fun he => h.1 he.symm
    rw [put, if_neg hne, ih h.2, List.cons_append]

theorem put_of_mem {k : κ} {v : β} {l : List (κ × β)} (hn : (l.map Prod.fst).Nodup)
    (h : k ∈ l.map Prod.fst) : put k v l = l.map fun e => (e.1, if e.1 = k then v else e.2) := by
  induction l with
  | nil => cases h
  | cons e rest ih =>
    rw [List.map_cons, List.nodup_cons] at hn
    by_cases he : e.1 = k
    · have hrest : rest = rest.map fun e => (e.1, if e.1 = k then v else e.2) := by
        refine (List.map_id' rest).symm.trans (List.map_congr_left fun e' he' => ?_)
        have hne : ¬ e'.1 = k := fun heq => hn.1 (he ▸ heq ▸ List.mem_map_of_mem he')
        rw [if_neg hne]
      rw [put, if_pos he, List.map_cons, if_pos he, ← hrest, he]
    · have hrest : k ∈ rest.map Prod.fst := (List.mem_cons.1 h).resolve_left fun heq => he heq.symm
      rw [put, if_neg he, ih hn.2 hrest, List.map_cons, if_neg he]

theorem entries_insertAll {m : OrderedMap κ β} {l : List (κ × β)}
    (h : (m.keys ++ l.map Prod.fst).Nodup) : (m.insertAll l).entries = m.entries ++ l := by
  induction l generalizing m with
  | nil => exact (List.append_nil _).symm
  | cons e rest ih =>
    have hk : e.1 ∉ m.keys := by
      intro hm
      rw [List.nodup_append] at h
      exact h.2.2 e.1 hm e.1 List.mem_cons_self rfl
    have hentries : (m.insert e.1 e.2).entries = m.entries ++ [e] := put_of_not_mem hk
    have hkeys : (m.insert e.1 e.2).keys = m.keys ++ [e.1] := by
      rw [keys_insert, if_neg hk]
    have hnodup : ((m.insert e.1 e.2).keys ++ rest.map Prod.fst).Nodup := by
      rw [hkeys, List.append_assoc]
      exact h
    have hrest := ih hnodup
    rw [hentries, List.append_assoc] at hrest
    exact hrest

theorem entries_ofList {l : List (κ × β)} (h : (l.map Prod.fst).Nodup) :
    (ofList l).entries = l :=
  entries_insertAll (m := empty) h

theorem ofList_entries (m : OrderedMap κ β) : ofList m.entries = m :=
  ext (entries_ofList m.nodup)

theorem keys_ofList {l : List (κ × β)} (h : (l.map Prod.fst).Nodup) :
    (ofList l).keys = l.map Prod.fst := by
  rw [keys, entries_ofList h]

omit [DecidableEq κ] in
theorem length_keys (m : OrderedMap κ β) : m.keys.length = m.size :=
  List.length_map _

theorem find_of_mem {k : κ} {v : β} {l : List (κ × β)} (hn : (l.map Prod.fst).Nodup)
    (h : (k, v) ∈ l) : find k l = some v := by
  induction l with
  | nil => cases h
  | cons e rest ih =>
    rw [List.map_cons, List.nodup_cons] at hn
    rcases List.mem_cons.1 h with rfl | h
    · exact if_pos rfl
    · have hne : ¬ e.1 = k := fun he => hn.1 (he ▸ List.mem_map_of_mem h)
      rw [find, if_neg hne]
      exact ih hn.2 h

theorem mem_of_find {k : κ} {v : β} {l : List (κ × β)} (h : find k l = some v) :
    (k, v) ∈ l := by
  induction l with
  | nil => cases h
  | cons e rest ih =>
    rw [find] at h
    split at h
    · rename_i he
      cases h
      exact he ▸ List.mem_cons_self
    · exact List.mem_cons_of_mem _ (ih h)

theorem get?_eq_some_iff {m : OrderedMap κ β} {k : κ} {v : β} :
    m.get? k = some v ↔ (k, v) ∈ m.entries :=
  ⟨mem_of_find, find_of_mem m.nodup⟩

theorem isSome_get?_iff {m : OrderedMap κ β} {k : κ} : (m.get? k).isSome ↔ k ∈ m.keys := by
  rw [Option.isSome_iff_ne_none, ne_eq, get?_eq_none_iff, not_not]

theorem find_filter_ne (k k' : κ) (l : List (κ × β)) :
    find k' (l.filter (·.1 ≠ k)) = if k = k' then none else find k' l := by
  induction l with
  | nil => exact (ite_self none).symm
  | cons e rest ih =>
    by_cases he : e.1 = k
    · rw [List.filter_cons, if_neg (by simpa using he), ih, find, he]
      split <;> rfl
    · rw [List.filter_cons, if_pos (by simpa using he), find, find, ih]
      by_cases hk : e.1 = k'
      · have hkk : ¬ k = k' := fun h => he (hk.trans h.symm)
        rw [if_pos hk, if_pos hk, if_neg hkk]
      · rw [if_neg hk, if_neg hk]

theorem get?_erase (m : OrderedMap κ β) (k k' : κ) :
    (m.erase k).get? k' = if k = k' then none else m.get? k' :=
  find_filter_ne k k' m.entries

/-- The last entry of a key counts, and the value that was there before if there is none. -/
theorem get?_insertAll {m : OrderedMap κ β} {l : List (κ × β)} (hn : (l.map Prod.fst).Nodup)
    (k : κ) : (m.insertAll l).get? k = (find k l).or (m.get? k) := by
  induction l generalizing m with
  | nil => rfl
  | cons e rest ih =>
    rw [List.map_cons, List.nodup_cons] at hn
    have hrest := ih (m := m.insert e.1 e.2) hn.2
    rw [get?_insert] at hrest
    rw [find]
    by_cases hk : e.1 = k
    · subst hk
      rw [find_eq_none_iff.2 hn.1, if_pos rfl] at hrest
      rw [if_pos rfl]
      exact hrest
    · rw [if_neg hk] at hrest
      rw [if_neg hk]
      exact hrest

/-- Keys that were there keep their places, and the others come after them in order. -/
theorem keys_insertAll {m : OrderedMap κ β} {l : List (κ × β)} (hn : (l.map Prod.fst).Nodup) :
    (m.insertAll l).keys = m.keys ++ (l.map Prod.fst).filter (· ∉ m.keys) := by
  induction l generalizing m with
  | nil => exact (List.append_nil _).symm
  | cons e rest ih =>
    rw [List.map_cons, List.nodup_cons] at hn
    have hrest := ih (m := m.insert e.1 e.2) hn.2
    rw [keys_insert] at hrest
    rw [List.map_cons, List.filter_cons]
    by_cases he : e.1 ∈ m.keys
    · rw [if_pos he] at hrest
      rw [if_neg (by simpa using he)]
      exact hrest
    · have hsame : (rest.map Prod.fst).filter (· ∉ m.keys ++ [e.1]) =
          (rest.map Prod.fst).filter (· ∉ m.keys) := by
        refine List.filter_congr fun k hk => ?_
        have hne : k ≠ e.1 := fun h => hn.1 (h ▸ hk)
        simp only [List.mem_append, List.mem_singleton, hne, or_false]
      rw [if_neg he, hsame, List.append_assoc] at hrest
      rw [if_pos (by simpa using he)]
      exact hrest

theorem lookup_of_not_mem {k : κ} {l : List (κ × β)} (h : k ∉ l.map Prod.fst) :
    l.lookup k = none := by
  rw [List.lookup_eq_none_iff]
  intro e he
  rw [bne_iff_ne]
  rintro rfl
  exact h (List.mem_map_of_mem he)

theorem lookup_cons_of_ne {k : κ} {e : κ × β} (h : k ≠ e.1) (l : List (κ × β)) :
    (e :: l).lookup k = l.lookup k := by
  rw [List.lookup_cons, beq_eq_false_iff_ne.2 h]

/-- Entries that were there keep their places and take the new values of their keys, and the other
new entries come after them in order. -/
theorem entries_insertAll_eq {m : OrderedMap κ β} {l : List (κ × β)} (hn : (l.map Prod.fst).Nodup) :
    (m.insertAll l).entries =
      (m.entries.map fun e => (e.1, (l.lookup e.1).getD e.2)) ++ l.filter fun e => e.1 ∉ m.keys := by
  induction l generalizing m with
  | nil => exact ((List.append_nil _).trans (List.map_id' _)).symm
  | cons e rest ih =>
    rw [List.map_cons, List.nodup_cons] at hn
    have hrest := ih (m := m.insert e.1 e.2) hn.2
    rw [keys_insert] at hrest
    rw [List.filter_cons]
    by_cases he : e.1 ∈ m.keys
    · have hentries : (m.insert e.1 e.2).entries =
          m.entries.map fun e' => (e'.1, if e'.1 = e.1 then e.2 else e'.2) := put_of_mem m.nodup he
      rw [hentries, if_pos he, List.map_map] at hrest
      rw [if_neg (by simpa using he)]
      refine hrest.trans (congrArg (· ++ _) (List.map_congr_left fun e' _ => ?_))
      simp only [Function.comp_apply]
      by_cases heq : e'.1 = e.1
      · rw [if_pos heq, heq, lookup_of_not_mem hn.1, List.lookup_cons_self]
        rfl
      · rw [if_neg heq, lookup_cons_of_ne heq]
    · have hentries : (m.insert e.1 e.2).entries = m.entries ++ [e] := put_of_not_mem he
      have hsame : rest.filter (fun e' => e'.1 ∉ m.keys ++ [e.1]) =
          rest.filter fun e' => e'.1 ∉ m.keys := by
        refine List.filter_congr fun e' he' => ?_
        have hne : e'.1 ≠ e.1 := fun heq => hn.1 (heq ▸ List.mem_map_of_mem he')
        simp only [List.mem_append, List.mem_singleton, hne, or_false]
      rw [hentries, if_neg he, hsame, List.map_append, List.map_singleton, lookup_of_not_mem hn.1,
        List.append_assoc] at hrest
      rw [if_pos (by simpa using he)]
      refine hrest.trans (congrArg (· ++ _) (List.map_congr_left fun e' he' => ?_))
      have hne : e'.1 ≠ e.1 := fun heq => he (heq ▸ List.mem_map_of_mem he')
      rw [lookup_cons_of_ne hne]

theorem size_insertAll {m : OrderedMap κ β} {l : List (κ × β)} (hn : (l.map Prod.fst).Nodup) :
    (m.insertAll l).size + l.countP (fun e => decide (e.1 ∈ m.keys)) = m.size + l.length := by
  rw [← length_keys, ← length_keys, keys_insertAll hn, List.length_append,
    ← List.countP_eq_length_filter, List.countP_map]
  have hsplit := List.length_eq_countP_add_countP (fun e => decide (e.1 ∈ m.keys)) (l := l)
  simp only [decide_eq_true_eq] at hsplit
  simp only [Function.comp_def]
  omega

end OrderedMap

namespace Row

theorem map_fst_arrange (row : Row) (columns : List String) :
    (columns.filterMap fun c => (row.get? c).map (c, ·)).map Prod.fst =
      columns.filter (· ∈ row.keys) := by
  induction columns with
  | nil => rfl
  | cons c rest ih =>
    cases hc : row.get? c with
    | none =>
      have hm : c ∉ row.keys := OrderedMap.get?_eq_none_iff.1 hc
      simp only [List.filterMap_cons, hc, Option.map_none, ih, List.filter_cons, hm, decide_false,
        Bool.false_eq_true, if_false]
    | some v =>
      have hm : c ∈ row.keys := OrderedMap.isSome_get?_iff.1 (by rw [hc]; rfl)
      simp only [List.filterMap_cons, hc, Option.map_some, List.map_cons, ih, List.filter_cons, hm,
        decide_true, if_true]

theorem keys_arrange {row : Row} {columns : List String} (hn : columns.Nodup)
    (h : ∀ c ∈ columns, c ∈ row.keys) : (row.arrange columns).keys = columns := by
  have hfst : (columns.filterMap fun c => (row.get? c).map (c, ·)).map Prod.fst = columns := by
    rw [map_fst_arrange, List.filter_eq_self]
    exact fun c hc => decide_eq_true (h c hc)
  rw [arrange, OrderedMap.keys_ofList (hfst.symm ▸ hn), hfst]

theorem arrange_keys (row : Row) : row.arrange row.keys = row := by
  have hself : (row.keys.filterMap fun c => (row.get? c).map (c, ·)) = row.entries := by
    rw [OrderedMap.keys, List.filterMap_map]
    calc row.entries.filterMap ((fun c => (row.get? c).map (c, ·)) ∘ Prod.fst)
        = row.entries.filterMap some := by
          apply List.filterMap_congr
          intro e he
          have hget : row.get? e.1 = some e.2 := OrderedMap.get?_eq_some_iff.2 he
          rw [Function.comp_apply, hget, Option.map_some]
      _ = row.entries := List.filterMap_some
  rw [arrange, hself, OrderedMap.ofList_entries]

/-- A row has just these fields, in whatever order. -/
def HasFields (row : Row) (columns : List String) : Prop :=
  ∀ field, field ∈ row.keys ↔ field ∈ columns

/-- Putting the fields of a row in order changes no value. -/
theorem HasFields.get?_arrange {row : Row} {columns : List String} (h : row.HasFields columns)
    (hn : columns.Nodup) (field : String) : (row.arrange columns).get? field = row.get? field := by
  have hentries : (row.arrange columns).entries =
      columns.filterMap fun c => (row.get? c).map (c, ·) := by
    refine OrderedMap.entries_ofList ?_
    rw [map_fst_arrange]
    exact hn.filter _
  refine Option.ext fun v => ?_
  rw [OrderedMap.get?_eq_some_iff, hentries, List.mem_filterMap]
  constructor
  · rintro ⟨c, -, hc⟩
    obtain ⟨v', hv', he⟩ := Option.map_eq_some_iff.1 hc
    cases he
    exact hv'
  · intro hv
    have hfield : field ∈ row.keys := OrderedMap.isSome_get?_iff.1 (by rw [hv]; rfl)
    exact ⟨field, (h field).1 hfield, by rw [hv]; rfl⟩

theorem HasFields.map_get?_arrange {row : Row} {columns : List String} (h : row.HasFields columns)
    (hn : columns.Nodup) (before after : List Row) (field : String) :
    (before ++ [row.arrange columns] ++ after).map (·.get? field) =
      (before ++ row :: after).map (·.get? field) := by
  rw [List.append_assoc, List.singleton_append, List.map_append, List.map_append, List.map_cons,
    List.map_cons, h.get?_arrange hn]

/-- Distinct fields that are as many as the columns and all among them are all the columns. -/
theorem mem_keys_of_size_eq {row : Row} {columns : List String}
    (hsize : row.size = columns.length) (hsub : ∀ k ∈ row.keys, k ∈ columns) :
    ∀ c ∈ columns, c ∈ row.keys := by
  have hlength : row.keys.length = columns.length := (OrderedMap.length_keys row).trans hsize
  have hperm : row.keys.Perm columns :=
    (row.nodup.subperm hsub).perm_of_length_le (Nat.le_of_eq hlength.symm)
  exact fun c hc => hperm.mem_iff.2 hc

theorem hasFields_iff {row : Row} {columns : List String} (hn : columns.Nodup) :
    row.HasFields columns ↔ row.size = columns.length ∧ ∀ k ∈ row.keys, k ∈ columns := by
  constructor
  · intro h
    have hperm : row.keys.Perm columns := (List.perm_ext_iff_of_nodup row.nodup hn).2 h
    rw [← OrderedMap.length_keys]
    exact ⟨hperm.length_eq, fun k hk => (h k).1 hk⟩
  · rintro ⟨hsize, hsub⟩ field
    exact ⟨hsub field, mem_keys_of_size_eq hsize hsub field⟩

end Row
end RelStore
