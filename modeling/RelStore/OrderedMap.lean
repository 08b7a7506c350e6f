/-!
Finite maps that remember in which order their keys first came in. A key that is put in again
keeps its place and takes the new value. No key occurs twice, so two maps are equal if their
entries are.
-/

namespace RelStore
set_option autoImplicit false

/-- A map from keys to values, its entries in the order in which the keys were first put in. -/
structure OrderedMap (κ β : Type) where
  entries : List (κ × β)
  nodup : (entries.map Prod.fst).Nodup
deriving DecidableEq

namespace OrderedMap

variable {κ β : Type}

@[ext] theorem ext {m m' : OrderedMap κ β} (h : m.entries = m'.entries) : m = m' := by
  cases m
  cases m'
  cases h
  rfl

variable [DecidableEq κ]

def empty : OrderedMap κ β :=
  ⟨[], List.nodup_nil⟩

instance : Inhabited (OrderedMap κ β) := ⟨empty⟩

def keys (m : OrderedMap κ β) : List κ :=
  m.entries.map Prod.fst

def values (m : OrderedMap κ β) : List β :=
  m.entries.map Prod.snd

def size (m : OrderedMap κ β) : Nat :=
  m.entries.length

def find (k : κ) : List (κ × β) → Option β
  | [] => none
  | (k', v) :: rest => if k' = k then some v else find k rest

def get? (m : OrderedMap κ β) (k : κ) : Option β :=
  find k m.entries

def contains (m : OrderedMap κ β) (k : κ) : Bool :=
  decide (k ∈ m.keys)

/-- The entries with the value of `k` replaced where it stands, or put at the end. -/
def put (k : κ) (v : β) : List (κ × β) → List (κ × β)
  | [] => [(k, v)]
  | (k', v') :: rest => if k' = k then (k, v) :: rest else (k', v') :: put k v rest

theorem map_fst_put (k : κ) (v : β) (l : List (κ × β)) :
    (put k v l).map Prod.fst =
      if k ∈ l.map Prod.fst then l.map Prod.fst else l.map Prod.fst ++ [k] := by
  induction l with
  | nil => simp [put]
  | cons e rest ih =>
    obtain ⟨k', v'⟩ := e
    by_cases h : k' = k
    · simp [put, h]
    · have h' : ¬ k = k' := fun e => h e.symm
      simp only [put, if_neg h, List.map_cons, ih, List.mem_cons, h', false_or]
      split <;> simp

theorem nodup_put {k : κ} {v : β} {l : List (κ × β)} (h : (l.map Prod.fst).Nodup) :
    ((put k v l).map Prod.fst).Nodup := by
  rw [map_fst_put]
  split
  · exact h
  · rename_i hk
    rw [List.nodup_append]
    refine ⟨h, by simp, ?_⟩
    intro a ha b hb hab
    rw [List.mem_singleton] at hb
    exact hk (hb ▸ hab ▸ ha)

def insert (m : OrderedMap κ β) (k : κ) (v : β) : OrderedMap κ β :=
  ⟨put k v m.entries, nodup_put m.nodup⟩

def erase (m : OrderedMap κ β) (k : κ) : OrderedMap κ β :=
  ⟨m.entries.filter (·.1 ≠ k), m.nodup.sublist ((List.filter_sublist).map _)⟩

def insertAll (m : OrderedMap κ β) (entries : List (κ × β)) : OrderedMap κ β :=
  entries.foldl (fun m e => m.insert e.1 e.2) m

def ofList (entries : List (κ × β)) : OrderedMap κ β :=
  empty.insertAll entries

/-- Whether two maps have the same entries, in whatever order. -/
def sameEntries [DecidableEq β] (m m' : OrderedMap κ β) : Bool :=
  m.size == m'.size && m.entries.all fun e => m'.get? e.1 == some e.2

@[simp] theorem contains_iff {m : OrderedMap κ β} {k : κ} : m.contains k = true ↔ k ∈ m.keys := by
  simp [contains]

theorem find_put (k k' : κ) (v : β) (l : List (κ × β)) :
    find k' (put k v l) = if k = k' then some v else find k' l := by
  induction l with
  | nil => simp [put, find]
  | cons e rest ih =>
    obtain ⟨k₁, v₁⟩ := e
    by_cases h : k₁ = k
    · subst h
      by_cases h' : k₁ = k' <;> simp [put, find, h']
    · by_cases h' : k₁ = k'
      · have h'' : ¬ k = k' := fun e => h (h'.trans e.symm)
        subst h'
        simp [put, find, h, h'']
      · simp [put, find, h, h', ih]

theorem get?_insert (m : OrderedMap κ β) (k k' : κ) (v : β) :
    (m.insert k v).get? k' = if k = k' then some v else m.get? k' :=
  find_put k k' v m.entries

theorem keys_insert (m : OrderedMap κ β) (k : κ) (v : β) :
    (m.insert k v).keys = if k ∈ m.keys then m.keys else m.keys ++ [k] :=
  map_fst_put k v m.entries

theorem find_eq_none_iff {k : κ} {l : List (κ × β)} :
    find k l = none ↔ k ∉ l.map Prod.fst := by
  induction l with
  | nil => simp [find]
  | cons e rest ih =>
    obtain ⟨k', v⟩ := e
    by_cases h : k' = k
    · simp [find, h]
    · have h' : ¬ k = k' := fun e => h e.symm
      simp only [find, if_neg h, ih, List.map_cons, List.mem_cons, h', false_or]

theorem get?_eq_none_iff {m : OrderedMap κ β} {k : κ} : m.get? k = none ↔ k ∉ m.keys :=
  find_eq_none_iff

end OrderedMap
end RelStore
