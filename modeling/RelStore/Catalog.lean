import RelStore.Table

/-!
Catalogs: the tables of a store in the order of their creation, no two of one name.
-/

namespace RelStore
set_option autoImplicit false

structure Catalog where
  /-- The tables in the order of their creation. -/
  tables : List Table
  nodup : (tables.map Table.name).Nodup

namespace Catalog

@[ext] theorem ext {c c' : Catalog} (h : c.tables = c'.tables) : c = c' := by
  cases c
  cases c'
  cases h
  rfl

def empty : Catalog :=
  ⟨[], List.nodup_nil⟩

instance : Inhabited Catalog := ⟨empty⟩

def names (c : Catalog) : List String :=
  c.tables.map Table.name

def find? (c : Catalog) (name : String) : Option Table :=
  c.tables.find? (·.name = name)

def contains (c : Catalog) (name : String) : Bool :=
  decide (name ∈ c.names)

def table (c : Catalog) (name : String) : Except Refusal Table :=
  match c.find? name with
  | some t => .ok t
  | none => .error (.tableNotFound name)

/-- The catalog with one more table at the end. -/
def push (c : Catalog) (t : Table) (h : t.name ∉ c.names) : Catalog :=
  ⟨c.tables ++ [t], by
    rw [List.map_append, List.nodup_append]
    refine ⟨c.nodup, by simp, ?_⟩
    intro a ha b hb hab
    simp only [List.map_cons, List.map_nil, List.mem_singleton] at hb
    exact h (hb ▸ hab ▸ ha)⟩

/-- A table is put at the end of the catalog; its name must be new. -/
def add (t : Table) : Attempt Refusal Catalog Unit := do
  let c ← get
  if h : t.name ∈ c.names then
    throw (.tableAlreadyExists t.name)
  else
    set (c.push t h)

theorem map_name_replace (t : Table) (tables : List Table) :
    (tables.map fun u => if u.name = t.name then t else u).map Table.name =
      tables.map Table.name := by
  rw [List.map_map]
  apply List.map_congr_left
  intro u _
  simp only [Function.comp_apply]
  split
  · rename_i h
    exact h.symm
  · rfl

def replace (c : Catalog) (t : Table) : Catalog :=
  ⟨c.tables.map fun u => if u.name = t.name then t else u,
    (map_name_replace t c.tables).symm ▸ c.nodup⟩

/-- An attempt on one table of the catalog, which keeps what the attempt leaves of the table. -/
def onTable {α : Type} (name : String) (x : Attempt Refusal Table α) :
    Attempt Refusal Catalog α := do
  let t ← .check (·.table name)
  x.part (fun _ => t) replace

def describeColumn (schema : Schema) (column : String × ColumnType) : String :=
  let mark := if schema.primaryKey = some column.1 then " [PRIMARY KEY]" else ""
  s!"  {column.1} {column.2.display}{mark}\n"

def describe (c : Catalog) (name : String) : Except Refusal String := do
  let t ← c.table name
  let columns := String.join (t.schema.columns.entries.map (describeColumn t.schema))
  return s!"Table: {t.name}\nColumns:\n{columns}Rows: {t.rows.length}\n"

end Catalog
end RelStore
