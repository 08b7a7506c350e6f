import RelStore.Plan.Run
import RelStore.Statement.Read
import RelStore.Store

/-!
Databases: a catalog in memory that is saved after each statement that changes it. If a save
fails the change stays in memory and the database is halted; it then refuses changes until a save
succeeds. How a catalog is saved is left open here, so a save may fail whenever it likes.
-/

namespace RelStore
set_option autoImplicit false

inductive Failure where
  | save (fault : FileFault)
  /-- An earlier save failed and none has succeeded since. -/
  | halted
  /-- A plan asks for rows where there are none; no statement has such a plan. -/
  | plan (fault : PlanFault)
deriving DecidableEq

namespace Failure

def message : Failure → String
  | .save fault => s!"I/O error: {fault.message}"
  | .halted =>
    "Storage error: database halted after a failed checkpoint write; call checkpoint() to recover"
  | .plan fault => fault.message

end Failure

structure Database where
  catalog : Catalog
  /-- Whether a save failed and none has succeeded since. -/
  halted : Bool

namespace Database

def ofCatalog (c : Catalog) : Database :=
  ⟨c, false⟩

def planOf (db : Database) (s : Statement) : Plan :=
  (Plan.ofStatement s).useIndex db.catalog

variable {m : Type → Type} [Monad m]

/-- The database after a plan was carried out in it, and the answer: the catalog is saved if it has
to be, and if that fails the database is halted. -/
def settle (save : Catalog → m (Except FileFault Unit)) (db : Database) (answer : Answer)
    (modified : Bool) : m (Except Failure Answer × Database) := do
  if modified then
    match ← save db.catalog with
    | .ok () => return (.ok answer, db)
    | .error fault => return (.error (.save fault), { db with halted := true })
  else
    return (.ok answer, db)

/-- The database after a statement, and the answer. A text that is no statement, and a statement
that is refused, are answered with a notice; the catalog is in any case the one that the engine
leaves. -/
def execute (save : Catalog → m (Except FileFault Unit)) (db : Database) (text : String) :
    m (Except Failure Answer × Database) :=
  match Statement.parse text with
  | .error _ => pure (.ok (.notice .notUnderstood), db)
  | .ok statement =>
    if (Plan.ofStatement statement).isMutating && db.halted then
      pure (.error .halted, db)
    else
      let (result, engine) := (db.planOf statement).run db.catalog
      let db' := { db with catalog := engine.catalog }
      match result with
      | .error (.refusal r) => pure (.ok (.notice (.refused r)), db')
      | .error fault => pure (.error (.plan fault), db')
      | .ok answer => settle save db' answer engine.modified

/-- The database after its catalog was saved, and whether that failed. -/
def checkpoint (save : Catalog → m (Except FileFault Unit)) (db : Database) :
    m (Except Failure Unit × Database) := do
  match ← save db.catalog with
  | .ok () => return (.ok (), { db with halted := false })
  | .error fault => return (.error (.save fault), { db with halted := true })

end Database

namespace Store

def openDatabase {m : Type → Type} [Monad m] [Disk m] (s : Store) :
    m (Except LoadFault Database) := do
  return (← s.load).map .ofCatalog

end Store
end RelStore
