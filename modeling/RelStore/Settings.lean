/-!
Settings of a store: where its checkpoint is kept and how it is written.
-/

namespace RelStore
set_option autoImplicit false

structure Settings where
  path : String
  /-- Whether a checkpoint is to survive a power cut once it is written. -/
  sync : Bool
  pretty : Bool
deriving DecidableEq

namespace Settings

def standard : Settings :=
  ⟨"db_meta.json", true, true⟩

/-- The standard settings with the path that the environment names, if it names one that is not
empty. -/
def ofEnvironment (path : Option String) : Settings :=
  match path with
  | none | some "" => standard
  | some path => { standard with path }

end Settings
end RelStore
