import RelStore.Checkpoint
import RelStore.Files.Replace
import RelStore.Settings

/-!
Stores: the place of a checkpoint on a disk. Loading gives the catalog that the checkpoint holds,
or the empty one if there is no checkpoint yet; saving replaces the checkpoint as a whole.
-/

namespace RelStore
set_option autoImplicit false

inductive LoadFault where
  | file (fault : FileFault)
  | corrupt (fault : CheckpointFault)
deriving DecidableEq

namespace LoadFault

def message : LoadFault → String
  | .file fault => s!"I/O error: {fault.message}"
  | .corrupt fault =>
    match fault.passedOn? with
    | some refusal => refusal.message
    | none => s!"Storage error: corrupt checkpoint: {fault.message}"

end LoadFault

/-- The place of a checkpoint, and a number that tells this writer to it from others. -/
structure Store where
  settings : Settings
  writer : Nat
deriving DecidableEq

namespace Store

def path (s : Store) : Path :=
  .ofText s.settings.path

def layout (s : Store) : Json.Layout :=
  if s.settings.pretty then .indented else .compact

def decode (content : ByteArray) : Except LoadFault Catalog :=
  match String.fromUTF8? content with
  | none => .error (.file .notText)
  | some text => (Catalog.ofCheckpoint text).mapError .corrupt

def encode (s : Store) (c : Catalog) : ByteArray :=
  (c.checkpoint s.layout).toUTF8

def load {m : Type → Type} [Monad m] [Disk m] (s : Store) : m (Except LoadFault Catalog) := do
  match ← Disk.read s.path with
  | .error fault => return .error (.file fault)
  | .ok none => return .ok .empty
  | .ok (some content) => return decode content

def save {m : Type → Type} [Monad m] [Disk m] (s : Store) (c : Catalog) :
    m (Except FileFault Unit) :=
  replaceFile s.path s.writer (s.encode c) s.settings.sync

end Store
end RelStore
