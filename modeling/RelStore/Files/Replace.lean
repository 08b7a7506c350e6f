import RelStore.Files.FileSystem

/-!
Replacing a file as a whole. The new content goes to a temporary file beside the old one, which
then takes its name; if anything fails before, the old file stays and the temporary one is
removed. The operations go through a `Disk`, of which a `FileSystem` that is held in memory is
one.
-/

namespace RelStore
set_option autoImplicit false

class Disk (m : Type → Type) where
  /-- The content of a file, or nothing if the path leads nowhere. -/
  read : Path → m (Except FileFault (Option ByteArray))
  perform : FileOp → m (Except FileFault Unit)

instance : Disk (StateM FileSystem) where
  read p := fun fs => (fs.read p, fs)
  perform op := fun fs =>
    match fs.apply op with
    | .ok fs' => (.ok (), fs')
    | .error fault => (.error fault, fs)

def performAll {m : Type → Type} [Monad m] [Disk m] : List FileOp → m (Except FileFault Unit)
  | [] => pure (.ok ())
  | op :: ops => do
    match ← Disk.perform op with
    | .ok () => performAll ops
    | .error fault => pure (.error fault)

namespace Path

/-- The temporary file beside a file, with a number that tells it from those of other writers. -/
def temporary (p : Path) (writer : Nat) : Path :=
  let name := p.fileName?.getD "checkpoint"
  p.parent.entry s!".{name}.tmp.{writer}"

end Path

/-- The operations up to the moment at which the new content has the name of the old. -/
def replacement (target temporary : Path) (content : ByteArray) (sync : Bool) : List FileOp :=
  [.create temporary, .append temporary content] ++ (if sync then [.sync temporary] else []) ++
    [.rename temporary target]

def replaceFile {m : Type → Type} [Monad m] [Disk m] (target : Path) (writer : Nat)
    (content : ByteArray) (sync : Bool) : m (Except FileFault Unit) := do
  let temporary := target.temporary writer
  match ← performAll (replacement target temporary content sync) with
  | .ok () => if sync then Disk.perform (.syncDirectory target.parent) else pure (.ok ())
  | .error fault =>
    let _ ← Disk.perform (.remove temporary)
    pure (.error fault)

end RelStore
