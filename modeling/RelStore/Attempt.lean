/-!
Attempts: changes of a state that may be refused on the way. An attempt leaves a state in either case,
and nothing is undone by a refusal: what had been changed until then stays changed.
-/

namespace RelStore
set_option autoImplicit false

abbrev Attempt (ε σ α : Type) := ExceptT ε (StateM σ) α

namespace Attempt

variable {ε ε' σ τ α : Type}

/-- What an attempt comes to from a state: its result or why it was refused, and the state that it
leaves. -/
def on (x : Attempt ε σ α) (s : σ) : Except ε α × σ :=
  x.run.run s

/-- What can be read off the state, or why it cannot. -/
def check (f : σ → Except ε α) : Attempt ε σ α := do
  match f (← get) with
  | .ok a => return a
  | .error e => throw e

/-- An attempt on a part of the state. The part is put back as the attempt leaves it. -/
def part (get : σ → τ) (put : σ → τ → σ) (x : Attempt ε τ α) : Attempt ε σ α := do
  let s ← MonadState.get
  let (result, t) := x.on (get s)
  set (put s t)
  check fun _ => result

def mapError (f : ε → ε') (x : Attempt ε σ α) : Attempt ε' σ α :=
  x.adapt f

end Attempt
end RelStore
