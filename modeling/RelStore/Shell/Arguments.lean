import RelStore.Settings

/-!
The arguments of the command line: a checkpoint other than that of the settings, or a request for
help. They are taken in order, and the first that settles the matter counts.
-/

namespace RelStore
set_option autoImplicit false

inductive ArgumentFault where
  | missingPath
  | unknown (argument : String)
deriving DecidableEq

namespace ArgumentFault

def message : ArgumentFault → String
  | .missingPath => "--db requires a path"
  | .unknown argument => s!"unknown argument '{argument}'"

end ArgumentFault

inductive Request where
  | help
  | session (settings : Settings)
deriving DecidableEq

namespace Request

/-- What arguments ask for, given the settings that hold without them. -/
def ofArguments (settings : Settings) : List String → Except ArgumentFault Request
  | [] => .ok (.session settings)
  | argument :: rest =>
    if argument = "-d" ∨ argument = "--db" then
      match rest with
      | [] => .error .missingPath
      | path :: rest => ofArguments { settings with path } rest
    else if argument = "-h" ∨ argument = "--help" then .ok .help
    else .error (.unknown argument)

end Request
end RelStore
