/-! # Environments

The variables that a process is given. Setting one that is set already changes nothing. -/

namespace CallGuard

/-- Variables with their values; of several with one name the first counts. -/
abbrev Environment := List (String × String)

namespace Environment

/-- The value of a variable. -/
def get? (env : Environment) (name : String) : Option String :=
  (env.find? (·.1 = name)).map (·.2)

/-- The environment with a variable that was not set. -/
def setDefault (env : Environment) (name value : String) : Environment :=
  if (env.get? name).isSome then env else env ++ [(name, value)]

end Environment

end CallGuard
