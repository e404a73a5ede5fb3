import SearchLex.Log.Service

/-! The logging of one process. At most one service is ever installed; before that,
events go nowhere. -/

namespace SearchLex.Log

/-- The service of a process, if one is installed, and the lines on standard error. -/
structure Session where
  service : Option Service := none
  lines : Array Line := #[]
  deriving Repr

/-- A service was installed before. -/
inductive InstallError where
  | alreadyInstalled
  deriving DecidableEq, Repr

def InstallError.message : InstallError → String
  | .alreadyInstalled => "Global logger already initialized"

namespace Session

def isInstalled (session : Session) : Bool := session.service.isSome

/-- The level of the installed service, or the floor. -/
def minLevel (session : Session) : Level :=
  (session.service.map (·.minLevel)).getD .floor

/-- Hands an event to the installed service, if there is one. -/
def deliver (session : Session) (event : Event) : Session :=
  match session.service with
  | none => session
  | some service =>
    let (service, line) := service.log event
    { service := some service, lines := session.lines ++ line.toList }

def dispatch (session : Session) (event : Event) (context : List (String × String)) :
    Session :=
  session.deliver (event.withContexts context)

/-- Debug output is not even built unless the level is debug. -/
def debug (session : Session) (message : String) (context : List (String × String)) :
    Session :=
  if .debug ≤ session.minLevel then session.dispatch (.debug message) context else session

/-- Reports an error whether or not a service is installed. -/
def reportError (session : Session) (code : Code) (message : String) : Session :=
  match session.service with
  | some _ => session.deliver (.error code message)
  | none => { session with lines := session.lines.push (.unlogged code message) }

/-- Installs a service, unless there is one. -/
def install (session : Session) (service : Service) : Except InstallError Session :=
  match session.service with
  | some _ => .error .alreadyInstalled
  | none => .ok { session with service := some service }

/-- Installs the service of preferences, and says so at level info. -/
def installPreferences (session : Session) (preferences : LoggingPreferences) :
    Except InstallError Session := do
  let installed ← session.install (.ofPreferences preferences)
  return installed.dispatch (.success .loggingInstalled "Global logging initialized")
    [("min_level", installed.minLevel.name), ("structured", toString preferences.structured)]

end Session

end SearchLex.Log
