import RouteExplorer.Session

namespace RouteExplorer

/-- A change that may concern the routes. After a rescan everything is read again. -/
inductive ChangeEvent where
  | created (path : FilePath)
  | deleted (path : FilePath)
  | saved (path : FilePath)
  | configured (config : Config)
  | rescan
deriving DecidableEq, Repr

namespace ChangeEvent

def same : ChangeEvent → ChangeEvent → Bool
  | .created left, .created right => left.same right
  | .deleted left, .deleted right => left.same right
  | .saved left, .saved right => left.same right
  | .configured left, .configured right => left == right
  | .rescan, .rescan => true
  | _, _ => false

def isConfigured : ChangeEvent → Bool
  | .configured _ => true
  | _ => false

def encode : ChangeEvent → Json.Value
  | .created path => .object [("kind", .string "created"), ("path", .string path.text)]
  | .deleted path => .object [("kind", .string "deleted"), ("path", .string path.text)]
  | .saved path => .object [("kind", .string "saved"), ("path", .string path.text)]
  | .configured config => .object [("kind", .string "config"), ("config", config.encode)]
  | .rescan => .object [("kind", .string "rescan")]

end ChangeEvent

namespace Session

/-- What an event does to a session before it is refreshed; none where it does not concern it. Files
outside of the roots or the patterns do not, and neither do patterns with a flaw. That a file was created
makes a session forget nothing. -/
def absorb? (session : Session) : ChangeEvent → Option Session
  | .created path => if session.isEligible path then some session else none
  | .deleted path | .saved path =>
    if session.isEligible path then some (session.invalidate path) else none
  | .configured config => (session.applyConfig config).toOption
  | .rescan => some session.dispose

/-- Let a session absorb events one after another; the answer is whether any concerns it. -/
def absorbAll (session : Session) (events : List ChangeEvent) : Bool × Session :=
  events.foldl (fun (concerned, session) event =>
    match session.absorb? event with
    | some next => (true, next)
    | none => (concerned, session)) (false, session)

/-- Apply events to a session and refresh it once if any concerns it. The answer is whether it was
refreshed. -/
def applyBatch (session : Session) (disk : Disk) (events : List ChangeEvent) : Bool × Session :=
  match session.absorbAll events with
  | (true, next) => (true, (next.refresh disk).2)
  | (false, next) => (false, next)

def apply (session : Session) (disk : Disk) (event : ChangeEvent) : Bool × Session :=
  session.applyBatch disk [event]

end Session

end RouteExplorer
