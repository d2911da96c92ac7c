import RouteExplorer.CommandLine.Command
import RouteExplorer.Config.Loading
import RouteExplorer.Rpc.Server

namespace RouteExplorer

inductive CommandError where
  | config (error : ConfigError)
  | workspace (root : FilePath) (error : Glob.PatternError)
  | parameters
  | unwatched
deriving Repr

def CommandError.message : CommandError → String
  | .config error => error.message
  | .workspace root _ => s!"open workspace {root.text}"
  | .parameters => Rpc.unreadableParametersMessage
  | .unwatched => WatchSettings.failedMessage

inductive CommandEffect where
  | print (text : String)
  | serve (server : Rpc.Server)

/-- Open the session of a workspace, with the configuration of its first root. -/
def WorkspaceArguments.openSession (workspace : WorkspaceArguments) (disk : Disk)
    (environment : Environment) : Except CommandError (Session × Config) :=
  let root := workspace.roots.headD ⟨"."⟩
  match Config.load disk environment root workspace.config with
  | .error error => .error (.config error)
  | .ok config =>
    match Session.ofRoots disk workspace.roots config with
    | .error error => .error (.workspace root error)
    | .ok session => .ok (session, config)

namespace Command

def versionText : String := "routescope 0.1.0\n"

def helpText : String :=
  "Usage: routescope <scan|search|request|serve> [--root PATH]... [--config PATH] [options]\n"

def effect (command : Command) (disk : Disk) (environment : Environment) :
    Except CommandError CommandEffect := do
  match command with
  | .help => return .print helpText
  | .version => return .print versionText
  | .scan workspace =>
    let (session, _) ← workspace.openSession disk environment
    return .print (session.store.snapshot.encode.ordered.pretty ++ "\n")
  | .search workspace query isFlat =>
    let (session, _) ← workspace.openSession disk environment
    let result :=
      if isFlat then Json.Value.array ((session.searchFlat query).1.map Search.MatchedRoute.encode)
      else (session.searchGrouped query).1.encode
    return .print (result.pretty ++ "\n")
  | .request workspace method parameters id =>
    let (session, _) ← workspace.openSession disk environment
    match Rpc.call? disk session method parameters id with
    | some line => return .print (line ++ "\n")
    | none => .error .parameters
  | .serve workspace mode debounceMs =>
    let (session, config) ← workspace.openSession disk environment
    let settings := WatchSettings.ofDebounce mode (debounceMs.getD config.watchDebounceMs)
    match settings.start disk session.index.roots with
    | .failed => .error .unwatched
    | .off | .started => return .serve (.ofSession session)

end Command

def dropCarriageReturn (line : String) : String :=
  match line.toList.reverse with
  | '\r' :: before => String.ofList before.reverse
  | _ => line

/-- The lines of an input. Behind the last line feed there is a line only if it holds something. -/
def inputLines (input : String) : List String :=
  let pieces := Text.split '\n' input
  pieces.dropLast.map dropCarriageReturn ++ (pieces.getLast?.toList.filter fun last => !last.isEmpty)

structure Outcome where
  code : Nat
  output : String
  failure : Option String
deriving DecidableEq, Repr

namespace Outcome

def success (output : String) : Outcome := ⟨0, output, none⟩

def failed (message : String) : Outcome := ⟨1, "", some message⟩

/-- A run that never began, because its arguments cannot be understood. -/
def misused : Outcome := ⟨2, "", none⟩

end Outcome

def run (disk : Disk) (environment : Environment) (arguments : List String) (input : String) :
    Outcome :=
  match Command.ofArguments arguments with
  | .error _ => .misused
  | .ok command =>
    match command.effect disk environment with
    | .error error => .failed error.message
    | .ok (.print text) => .success text
    | .ok (.serve server) =>
      let (lines, _) := server.run disk ((inputLines input).map .line)
      .success (String.join (lines.map fun line => line.compact ++ "\n"))

end RouteExplorer
