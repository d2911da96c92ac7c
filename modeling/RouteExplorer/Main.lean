import RouteExplorer.CommandLine.Run

/-!
The program. Before a command runs, and before every line of a client, the files that it may ask for
are read from the disk; all else is decided by then.
-/
namespace RouteExplorer

/-- What lies in an entry of a directory, as far as it can be read. -/
private partial def entriesBelow (place : Place) (entry : IO.FS.DirEntry) :
    IO (List (Place × DiskEntry)) := do
  let here := place ++ [entry.fileName]
  match (← entry.path.metadata).type with
  | .dir =>
    let below ← (← entry.path.readDir).toList.mapM fun child =>
      entriesBelow here child <|> pure []
    return (here, .directory) :: below.flatten
  | .file =>
    match String.fromUTF8? (← IO.FS.readBinFile entry.path) with
    | some content => return [(here, .text content)]
    | none => return [(here, .binary)]
  | _ => return []

private def placeOf? (path : FilePath) : IO (Option Place) := do
  try
    let real : FilePath := ⟨(← IO.FS.realPath path.text).toString⟩
    return some (Disk.target ⟨[], []⟩ real)
  catch _ => return none

private def addDirectory (disk : Disk) (path : FilePath) : IO Disk := do
  match ← placeOf? path with
  | none => return disk
  | some place =>
    try
      let children := (← (← IO.FS.realPath path.text).readDir).toList
      let below ← children.mapM fun child => entriesBelow place child <|> pure []
      return below.flatten.foldl (fun disk (place, entry) => disk.write place entry)
        (disk.makeDirectories place)
    catch _ => return disk

/-- Add the directories on the way to a path, so that a detour can be followed. -/
private def addWay (disk : Disk) (path : FilePath) : IO Disk :=
  let parts := path.parts
  (List.range parts.length).foldlM (fun disk count => do
    match ← placeOf? ⟨Text.join '/' (parts.take count)⟩ with
    | some place => return disk.makeDirectories place
    | none => return disk) disk

private def addFile (disk : Disk) (path : FilePath) : IO Disk := do
  match ← placeOf? path with
  | none => return disk
  | some place =>
    try
      match String.fromUTF8? (← IO.FS.readBinFile path.text) with
      | some content => return disk.write place (.text content)
      | none => return disk.write place .binary
    catch _ => return disk

private def diskOf (workspace : WorkspaceArguments) : IO Disk := do
  let current := Disk.target ⟨[], []⟩ ⟨(← IO.currentDir).toString⟩
  let named := workspace.roots ++ workspace.config.toList
  let disk ← named.foldlM addWay (Disk.empty current)
  let disk ← workspace.roots.foldlM addDirectory disk
  workspace.config.toList.foldlM addFile disk

private def environment : IO Environment := do
  return {
    filePatterns := ← IO.getEnv "ROUTESCOPE_FILE_PATTERNS"
    excludePatterns := ← IO.getEnv "ROUTESCOPE_EXCLUDE_PATTERNS"
    watchDebounceMs := ← IO.getEnv "ROUTESCOPE_WATCH_DEBOUNCE_MS" }

private def workspaceOf? : Command → Option WorkspaceArguments
  | .scan workspace | .search workspace _ _ | .request workspace _ _ _ | .serve workspace _ _ =>
    some workspace
  | .help | .version => none

private partial def serveLines (server : Rpc.Server) (workspace : WorkspaceArguments)
    (input output : IO.FS.Stream) : IO Unit := do
  let line ← input.getLine
  if !line.isEmpty then
    let disk ← diskOf workspace
    let messages := (inputLines line).map Rpc.Message.line
    let (lines, next) := server.run disk messages
    for response in lines do output.putStrLn response.compact
    output.flush
    serveLines next workspace input output

end RouteExplorer

open RouteExplorer in
def main (arguments : List String) : IO UInt32 := do
  match Command.ofArguments arguments with
  | .error error =>
    IO.eprintln s!"error: {error.message}"
    return 2
  | .ok command =>
    let workspace := workspaceOf? command
    let disk ← match workspace with
      | some workspace => diskOf workspace
      | none => pure (Disk.empty [])
    match command.effect disk (← environment) with
    | .error error =>
      IO.eprintln s!"Error: {error.message}"
      return 1
    | .ok (.print text) =>
      IO.print text
      return 0
    | .ok (.serve server) =>
      serveLines server (workspace.getD ⟨[], none⟩) (← IO.getStdin) (← IO.getStdout)
      return 0
