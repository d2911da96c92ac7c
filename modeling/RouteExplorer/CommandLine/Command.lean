import RouteExplorer.Change.Watch
import RouteExplorer.Number.Unsigned
import RouteExplorer.Text.Split

namespace RouteExplorer

structure WorkspaceArguments where
  roots : List FilePath
  config : Option FilePath
deriving DecidableEq, Repr

inductive Command where
  /-- Print the controllers and routes. -/
  | scan (workspace : WorkspaceArguments)
  /-- Print the result of a search. -/
  | search (workspace : WorkspaceArguments) (query : String) (isFlat : Bool)
  | request (workspace : WorkspaceArguments) (method parameters id : String)
  /-- Answer requests line by line. -/
  | serve (workspace : WorkspaceArguments) (mode : WatchMode) (debounceMs : Option Nat)
  | help
  | version
deriving DecidableEq, Repr

inductive UsageError where
  | noCommand
  | unknownCommand (name : String)
  | unexpected (argument : String)
  | noValue (option : String)
  | badValue (option value : String)
  | repeated (option : String)
  | missing (option : String)
deriving DecidableEq, Repr

def UsageError.message : UsageError → String
  | .noCommand => "a command is required"
  | .unknownCommand name => s!"unrecognized command '{name}'"
  | .unexpected argument => s!"unexpected argument '{argument}'"
  | .noValue option => s!"a value is required for '--{option}'"
  | .badValue option value => s!"invalid value '{value}' for '--{option}'"
  | .repeated option => s!"'--{option}' cannot be used multiple times"
  | .missing option => s!"'--{option}' is required"

structure OptionRule where
  name : String
  /-- The option stands alone, without a value. -/
  isFlag : Bool
  mayRepeat : Bool
  accepts : String → Bool

/-- An option that was given; a flag has an empty value. -/
abbrev GivenOption := String × String

namespace OptionRule

private def path (name : String) (mayRepeat : Bool) : OptionRule :=
  ⟨name, false, mayRepeat, fun value => !value.isEmpty⟩

private def text (name : String) : OptionRule := ⟨name, false, false, fun _ => true⟩

def workspace : List OptionRule := [path "root" true, path "config" false]

def search : List OptionRule := workspace ++ [text "query", ⟨"flat", true, false, fun _ => true⟩]

def request : List OptionRule := workspace ++ [text "method", text "params", text "id"]

def serve : List OptionRule :=
  workspace ++ [
    ⟨"watch", false, false, fun value => (WatchMode.ofText? value).isSome⟩,
    ⟨"watch-debounce-ms", false, false, fun value => (Number.Unsigned.ofText? value).isSome⟩]

end OptionRule

/-- An argument that begins with a hyphen and is more than that. -/
def looksLikeOption (argument : String) : Bool :=
  match argument.toList with
  | '-' :: _ :: _ => true
  | _ => false

/-- The name of a long option, and the value behind its equals sign, if it has one. -/
def longOption? (argument : String) : Option (String × Option String) :=
  match argument.toList with
  | '-' :: '-' :: characters =>
    match Text.splitChars '=' characters with
    | name :: first :: others =>
      some (String.ofList name, some (String.ofList (Text.joinChars '=' (first :: others))))
    | _ => some (String.ofList characters, none)
  | _ => none

def isShortHelp (argument : String) : Bool := ['-', 'h'].isPrefixOf argument.toList

inductive Reading where
  | options (given : List GivenOption)
  | helpWanted
deriving DecidableEq, Repr

def readOptions (rules : List OptionRule) (given : List GivenOption) :
    List String → Except UsageError Reading
  | [] => .ok (.options given.reverse)
  | "--" :: [] => .ok (.options given.reverse)
  | "--" :: argument :: _ => .error (.unexpected argument)
  | argument :: rest =>
    let take (rule : OptionRule) (value : String) : Except UsageError (List GivenOption) :=
      if !rule.mayRepeat && given.any (·.1 == rule.name) then .error (.repeated rule.name)
      else if !rule.accepts value then .error (.badValue rule.name value)
      else .ok ((rule.name, value) :: given)
    match longOption? argument with
    | some ("help", none) => .ok .helpWanted
    | some (name, attached) =>
      match rules.find? (·.name == name), attached with
      | none, _ => .error (.unexpected argument)
      | some rule, some value =>
        if rule.isFlag then .error (.badValue name value)
        else match take rule value with
          | .ok next => readOptions rules next rest
          | .error error => .error error
      | some rule, none =>
        if rule.isFlag then
          match take rule "" with
          | .ok next => readOptions rules next rest
          | .error error => .error error
        else match rest with
          | [] => .error (.noValue name)
          | value :: others =>
            if looksLikeOption value then .error (.noValue name)
            else match take rule value with
              | .ok next => readOptions rules next others
              | .error error => .error error
    | none => if isShortHelp argument then .ok .helpWanted else .error (.unexpected argument)

namespace Reading

def value? (given : List GivenOption) (name : String) : Option String := given.lookup name

/-- The workspace of a command: without a root it is the current directory. -/
def workspace (given : List GivenOption) : WorkspaceArguments :=
  let roots := (given.filter (·.1 == "root")).map fun option => FilePath.mk option.2
  { roots := if roots.isEmpty then [⟨"."⟩] else roots
    config := (value? given "config").map FilePath.mk }

end Reading

namespace Command

open Reading (value? workspace)

def ofOptions (name : String) (given : List GivenOption) : Except UsageError Command :=
  match name with
  | "scan" => .ok (.scan (workspace given))
  | "search" =>
    .ok (.search (workspace given) ((value? given "query").getD "") (value? given "flat").isSome)
  | "request" =>
    match value? given "method" with
    | some method =>
      .ok (.request (workspace given) method ((value? given "params").getD "\x7b\x7d")
        ((value? given "id").getD "1"))
    | none => .error (.missing "method")
  | "serve" =>
    .ok (.serve (workspace given)
      (((value? given "watch").bind WatchMode.ofText?).getD .auto)
      ((value? given "watch-debounce-ms").bind Number.Unsigned.ofText?))
  | _ => .error (.unknownCommand name)

def rules? : String → Option (List OptionRule)
  | "scan" => some OptionRule.workspace
  | "search" => some OptionRule.search
  | "request" => some OptionRule.request
  | "serve" => some OptionRule.serve
  | _ => none

/-- Whether help can be given on some words: on the program as a whole or on one command. -/
def isHelpTopic : List String → Bool
  | [] => true
  | [name] => name == "help" || (rules? name).isSome
  | _ => false

def ofArguments : List String → Except UsageError Command
  | [] => .error .noCommand
  | "--help" :: _ => .ok .help
  | "--version" :: _ => .ok .version
  | "help" :: topic => if isHelpTopic topic then .ok .help else .error (.unexpected (topic.headD ""))
  | name :: arguments =>
    match rules? name with
    | some rules => do
      match ← readOptions rules [] arguments with
      | .options given => ofOptions name given
      | .helpWanted => .ok .help
    | none =>
      if isShortHelp name then .ok .help
      else if ['-', 'V'].isPrefixOf name.toList then .ok .version
      else if looksLikeOption name then .error (.unexpected name)
      else .error (.unknownCommand name)

end Command

end RouteExplorer
