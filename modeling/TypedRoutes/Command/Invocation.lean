import TypedRoutes.Command.Options
import TypedRoutes.Files.Tree
import TypedRoutes.Log

/-!
# Invocations

A command line has general options, the name of an action, and the options and arguments of that
action. The general options and the name are read first, so that what an action is run with can be
prepared before its own arguments are read.
-/
namespace TypedRoutes

/-- The options in front of the name of an action. -/
structure GeneralOptions where
  isVerbose : Bool
  isQuiet : Bool
  configFile : Option String
deriving DecidableEq

/-- The level from which on records are written. -/
def GeneralOptions.logLevel (options : GeneralOptions) : LogLevel :=
  if options.isVerbose then .debug else if options.isQuiet then .error else .warning

inductive ActionName where
  | routes
  | check
  | find
  | url
deriving DecidableEq

def ActionName.ofText? : String → Option ActionName
  | "routes" => some routes
  | "check" => some check
  | "match" => some find
  | "url" => some url
  | _ => none

/-- What is to be done with the route table in a file. -/
inductive Action where
  | routes (asJson : Bool)
  | check
  | find (method uri : String) (showAll : Bool)
  | url (name : String) (values : List String) (withHost : Bool)
deriving DecidableEq

/-- Why nothing is to be done. -/
inductive Refusal where
  | usage
  | version
  | help
  /-- What is given as the name of a file cannot be one. -/
  | impossibleName
deriving DecidableEq

/-- General options, and the name of the action with its arguments. -/
structure Invocation where
  options : GeneralOptions
  action : ActionName
  arguments : List String

namespace Invocation

def help : OptionSpec := ⟨"--help", none, false⟩

def generalSpecs : List OptionSpec :=
  [⟨"--version", none, false⟩, ⟨"--verbose", some 'v', false⟩, ⟨"--quiet", some 'q', false⟩,
   ⟨"--config", some 'c', true⟩, help]

/-- The refusal of the first option that asks for something else than an action. -/
def firstRefusal? (given : List GivenOption) : Option Refusal :=
  given.findSome? fun option =>
    if option.name = "--version" then some .version
    else if option.name = "--help" then some .help
    else none

/-- Accepts the name of a file that is there. -/
def fileNamed (files : FileTree) (name : String) : Except Refusal String :=
  if name.toList.contains '\x00' then .error .impossibleName
  else if files.isFile name.toList then .ok name
  else .error .usage

/-- Reads the general options. -/
def readGeneral (files : FileTree) (arguments : List String) :
    Except Refusal (GeneralOptions × List String) :=
  if arguments.isEmpty then .error .usage
  else
    match OptionSpec.parse? generalSpecs false arguments with
    | none => .error .usage
    | some parsed =>
      match firstRefusal? parsed.given with
      | some refusal => .error refusal
      | none =>
        let options (configFile : Option String) : GeneralOptions :=
          ⟨parsed.has "--verbose", parsed.has "--quiet", configFile⟩
        match parsed.value? "--config" with
        | none => .ok (options none, parsed.others)
        | some name => (fileNamed files name).map fun name => (options (some name), parsed.others)

/-- Reads general options and the name of an action. What stands in the place of the name and looks
like an option is read as one, to no other end than to refuse the whole. -/
def read (files : FileTree) (arguments : List String) : Except Refusal Invocation :=
  match readGeneral files arguments with
  | .error refusal => .error refusal
  | .ok (_, []) => .error .usage
  | .ok (options, name :: rest) =>
    match ActionName.ofText? name with
    | some action => .ok ⟨options, action, rest⟩
    | none =>
      if OptionSpec.isOption name then
        match readGeneral files (name :: rest) with
        | .error refusal => .error refusal
        | .ok _ => .error .usage
      else .error .usage

/-! ## Actions -/

def fileSpec : OptionSpec := ⟨"--file", some 'f', true⟩

def specsOf : ActionName → List OptionSpec
  | .routes => [fileSpec, ⟨"--json", none, false⟩, help]
  | .check => [fileSpec, help]
  | .find => [fileSpec, ⟨"--all", none, false⟩, help]
  | .url => [fileSpec, ⟨"--host", none, false⟩, help]

/-- The action that a name, options and arguments denote. -/
def actionOf? (name : ActionName) (parsed : ParsedArguments) : Option Action :=
  match name, parsed.others with
  | .routes, [] => some (.routes (parsed.has "--json"))
  | .check, [] => some .check
  | .find, [method, uri] => some (.find method uri (parsed.has "--all"))
  | .url, name :: values => some (.url name values (parsed.has "--host"))
  | _, _ => none

/-- Reads the arguments of an action: the name of a file with a route table, and the action. -/
def readAction (invocation : Invocation) (files : FileTree) : Except Refusal (String × Action) :=
  match OptionSpec.parse? (specsOf invocation.action) true invocation.arguments with
  | none => .error .usage
  | some parsed =>
    match firstRefusal? parsed.given, parsed.value? "--file" with
    | some refusal, _ => .error refusal
    | none, none => .error .usage
    | none, some name =>
      match fileNamed files name, actionOf? invocation.action parsed with
      | .error refusal, _ => .error refusal
      | .ok _, none => .error .usage
      | .ok file, some action => .ok (file, action)

end Invocation

end TypedRoutes
