import TypedRoutes.Config.Merge
import TypedRoutes.Document.EnvFile
import TypedRoutes.Document.Yaml
import TypedRoutes.Files.Glob
import TypedRoutes.Log

/-!
# Layers of configuration

A configuration is put together from files, an environment file, the environment and explicit
values. Each later layer overrides the earlier ones. The layers are put on data of some kind: on
nested mappings, or on mappings of which one may stand in several places.
-/
namespace TypedRoutes

/-- Configuration data that has been put together. -/
structure Config where
  data : Entries

namespace Config

/-- Where a configuration comes from. -/
structure Sources where
  /-- Patterns of the names of JSON and YAML files. -/
  patterns : List String := []
  /-- What the names of environment variables start with that are meant for the configuration. -/
  envPrefix : String := "PW_"
  envFile : Option String := none
  environment : Named String := []
  overrides : Value := .null

/-! ## Reading by paths -/

/-- The names in a path with points between them. -/
def pathOf (path : String) : List String :=
  (path.toList.splitOn '.').map String.ofList

/-- The value at a path with points between the names. -/
def get? (config : Config) (path : String) : Option Value :=
  config.data.at? (pathOf path)

def get (config : Config) (path : String) (default : Value) : Value :=
  (config.get? path).getD default

/-! ## Files -/

/-- Overrides the entries by those of a document, which has to be a mapping. -/
def mergeDocument (data : Entries) : Value → Except Failure Entries
  | .mapping entries => .ok (data.merge entries)
  | _ => .error .notMapping

/-- Overrides the entries by the document of a text, whose format the suffix of its name tells. A
YAML document that is empty or zero counts for nothing. -/
def mergeText (data : Entries) (suffix : String) (content : String) : Except Failure Entries :=
  if suffix = ".json" then (Json.read content).bind (mergeDocument data)
  else
    match Yaml.read content with
    | .error failure => .error failure
    | .ok value => if value.isPresent then mergeDocument data value else .ok data

/-- How layers are put on data. -/
structure Layering (α : Type) where
  empty : α
  /-- Overrides data by the document of a text, whose format the suffix of its name tells. -/
  mergeText : α → String → String → Except Failure α
  /-- Puts the value that a text is taken for at a path. -/
  assign : α → String → List String → Except Failure α
  /-- Overrides data by explicit values. -/
  mergeValues : α → Value → Except Failure α

/-- Layers on nested mappings. -/
def nested : Layering Entries :=
  ⟨[], mergeText, Entries.assign, mergeDocument⟩

namespace Layering

variable {α : Type} (layering : Layering α)

/-- Overrides data by a file of one of the known formats. -/
def mergeFile (tree : FileTree) (data : α) (name : String) : Except Failure α :=
  let path := Pathname.ofText name.toList
  let suffix := String.ofList path.suffix
  if [".json", ".yaml", ".yml"].contains suffix then
    match tree.entry? path.text with
    | some (.file content) => layering.mergeText data suffix (FileTree.textOf content)
    | some .directory => .error (.isDirectory name)
    | none => .ok data
  else .ok data

def mergePattern (tree : FileTree) (data : α) (pattern : String) : Except Failure α :=
  (tree.glob pattern).bind fun names => names.foldlM (layering.mergeFile tree) data

end Layering

/-- The records of the patterns that stand for no file. -/
def unmatched (tree : FileTree) (patterns : List String) : List LogRecord :=
  let standsForNone (pattern : String) : Bool :=
    match tree.glob pattern with
    | .ok [] => true
    | _ => false
  (patterns.filter standsForNone).map fun pattern =>
    ⟨.debug, .config, "No config files match '" ++ pattern ++ "'"⟩

/-! ## Environment -/

/-- Splits at every two underscores, from left to right. -/
def splitLevels (name : List Char) : List Char → List (List Char)
  | '_' :: '_' :: rest => name.reverse :: splitLevels [] rest
  | c :: rest => splitLevels (c :: name) rest
  | [] => [name.reverse]

/-- The path that the name of a variable denotes, if it has the prefix. Two underscores separate
the levels, and letter case does not matter. -/
def variablePath? (envPrefix name : String) : Option (List String) :=
  (Text.afterLead? envPrefix.toList name.toList).map fun rest =>
    (splitLevels [] (Text.lower (String.ofList rest)).toList).map String.ofList

/-- Puts the values of variables in their places, one by one. -/
def Layering.assignAll {α : Type} (layering : Layering α) (envPrefix : String) (data : α)
    (values : Named String) : Except Failure α :=
  values.foldlM
    (fun data (name, raw) =>
      match variablePath? envPrefix name with
      | some path => layering.assign data raw path
      | none => .ok data)
    data

/-- The variables that an entry of the file tree gives values to. Only a file does. -/
def entryVariables (environment : Named String) : Option FileTree.Entry → Named String
  | some (.file content) =>
    (EnvFile.read environment (FileTree.textOf content)).filterMap fun (name, value) =>
      value.map fun text => (name, text)
  | _ => []

/-- The variables of an environment file that have a value. A file that is not there has none. -/
def fileVariables (tree : FileTree) (environment : Named String) (name : Option String) :
    Except Failure (Named String) :=
  match name with
  | some name =>
    (tree.find (Pathname.ofText name.toList).text).map (entryVariables environment)
  | none => .ok []

/-! ## All layers -/

/-- Puts all layers on each other. -/
def Layering.load {α : Type} (layering : Layering α) (tree : FileTree) (sources : Sources) :
    Except Failure α := do
  let fromFiles ← sources.patterns.foldlM (layering.mergePattern tree) layering.empty
  let envFile := sources.envFile.filter fun name => !name.isEmpty
  let bound ← fileVariables tree sources.environment envFile
  let fromEnvFile ← layering.assignAll sources.envPrefix fromFiles bound
  let fromEnv ← layering.assignAll sources.envPrefix fromEnvFile sources.environment
  if sources.overrides.isPresent then layering.mergeValues fromEnv sources.overrides
  else return fromEnv

/-- Puts a configuration together of which no mapping stands in two places. -/
def load (tree : FileTree) (sources : Sources) : Except Failure Config :=
  (nested.load tree sources).map Config.mk

end Config
end TypedRoutes
