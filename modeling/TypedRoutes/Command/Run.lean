import TypedRoutes.Command.Actions
import TypedRoutes.Config.Router

/-!
# Running a command line

The settings come from the configuration file and the environment, and are settled before the
arguments of the action are read.
-/
namespace TypedRoutes
namespace Command

/-- What a command line is run with. -/
structure World where
  files : FileTree
  environment : Named String

def version : String := "pathwright, version 0.1.0"

def helpText : String :=
  "Usage: pathwright [-v] [-q] [-c FILE] routes|check|match|url -f FILE ..."

/-- Ends a command line that asks for no action. -/
def refuse {α : Type} (refusal : Refusal) : Transcript α := do
  match refusal with
  | .usage => .stop .usage
  | .version =>
    .line version
    .stop (.exit 0)
  | .help =>
    .line helpText
    .stop (.exit 0)
  | .impossibleName => .stop (.failed .outOfRange)

def orRefuse {α : Type} : Except Refusal α → Transcript α
  | .ok x => pure x
  | .error refusal => refuse refusal

/-- The settings from the configuration file, if one is given, and from the environment. -/
def readSettings (world : World) (options : GeneralOptions) : Transcript Settings := do
  let patterns := (options.configFile.filter fun name => !name.isEmpty).toList
  let lead := ActionContext.crossed ++ "Invalid configuration: "
  .log options.logLevel (Config.unmatched world.files patterns)
  let config ← Transcript.orRefuse lead
    (Config.load world.files { patterns, environment := world.environment })
  .log options.logLevel config.settingsWarnings
  Transcript.orRefuse lead config.settings

/-- Runs a command line. -/
def run (world : World) (arguments : List String) : Transcript Unit := do
  let invocation ← orRefuse (Invocation.read world.files arguments)
  let settings ← readSettings world invocation.options
  let (file, action) ← orRefuse (invocation.readAction world.files)
  let width := Layout.width (world.environment.lookup "COLUMNS")
  ActionContext.run ⟨world.files, settings, invocation.options, width⟩ file action

end Command
end TypedRoutes
