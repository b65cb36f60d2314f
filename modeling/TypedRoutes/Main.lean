import TypedRoutes.Command.Run

/-!
# The program

The command line program: it looks up what a command line depends on, runs it and writes what it
comes to.
-/
namespace TypedRoutes
namespace Command

/-- The environment variables that a command line depends on. -/
def variableNames : List String :=
  "COLUMNS" :: "PW_ROUTER" ::
    Settings.schema.fields.map fun field => "PW_ROUTER__" ++ Text.upper field.name

/-- The texts in arguments that may be names of files. -/
def mentionedNames (arguments : List String) : List String :=
  arguments.flatMap fun argument =>
    argument :: String.ofList (argument.toList.drop 2) ::
      ((Text.cut '=' argument.toList).map fun (_, name) => String.ofList name).toList

/-- The content of a file, if there is such a file. -/
def readFile? (name : String) : IO (Option (String × String)) := do
  try
    return some (name, ← IO.FS.readFile name)
  catch _ =>
    return none

def readVariable? (name : String) : IO (Option (String × String)) := do
  return (← IO.getEnv name).map fun value => (name, value)

/-- The files and variables that a command line can depend on. -/
def observe (arguments : List String) : IO World := do
  let files ← (mentionedNames arguments).filterMapM readFile?
  let environment ← variableNames.filterMapM readVariable?
  return ⟨.ofFiles files, environment⟩

/-- What is said of an ending that says nothing itself. -/
def closingWords (transcript : Transcript Unit) : String :=
  match transcript.result with
  | .error .usage => helpText ++ "\n"
  | .error (.failed _) => "The input could not be processed.\n"
  | _ => ""

end Command
end TypedRoutes

open TypedRoutes Command in
def main (arguments : List String) : IO UInt32 := do
  let transcript := run (← observe arguments) arguments
  (← IO.getStdout).putStr (transcript.outputText false)
  (← IO.getStderr).putStr (transcript.errorText false ++ closingWords transcript)
  return transcript.exitCode.toUInt32
