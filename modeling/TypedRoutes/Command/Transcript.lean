import TypedRoutes.Command.Style
import TypedRoutes.Fault.Basic
import TypedRoutes.Log

/-!
# Transcripts

What a command writes, in order, and how it ends. A command ends with a result, with an exit code,
or by a failure that it does not handle.
-/
namespace TypedRoutes

inductive Event where
  | output (line : String)
  | error (line : String)
  | record (record : LogRecord)
deriving DecidableEq

/-- How a command ends early. -/
inductive Ending where
  | exit (code : Nat)
  /-- The arguments are not understood. -/
  | usage
  | failed (failure : Failure)
deriving DecidableEq

/-- The events of a command, and its result or how it ends early. -/
structure Transcript (α : Type) where
  events : List Event
  result : Except Ending α

namespace Transcript

instance : Monad Transcript where
  pure x := ⟨[], .ok x⟩
  bind first next :=
    match first.result with
    | .ok x => ⟨first.events ++ (next x).events, (next x).result⟩
    | .error ending => ⟨first.events, .error ending⟩

def write (event : Event) : Transcript Unit := ⟨[event], .ok ()⟩

def stop {α : Type} (ending : Ending) : Transcript α := ⟨[], .error ending⟩

/-- A line on the standard output. -/
def line (text : String) : Transcript Unit :=
  write (.output text)

def styled (style : Style) (text : String) : Transcript Unit :=
  line (style.apply text)

def success (text : String) : Transcript Unit :=
  styled { colour := some .green } text

def warning (text : String) : Transcript Unit :=
  styled { colour := some .yellow } text

def info (text : String) : Transcript Unit :=
  styled { colour := some .cyan } text

def dim (text : String) : Transcript Unit :=
  styled { dim := true } text

/-- A message on the standard error. -/
def complain (text : String) : Transcript Unit :=
  write (.error (Style.apply { colour := some .red } text))

/-- Complains and ends with exit code one. -/
def refuse {α : Type} (text : String) : Transcript α := do
  complain text
  stop (.exit 1)

/-- Writes the records of at least a level. -/
def log (level : LogLevel) (records : List LogRecord) : Transcript Unit :=
  ⟨(LogRecord.atLeast level records).map .record, .ok ()⟩

/-- The result of an operation. A fault is complained of with a lead in front, any other failure is
not handled. -/
def orRefuse {α : Type} (lead : String) (result : Except Failure α) : Transcript α :=
  match result with
  | .ok x => pure x
  | .error (.fault fault) => refuse (lead ++ fault.text)
  | .error failure => stop (.failed failure)

end Transcript

namespace Event

/-- A line as it is shown, with styles or without. -/
def shown (withStyles : Bool) (line : String) : String :=
  (if withStyles then line else Style.strip line) ++ "\n"

def outputText? (withStyles : Bool) : Event → Option String
  | output line => some (shown withStyles line)
  | _ => none

def errorText? (withStyles : Bool) : Event → Option String
  | error line => some (shown withStyles line)
  | record r => some (r.line ++ "\n")
  | output _ => none

end Event

namespace Transcript

/-- Everything on the standard output. -/
def outputText {α : Type} (transcript : Transcript α) (withStyles : Bool) : String :=
  String.join (transcript.events.filterMap (Event.outputText? withStyles))

/-- Everything on the standard error. -/
def errorText {α : Type} (transcript : Transcript α) (withStyles : Bool) : String :=
  String.join (transcript.events.filterMap (Event.errorText? withStyles))

/-- The exit code: two if the arguments are not understood, one after a failure. -/
def exitCode {α : Type} (transcript : Transcript α) : Nat :=
  match transcript.result with
  | .ok _ => 0
  | .error (.exit code) => code
  | .error .usage => 2
  | .error (.failed _) => 1

end Transcript

end TypedRoutes
