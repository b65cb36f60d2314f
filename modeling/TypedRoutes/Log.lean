/-!
# Log records

What the library reports besides its results: a severity, the part of the library that speaks, and
a message.
-/
namespace TypedRoutes

inductive LogLevel where
  | debug
  | warning
  | error
deriving DecidableEq

namespace LogLevel

def rank : LogLevel → Nat
  | debug => 10
  | warning => 30
  | error => 40

def text : LogLevel → String
  | debug => "DEBUG"
  | warning => "WARNING"
  | error => "ERROR"

end LogLevel

/-- The parts of the library that write to the log. -/
inductive LogChannel where
  | templates
  | routing
  | dispatch
  | config
deriving DecidableEq

def LogChannel.text : LogChannel → String
  | templates => "pathwright.patterns"
  | routing => "pathwright.routing"
  | dispatch => "pathwright.dispatch"
  | config => "pathwright.config"

structure LogRecord where
  level : LogLevel
  channel : LogChannel
  message : String
deriving DecidableEq

namespace LogRecord

def line (record : LogRecord) : String :=
  record.level.text ++ " " ++ record.channel.text ++ ": " ++ record.message

/-- The records of at least a level. -/
def atLeast (level : LogLevel) (records : List LogRecord) : List LogRecord :=
  records.filter fun record => level.rank ≤ record.level.rank

end LogRecord

end TypedRoutes
