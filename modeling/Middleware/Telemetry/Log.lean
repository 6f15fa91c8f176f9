namespace Middleware

/-!
# Log lines
-/

/-- The levels at which lines are logged. -/
inductive LogLevel where
  | debug
  | info
  | warn
deriving DecidableEq, Repr

/-- The name of a level. -/
def LogLevel.label : LogLevel → String
  | .debug => "DEBUG"
  | .info => "INFO"
  | .warn => "WARN"

/-- A length of time: whole seconds, and nanoseconds short of another second. -/
structure Duration where
  seconds : UInt64
  nanoseconds : Nat
  belowSecond : nanoseconds < 1000000000
deriving DecidableEq

namespace Duration

/-- No time at all. -/
def zero : Duration :=
  ⟨0, 0, by decide⟩

/-- Seconds and any number of nanoseconds, whole seconds of which are carried over. -/
def ofParts
    (seconds nanoseconds : Nat) :
    Duration :=
  ⟨(seconds + nanoseconds / 1000000000).toUInt64,
    nanoseconds % 1000000000,
    Nat.mod_lt _ (by decide)⟩

/-- A length of time in seconds. -/
def inSeconds (duration : Duration) : Float :=
  duration.seconds.toFloat + duration.nanoseconds.toUInt64.toFloat / 1000000000.0

end Duration

/-- The value of a field of a log line. -/
inductive LogValue where
  | text (text : String)
  | flag (flag : Bool)
  | count (count : Nat)
  | duration (duration : Duration)
deriving DecidableEq

/-- A log line: a message with named fields. -/
structure LogLine where
  level : LogLevel
  message : String
  fields : List (String × LogValue)
deriving DecidableEq

end Middleware
