/-
  Log records.
-/

import AdmissionControl.Text.Basic

namespace AdmissionControl

/-- The level of a log record, in ascending order. -/
inductive LogLevel where
  | debug
  | info
  | warning
  | error
  deriving DecidableEq

def LogLevel.name : LogLevel → String
  | .debug => "DEBUG"
  | .info => "INFO"
  | .warning => "WARNING"
  | .error => "ERROR"

structure LogRecord where
  level : LogLevel
  message : Text
  deriving DecidableEq

/-- The records that are shown: all of them in debug mode, and else all above the lowest level. -/
def LogRecord.shown (debug : Bool) (log : List LogRecord) : List LogRecord :=
  log.filter fun record => debug || record.level != .debug

end AdmissionControl
