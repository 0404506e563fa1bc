import ScadAdvisor.Text.Basic

/-! # Debug records

Records are always made; whether they are written depends on the handlers that are attached.
-/

namespace ScadAdvisor

inductive LogSource where
  | store
  | scanner
  | settings
deriving DecidableEq, Repr

def LogSource.name : LogSource → Text
  | .store => "scadlint.cache.store".toList
  | .scanner => "scadlint.engine".toList
  | .settings => "scadlint.config_loader".toList

structure LogRecord where
  source : LogSource
  message : Text
deriving DecidableEq, Repr

def LogRecord.line (record : LogRecord) : Text :=
  record.source.name ++ ": ".toList ++ record.message ++ ['\n']

inductive LogHandler where
  | debug
  | other
deriving DecidableEq, Repr

/-- The handlers, in the order in which they were attached, and the level. -/
structure Logging where
  handlers : List LogHandler := []
  level : Nat := 0
deriving DecidableEq, Repr

namespace Logging

def isEnabled (logging : Logging) : Bool := logging.handlers.contains .debug

/-- Attaches the debug handler unless it is attached already. -/
def enable (logging : Logging) : Logging :=
  if logging.isEnabled then logging
  else { handlers := logging.handlers ++ [.debug], level := 10 }

def attachOther (logging : Logging) : Logging :=
  { logging with handlers := logging.handlers ++ [.other] }

def write (logging : Logging) (records : List LogRecord) : Text :=
  if logging.isEnabled then records.flatMap LogRecord.line else []

end Logging

end ScadAdvisor
