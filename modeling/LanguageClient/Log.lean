/-! Entries of the client's own log. -/
namespace LanguageClient

inductive Level where
  | debug
  | info
  | warn
  | error
  deriving DecidableEq, Repr

def Level.name : Level → String
  | .debug => "DEBUG"
  | .info => "INFO"
  | .warn => "WARN"
  | .error => "ERROR"

structure LogEntry where
  level : Level
  text : String
  deriving DecidableEq, Repr

end LanguageClient
