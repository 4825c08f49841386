import LanguageClient.Settings
import LanguageClient.Failure
import LanguageClient.Text.Blank
import LanguageClient.Text.Lowercase

/-!
Variables of the environment that take the place of settings. A variable that is set to nothing
leaves a path as it is, but turns the logs off.
-/
namespace LanguageClient

abbrev Environment := String → Option String

namespace Environment

def executablePathKey : String := "LEAN4_EXECUTABLE_PATH"
def loggingEnabledKey : String := "LEAN4_SERVER_LOGGING_ENABLED"
def loggingPathKey : String := "LEAN4_SERVER_LOGGING_PATH"

def keys : List String := [executablePathKey, loggingEnabledKey, loggingPathKey]

def active (env : Environment) : List (String × String) :=
  keys.filterMap fun key => (env key).map fun value => (key, value)

def ofTable (t : Table String) : Environment := t.get?

end Environment

def readSwitch? (text : String) : Option Bool :=
  let word := Text.lowercase (Text.trim text)
  if ["1", "true", "yes", "on"].contains word then some true
  else if ["0", "false", "no", "off", ""].contains word then some false
  else none

namespace Settings

def nonEmpty? (env : Environment) (key : String) : Option String :=
  (env key).filter fun value => value ≠ ""

def withEnvironment (s : Settings) (env : Environment) : Except SettingsError Settings := do
  let enabled ← match env Environment.loggingEnabledKey with
    | none => .ok s.server.logging.enabled
    | some text =>
      match readSwitch? text with
      | some b => .ok b
      | none => .error (.invalidValue Environment.loggingEnabledKey
          ("expected a boolean, got '" ++ Text.lowercase (Text.trim text) ++ "'"))
  return ⟨{ s.server with
    executablePath :=
      (nonEmpty? env Environment.executablePathKey).getD s.server.executablePath
    logging := ⟨enabled, (nonEmpty? env Environment.loggingPathKey).getD s.server.logging.path⟩ }⟩

end Settings

end LanguageClient
