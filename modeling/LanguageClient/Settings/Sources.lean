import LanguageClient.Path
import LanguageClient.Settings.Environment

/-!
Where settings come from. There are two files, one of the user and one of the project; the project's
takes the place of the user's as a whole, and what it leaves out has its default. Variables of the
environment come last. The form of the files is left open: `read` gives the settings in a text.
-/
namespace LanguageClient

inductive SettingsFile where
  | absent
  | unreadable (failure : IoFailure)
  | text (content : String)
  deriving DecidableEq, Repr

namespace SettingsFile

def settings? (read : String → Option Settings) (path : String) :
    SettingsFile → Except SettingsError (Option Settings)
  | .absent => .ok none
  | .unreadable failure => .error (.io failure)
  | .text content =>
    match read content with
    | some settings => .ok (some settings)
    | none => .error (.malformed path)

end SettingsFile

structure SettingsPaths where
  global : String
  project : String
  deriving DecidableEq, Repr

namespace SettingsPaths

def fallbackHome : String := "/root"

def globalKey : String := "XDG_CONFIG_HOME"

def homeKey : String := "HOME"

def fileName : String := "config.toml"

def globalDirectory (env : Environment) : String :=
  (env globalKey).getD (Path.join ((Settings.nonEmpty? env homeKey).getD fallbackHome) ".config")

def ofEnvironment (env : Environment) (root : String) : SettingsPaths where
  global := Path.join (Path.join (globalDirectory env) "lean-client") fileName
  project := Path.join (Path.join root ".lean-client") fileName

def select (paths : SettingsPaths) (ofGlobal : Bool) : String :=
  if ofGlobal then paths.global else paths.project

end SettingsPaths

namespace Settings

def ofGlobal (read : String → Option Settings) (paths : SettingsPaths) (global : SettingsFile) :
    Except SettingsError Settings :=
  (global.settings? read paths.global).map fun found => found.getD .default

def effective (read : String → Option Settings) (paths : SettingsPaths)
    (global project : SettingsFile) (env : Environment) : Except SettingsError Settings := do
  let global ← global.settings? read paths.global
  let project ← project.settings? read paths.project
  ((project.or global).getD .default).withEnvironment env

end Settings

end LanguageClient
