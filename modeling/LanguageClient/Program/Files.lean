import LanguageClient.Location
import LanguageClient.Program.Basic
import LanguageClient.Settings.Sources
import LanguageClient.Settings.Toml

/-!
Programs that work with files: the settings are read and set up, a path is made absolute, and a
document is read.
-/
namespace LanguageClient

structure Surroundings where
  workingDirectory : String
  environment : Environment
  paths : SettingsPaths

namespace Surroundings

def usual (workingDirectory : String) (env : Environment) : Surroundings :=
  ⟨workingDirectory, env, .ofEnvironment env workingDirectory⟩

end Surroundings

namespace Program

def findSettings (path : String) : Program SettingsFile := do
  let present : Bool ← perform (.exists path)
  if present then
    let found : Except IoFailure String ← perform (.readText path)
    match found with
    | .ok text => pure (.text text)
    | .error failure => pure (.unreadable failure)
  else pure .absent

def globalSettings (s : Surroundings) : Program (Except SettingsError Settings) := do
  let global ← findSettings s.paths.global
  pure (Settings.ofGlobal Settings.ofToml? s.paths global)

/-- The settings that count. The file of the project is not looked at if that of the user is at
fault. -/
def effectiveSettings (s : Surroundings) : Program (Except SettingsError Settings) := do
  let global ← findSettings s.paths.global
  match global.settings? Settings.ofToml? s.paths.global with
  | .error e => pure (.error e)
  | .ok _ =>
    let project ← findSettings s.paths.project
    pure (Settings.effective Settings.ofToml? s.paths global project s.environment)

def initSettings (s : Surroundings) (toGlobal force : Bool) :
    Program (Except SettingsError String) := do
  let path := s.paths.select toGlobal
  let present : Bool ← perform (.exists path)
  if present && !force then
    pure (.error (.invalidValue "config"
      ("Config already exists: " ++ path ++ ". Use --force to overwrite.")))
  else
    let made : Except IoFailure Unit ← match Path.parent? path with
      | some parent => perform (.makeDirectories parent)
      | none => pure (.ok ())
    match made with
    | .error failure => pure (.error (.io failure))
    | .ok () =>
      let written : Except IoFailure Unit ← perform (.writeText path Settings.initialToml)
      match written with
      | .error failure => pure (.error (.io failure))
      | .ok () => pure (.ok path)

def absoluteFile (s : Surroundings) (path : String) : Program (Except String String) := do
  let path := Path.join s.workingDirectory path
  let found : Except IoFailure String ← perform (.canonicalPath path)
  match found with
  | .ok file => pure (.ok file)
  | .error _ => pure (.error ("File not found: " ++ path))

def absoluteLocation (s : Surroundings) (text : String) : Program (Except String Location) := do
  match Location.parse text with
  | .error e => pure (.error e.message)
  | .ok l =>
    match ← absoluteFile s l.file with
    | .error text => pure (.error text)
    | .ok file => pure (.ok { l with file := file })

def readDocument (s : Surroundings) (path : String) : Program (Except IoFailure TextDocument) := do
  let found : Except IoFailure String ← perform (.readText path)
  match found with
  | .ok text => pure (.ok (.new (Uri.ofPath s.workingDirectory path) (languageOfPath path) text))
  | .error failure => pure (.error failure)

end Program

end LanguageClient
