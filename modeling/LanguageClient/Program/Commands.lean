import LanguageClient.Arguments
import LanguageClient.Program.Files
import LanguageClient.Report

/-!
The commands. A command that cannot do its work fails with a text and prints nothing; one that has
done its work prints a report, be it of success or of failure. A command that has started a server
and failed later leaves the server running.
-/
namespace LanguageClient.Command

open Program (perform)

abbrev Fallible (α : Type) := ExceptT String Program α

def orFail {ε α : Type} (message : ε → String) : Except ε α → Fallible α
  | .ok a => pure a
  | .error e => throw (message e)

def attempt {ε α : Type} (message : ε → String) (program : Program (Except ε α)) : Fallible α := do
  let result ← ExceptT.lift program
  orFail message result

def report (outcome : Except String Json) : Fallible Unit :=
  ExceptT.lift (perform (.print (Report.text outcome)))

def openFile (s : Surroundings) (path : String) : Fallible (String × TextDocument) := do
  let file ← attempt id (Program.absoluteFile s path)
  let document ← attempt (fun _ => "Failed to read " ++ file) (Program.readDocument s file)
  pure (file, document)

def start (s : Surroundings) (settings : Settings) : Fallible Unit :=
  attempt ClientError.message (perform (.startServer settings.server s.workingDirectory))

def finish : Fallible Unit := do
  let _ : Except ClientError Unit ← ExceptT.lift (perform .stopServer)

def showGoal (s : Surroundings) (settings : Settings) (text : String) : Fallible Unit := do
  let location ← attempt id (Program.absoluteLocation s text)
  let document ← attempt (fun _ => "Failed to read " ++ location.file)
    (Program.readDocument s location.file)
  orFail LocationError.message (location.validate document.text)
  start s settings
  let _ : Bool ← attempt ClientError.message (perform (.openDocument document))
  let result : Except ClientError (Option PlainGoal) ←
    ExceptT.lift (perform (.askGoal document.uri location.position))
  finish
  report (Report.outcome (fun shown => .ok (Report.FileGoal.mk
    (Report.relativePath s.workingDirectory location.file) location.line location.column shown).toJson)
    ClientError.message result)

def showArrived (s : Surroundings) (file uri : String) (waitMs : UInt64)
    (encode : Report.FileDiagnostics → Json) : Fallible Unit := do
  let () ← ExceptT.lift (perform (.wait waitMs.toNat))
  let result : Except ClientError (List Diagnostic) ←
    ExceptT.lift (perform (.publishedDiagnostics uri))
  finish
  report (Report.outcome (fun arrived => .ok (encode (.ofDiagnostics
    (Report.relativePath s.workingDirectory file) arrived))) ClientError.message result)

def showDiagnostics (s : Surroundings) (settings : Settings) (path : String) (waitMs : UInt64) :
    Fallible Unit := do
  let (file, document) ← openFile s path
  start s settings
  let _ : Bool ← attempt ClientError.message (perform (.openDocument document))
  showArrived s file document.uri waitMs Report.FileDiagnostics.toJson

def showRefreshed (s : Surroundings) (settings : Settings) (path : String) (waitMs : UInt64) :
    Fallible Unit := do
  let (file, document) ← openFile s path
  start s settings
  let _ : Bool ← attempt ClientError.message (perform (.openDocument document))
  let current ← attempt IoFailure.message (Program.readDocument s file)
  attempt ClientError.message (perform (.refreshDependencies current))
  showArrived s file current.uri waitMs Report.FileDiagnostics.refreshed

def settingsReport (level : String) (settings : Settings) (overrides : List (String × String)) :
    Json :=
  .ofMembers ([("level", .string level), ("config", settings.toJson),
      ("server_log_dir", Json.ofOption .string settings.server.loggingDirectory?)] ++
    if overrides.isEmpty then []
    else [("env_overrides", .ofMembers (overrides.map fun (key, value) => (key, .string value)))])

def initReport (s : Surroundings) (toGlobal : Bool) (path : String) : Json :=
  .ofMembers [("created", .string (Report.relativePath s.workingDirectory path)),
    ("level", .string (if toGlobal then "global" else "project"))]

def setUp (s : Surroundings) (toGlobal force : Bool) : Fallible Unit := do
  let result ← ExceptT.lift (Program.initSettings s toGlobal force)
  report (Report.outcome (fun path => .ok (initReport s toGlobal path)) SettingsError.message result)

def showSettings (s : Surroundings) (settings : Settings) (ofGlobal : Bool) : Fallible Unit := do
  if ofGlobal then
    let result ← ExceptT.lift (Program.globalSettings s)
    report (Report.outcome (fun g => .ok (settingsReport "global" g [])) SettingsError.message result)
  else report (.ok (settingsReport "effective" settings s.environment.active))

def fileReport (path : String) : Fallible Json := do
  let present : Bool ← ExceptT.lift (perform (.exists path))
  pure (.ofMembers [("path", .string path), ("exists", .bool present)])

def showPaths (s : Surroundings) : Fallible Unit := do
  let global ← fileReport s.paths.global
  let project ← fileReport s.paths.project
  report (.ok (.ofMembers [("global", global), ("project", project)]))

def execute (s : Surroundings) (settings : Settings) : Command → Fallible Unit
  | .goal location => showGoal s settings location
  | .diagnostics file waitMs => showDiagnostics s settings file waitMs
  | .refresh file waitMs => showRefreshed s settings file waitMs
  | .configInit toGlobal force => setUp s toGlobal force
  | .configShow ofGlobal => showSettings s settings ofGlobal
  | .configPath => showPaths s

/-- Reads the settings and carries out a command. A fault in the settings ends every command, also
one that would mend it; `fault` is the text for such a fault. -/
def executeWith (fault : SettingsError → String) (s : Surroundings) (command : Command) :
    Fallible Unit := do
  let settings ← attempt fault (Program.effectiveSettings s)
  execute s settings command

def runLine (s : Surroundings) (words : List String) : Program Nat := do
  match Arguments.read words with
  | .error (.version program) =>
    let () ← perform (.print (Arguments.versionText program))
    pure (Usage.version program).exitStatus
  | .error usage => pure usage.exitStatus
  | .ok command =>
    match ← (executeWith (fun e => "Failed to initialize: " ++ e.message) s command).run with
    | .ok () => pure 0
    | .error text =>
      let () ← perform (.print (Report.text (.error text)))
      pure 2

end LanguageClient.Command
