import LanguageClient.Program.Handler
import LanguageClient.Proofs.FileTree

/-! How a command line is carried out on a machine. The settings are read first, and a fault in them
ends every command before it has done anything of its own. -/
namespace LanguageClient

namespace Machine

variable {α β : Type}

@[simp] theorem run_pure (m : Machine) (a : α) : m.run (pure a) = (a, m) := rfl

@[simp] theorem run_bind (m : Machine) (p : Program α) (f : α → Program β) :
    m.run (p >>= f) = (m.run p).2.run (f (m.run p).1) :=
  Program.run_bind handle p f m

def holding (m : Machine) (files : FileTree) : Machine :=
  { m with world := { m.world with files := files } }

def say (m : Machine) (shown : Json) : Machine :=
  { m with printed := m.printed ++ (shown.pretty ++ "\n") }

theorem run_exists (m : Machine) (path : String) :
    @run Bool m (Program.perform (.exists path)) =
      (m.world.files.leadsSomewhere m.world.workingDirectory path, m) := rfl

private theorem run_readText (m : Machine) (path : String) :
    @run (Except IoFailure String) m (Program.perform (.readText path)) =
      (m.world.files.readText m.world.workingDirectory path, m) := rfl

theorem run_makeDirectories (m : Machine) (path : String) :
    @run (Except IoFailure Unit) m (Program.perform (.makeDirectories path)) =
      m.changeFiles (m.world.files.makeDirectories m.world.workingDirectory path) := rfl

theorem run_writeText (m : Machine) (path text : String) :
    @run (Except IoFailure Unit) m (Program.perform (.writeText path text)) =
      m.changeFiles (m.world.files.write m.world.workingDirectory path (Frame.bytesOf text)) := rfl

theorem run_report (m : Machine) (outcome : Except String Json) :
    m.run (Command.report outcome).run = (.ok (), m.say (Report.envelope outcome)) := rfl

/-- A program that may fail goes on after another one that has not failed. -/
theorem run_then (m : Machine) (p : Command.Fallible α) (f : α → Command.Fallible β) :
    m.run (p >>= f).run =
      match (m.run p.run).1 with
      | .ok a => (m.run p.run).2.run (f a).run
      | .error e => (.error e, (m.run p.run).2) := by
  rw [ExceptT.run_bind, run_bind]
  cases (m.run p.run).1 <;> rfl

theorem run_lift (m : Machine) (p : Program α) :
    m.run (ExceptT.lift p : Command.Fallible α).run = (.ok (m.run p).1, (m.run p).2) :=
  run_bind m p _

private theorem run_attempt {ε : Type} (m : Machine) (message : ε → String) (p : Program (Except ε α)) :
    m.run (Command.attempt message p).run = ((m.run p).1.mapError message, (m.run p).2) := by
  rw [Command.attempt, run_then, run_lift]
  cases (m.run p).1 <;> rfl

/-- What is found where a file of settings may be. -/
def settingsFile (m : Machine) (path : String) : SettingsFile :=
  if m.world.files.leadsSomewhere m.world.workingDirectory path then
    match m.world.files.readText m.world.workingDirectory path with
    | .ok text => .text text
    | .error failure => .unreadable failure
  else .absent

def effective (m : Machine) (s : Surroundings) : Except SettingsError Settings :=
  Settings.effective Settings.ofToml? s.paths (m.settingsFile s.paths.global)
    (m.settingsFile s.paths.project) s.environment

theorem run_findSettings (m : Machine) (path : String) :
    m.run (Program.findSettings path) = (m.settingsFile path, m) := by
  rw [Program.findSettings, run_bind, run_exists, settingsFile]
  split
  · rw [run_bind, run_readText]
    split <;> simp_all
  · rfl

theorem run_effectiveSettings (m : Machine) (s : Surroundings) :
    m.run (Program.effectiveSettings s) = (m.effective s, m) := by
  simp only [Program.effectiveSettings, run_bind, run_findSettings, effective, Settings.effective]
  cases (m.settingsFile s.paths.global).settings? Settings.ofToml? s.paths.global with
  | error e => rfl
  | ok global => simp [run_findSettings]

theorem settingsFile_file {m : Machine} {path text : String} {names : List String}
    {executable : Bool}
    (reached : m.world.files.locate true m.world.workingDirectory path =
      .ok ⟨names, some (.file (Frame.bytesOf text) executable)⟩) :
    m.settingsFile path = .text text := by
  have present : m.world.files.leadsSomewhere m.world.workingDirectory path := by
    simp [FileTree.leadsSomewhere, FileTree.look?, reached]
  rw [settingsFile, if_pos present, FileTree.readText_file reached]

theorem effective_ok {m : Machine} {s : Surroundings} {settings : Settings}
    (inOrder : m.effective s = .ok settings) (ofGlobal : Bool) :
    ∃ found, (m.settingsFile (s.paths.select ofGlobal)).settings? Settings.ofToml?
      (s.paths.select ofGlobal) = .ok found := by
  unfold effective Settings.effective at inOrder
  cases global : (m.settingsFile s.paths.global).settings? Settings.ofToml? s.paths.global with
  | error e => simp [global, bind, Except.bind] at inOrder
  | ok user =>
    cases project : (m.settingsFile s.paths.project).settings? Settings.ofToml? s.paths.project with
    | error e => simp [global, project, bind, Except.bind] at inOrder
    | ok own =>
      cases ofGlobal with
      | false => exact ⟨own, project⟩
      | true => exact ⟨user, global⟩

end Machine

namespace Command

/-- A command is carried out under the settings that count, or not at all. -/
theorem run_runLine {words : List String} {command : Command}
    (isCommand : Arguments.read words = .ok command) (s : Surroundings) (m : Machine) :
    m.run (runLine s words) =
      match m.effective s with
      | .error e => (2, m.say (Report.envelope (.error ("Failed to initialize: " ++ e.message))))
      | .ok settings =>
        match m.run (execute s settings command).run with
        | (.ok (), after) => (0, after)
        | (.error text, after) => (2, after.say (Report.envelope (.error text))) := by
  have carriedOut : m.run (executeWith (fun e => "Failed to initialize: " ++ e.message) s command).run =
      match m.effective s with
      | .error e => (.error ("Failed to initialize: " ++ e.message), m)
      | .ok settings => m.run (execute s settings command).run := by
    rw [executeWith, Machine.run_then, Machine.run_attempt, Machine.run_effectiveSettings]
    cases m.effective s <;> rfl
  simp only [runLine, isCommand]
  rw [Machine.run_bind, carriedOut]
  cases m.effective s with
  | error e => rfl
  | ok settings =>
    dsimp only
    rcases m.run (execute s settings command).run with ⟨_ | _, after⟩ <;> rfl

end Command

end LanguageClient
