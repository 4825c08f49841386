import LanguageClient.Program.Machine
import LanguageClient.Proofs.Program.Startup

/-! Setting up a file of settings by force. The settings that count are read before any command is
carried out, also before this one, so it runs only if they are in order already: whatever it would
have put in place of a file at fault, it comes to an end before it has looked at its target. With
settings in order it gives the target the default settings and changes nothing else. -/
namespace LanguageClient

private theorem Settings.ofToml?_initialToml : Settings.ofToml? Settings.initialToml = some .default := by
  decide +kernel

namespace Machine

def around (m : Machine) (path : String) : Except IoFailure FileTree :=
  match Path.parent? path with
  | some parent => m.world.files.makeDirectories m.world.workingDirectory parent
  | none => .ok m.world.files

/-- The files with the default settings at a path. -/
def laidOut (m : Machine) (path : String) : Except IoFailure FileTree := do
  let files ← m.around path
  files.write m.world.workingDirectory path (Frame.bytesOf Settings.initialToml)

structure LaidOut (m : Machine) (path : String) (files : FileTree) : Prop where
  holds : ((m.holding files).settingsFile path = .text Settings.initialToml ∧
      ((m.holding files).settingsFile path).settings? Settings.ofToml? path = .ok (some .default)) ∨
    ∃ device, files.look? m.world.workingDirectory path = some (.device device)
  keeps : ∃ place, files.locate true m.world.workingDirectory path = .ok place ∧
    ∀ other, other ≠ place.names → files.entryAt? other = m.world.files.entryAt? other ∨
      m.world.files.entryAt? other = none ∧ files.entryAt? other = some .directory

private theorem run_writeInitial (m : Machine) (path : String) :
    m.run (do
      let written : Except IoFailure Unit ←
        Program.perform (.writeText path Settings.initialToml)
      match written with
      | .error failure => pure (.error (.io failure))
      | .ok () => pure (.ok path) : Program (Except SettingsError String)) =
      match m.world.files.write m.world.workingDirectory path
          (Frame.bytesOf Settings.initialToml) with
      | .error failure => (.error (SettingsError.io failure), m)
      | .ok files => (.ok path, m.holding files) := by
  rw [run_bind, run_writeText]
  cases m.world.files.write m.world.workingDirectory path (Frame.bytesOf Settings.initialToml) <;> rfl

private theorem run_initSettings_forced (m : Machine) (s : Surroundings) (toGlobal : Bool) :
    m.run (Program.initSettings s toGlobal true) =
      match m.around (s.paths.select toGlobal) with
      | .error failure => (.error (.io failure), m)
      | .ok files =>
        match files.write m.world.workingDirectory (s.paths.select toGlobal)
            (Frame.bytesOf Settings.initialToml) with
        | .error failure => (.error (.io failure), m.holding files)
        | .ok written => (.ok (s.paths.select toGlobal), m.holding written) := by
  rw [Program.initSettings, run_bind, run_exists]
  simp only [Bool.not_true, Bool.and_false, Bool.false_eq_true, if_false, around]
  cases Path.parent? (s.paths.select toGlobal) with
  | none => exact run_writeInitial m _
  | some parent =>
    dsimp only
    rw [run_bind, run_makeDirectories]
    cases m.world.files.makeDirectories m.world.workingDirectory parent with
    | error failure => rfl
    | ok files => exact run_writeInitial (m.holding files) _

private theorem around_grown {m : Machine} {path : String} {files : FileTree}
    (made : m.around path = .ok files) : m.world.files.Grown files := by
  unfold around at made
  split at made
  · exact FileTree.makeDirectories_grown made
  · cases made
    exact .refl _

private theorem laidOut_eq_ok {m : Machine} {path : String} {files : FileTree}
    (possible : m.laidOut path = .ok files) :
    ∃ before, m.around path = .ok before ∧
      before.write m.world.workingDirectory path (Frame.bytesOf Settings.initialToml) = .ok files := by
  unfold laidOut at possible
  cases made : m.around path with
  | error failure => simp [made, bind, Except.bind] at possible
  | ok before => exact ⟨before, rfl, by simpa [made, bind, Except.bind] using possible⟩

private theorem laidOut_spec {m : Machine} {path : String} {files : FileTree}
    (possible : m.laidOut path = .ok files) : m.LaidOut path files := by
  obtain ⟨before, made, written⟩ := laidOut_eq_ok possible
  have grown := around_grown made
  obtain ⟨place, executable, reached, isEnd, rfl⟩ | ⟨device, isDevice, rfl⟩ :=
    FileTree.write_cases written
  · have again := FileTree.locate_put (.file (Frame.bytesOf Settings.initialToml) executable)
      reached isEnd (by simp)
    have text : (m.holding (before.put place.names
        (.file (Frame.bytesOf Settings.initialToml) executable))).settingsFile path =
          .text Settings.initialToml := settingsFile_file again
    refine ⟨.inl ⟨text, ?_⟩, _, again, fun other elsewhere => ?_⟩
    · rw [text, SettingsFile.settings?, Settings.ofToml?_initialToml]
    · rw [FileTree.entryAt?_put_locate reached isEnd _ elsewhere]
      exact grown other
  · refine ⟨.inr ⟨device, isDevice⟩, ?_⟩
    cases reached : files.locate true m.world.workingDirectory path with
    | error e => simp [FileTree.look?, reached] at isDevice
    | ok place => exact ⟨place, rfl, fun other _ => grown other⟩

private theorem run_initSettings_laidOut {m : Machine} {s : Surroundings} {toGlobal : Bool}
    {files : FileTree} (possible : m.laidOut (s.paths.select toGlobal) = .ok files) :
    m.run (Program.initSettings s toGlobal true) = (.ok (s.paths.select toGlobal), m.holding files) := by
  obtain ⟨before, made, written⟩ := laidOut_eq_ok possible
  simp only [run_initSettings_forced, made, written]

private theorem run_initSettings_impossible {m : Machine} {s : Surroundings} {toGlobal : Bool}
    {failure : IoFailure} (impossible : m.laidOut (s.paths.select toGlobal) = .error failure) :
    ∃ files, m.world.files.Grown files ∧
      m.run (Program.initSettings s toGlobal true) = (.error (.io failure), m.holding files) := by
  rw [run_initSettings_forced]
  unfold laidOut at impossible
  cases made : m.around (s.paths.select toGlobal) with
  | error e =>
    obtain rfl : e = failure := by simpa [made, bind, Except.bind] using impossible
    exact ⟨m.world.files, .refl _, rfl⟩
  | ok before =>
    have refused : before.write m.world.workingDirectory (s.paths.select toGlobal)
        (Frame.bytesOf Settings.initialToml) = .error failure := by
      simpa [made, bind, Except.bind] using impossible
    exact ⟨before, around_grown made, by simp only [refused]⟩

/-- An ordinary file is overwritten in its place. -/
theorem laidOut_file {m : Machine} {path parent : String} {names : List String}
    {content : Frame.Bytes} {executable : Bool} (isParent : Path.parent? path = some parent)
    (isDirectory : m.world.files.isDirectory m.world.workingDirectory parent)
    (isFile : m.world.files.locate true m.world.workingDirectory path =
      .ok ⟨names, some (.file content executable)⟩) :
    m.laidOut path =
      .ok (m.world.files.put names (.file (Frame.bytesOf Settings.initialToml) executable)) := by
  rw [laidOut, around, isParent]
  dsimp only
  rw [FileTree.makeDirectories_of_isDirectory isDirectory]
  exact FileTree.write_file isFile

end Machine

namespace Command

theorem run_setUp (m : Machine) (s : Surroundings) (toGlobal force : Bool) :
    m.run (setUp s toGlobal force).run =
      (.ok (), (m.run (Program.initSettings s toGlobal force)).2.say (Report.envelope
        (Report.outcome (fun path => .ok (initReport s toGlobal path)) SettingsError.message
          (m.run (Program.initSettings s toGlobal force)).1))) := by
  rw [setUp, Machine.run_then, Machine.run_lift]
  exact Machine.run_report _ _

private theorem envelope_initReport (s : Surroundings) (toGlobal : Bool) (path : String) :
    Report.envelope (.ok (initReport s toGlobal path)) = .ofMembers [("success", .bool true),
      ("created", .string (Report.relativePath s.workingDirectory path)),
      ("level", .string (if toGlobal then "global" else "project"))] := by
  have order : "created" < "success" ∧ "level" < "success" ∧ ¬"level" < "created" ∧
      "created" ≠ "level" := by decide
  simp only [Report.envelope, initReport, Json.ofMembers, Table.extend, Table.ofList, List.foldl_cons,
    List.foldl_nil, Table.insert, order, if_true, if_false]

def projectWith (content : String) : FileTree where
  entries := [(["p"], .directory), (["p", ".lean-client"], .directory),
    (["p", ".lean-client", "config.toml"], .file (Frame.bytesOf content) false)]

def inProject : Surroundings := .usual "/p" fun _ => none

def machineWith (content : String) : Machine := .new (projectWith content) [] "/p"

/-- The words with which the file of a project is set up by force. -/
def forceWords : List String := ["config", "init", "--force"]

def forced (content : String) : Nat × Machine :=
  (machineWith content).run (runLine inProject forceWords)

theorem inProject_paths : inProject.paths =
    ⟨"/root/.config/lean-client/config.toml", "/p/.lean-client/config.toml"⟩ := by
  decide

private theorem projectWith_entries (content : String) :
    (projectWith content).entryAt? ["root"] = none ∧
    (projectWith content).entryAt? ["p"] = some .directory ∧
    (projectWith content).entryAt? ["p", ".lean-client"] = some .directory ∧
    (projectWith content).entryAt? ["p", ".lean-client", "config.toml"] =
      some (.file (Frame.bytesOf content) false) := by
  simp [FileTree.entryAt?, projectWith]

theorem projectWith_locate (content : String) :
    (projectWith content).locate true "/p" "/root/.config/lean-client/config.toml" =
      .error .notFound ∧
    (projectWith content).locate true "/p" "/p/.lean-client" =
      .ok ⟨["p", ".lean-client"], some .directory⟩ ∧
    (projectWith content).locate true "/p" "/p/.lean-client/config.toml" =
      .ok ⟨["p", ".lean-client", "config.toml"], some (.file (Frame.bytesOf content) false)⟩ := by
  have short : ¬FileTree.nameLimit < "root".utf8ByteSize ∧ ¬FileTree.nameLimit < "p".utf8ByteSize ∧
      ¬FileTree.nameLimit < ".lean-client".utf8ByteSize ∧
      ¬FileTree.nameLimit < "config.toml".utf8ByteSize := by decide
  have global : FileTree.steps (Path.join "/p" "/root/.config/lean-client/config.toml") =
      ["root", ".config", "lean-client", "config.toml"] := by decide
  have parent : FileTree.steps (Path.join "/p" "/p/.lean-client") = ["p", ".lean-client"] := by
    decide
  have project : FileTree.steps (Path.join "/p" "/p/.lean-client/config.toml") =
      ["p", ".lean-client", "config.toml"] := by decide
  refine ⟨?_, ?_, ?_⟩ <;> rw [FileTree.locate_of_walk (by decide) (by decide) (by decide)]
  · simp [global, FileTree.walk, projectWith_entries, short]
  · simp [parent, FileTree.walk, projectWith_entries, short]
  · simp [project, FileTree.walk, projectWith_entries, short]

private theorem machineWith_laidOut (content : String) :
    (machineWith content).laidOut (inProject.paths.select false) =
      .ok ((projectWith content).put ["p", ".lean-client", "config.toml"]
        (.file (Frame.bytesOf Settings.initialToml) false)) := by
  obtain ⟨-, parent, project⟩ := projectWith_locate content
  have isDirectory : (projectWith content).isDirectory "/p" "/p/.lean-client" := by
    simp [FileTree.isDirectory, FileTree.look?, parent]
  rw [inProject_paths]
  exact Machine.laidOut_file (by decide) isDirectory project

theorem machineWith_effective (content : String) :
    (machineWith content).effective inProject =
      match Settings.ofToml? content with
      | some settings => .ok settings
      | none => .error (.malformed "/p/.lean-client/config.toml") := by
  obtain ⟨global, -, project⟩ := projectWith_locate content
  have user : (machineWith content).settingsFile "/root/.config/lean-client/config.toml" = .absent := by
    have missing : (projectWith content).leadsSomewhere "/p"
        "/root/.config/lean-client/config.toml" = false := by
      simp [FileTree.leadsSomewhere, FileTree.look?, global]
    rw [Machine.settingsFile, if_neg]
    simpa [machineWith, Machine.new] using missing
  have own : (machineWith content).settingsFile "/p/.lean-client/config.toml" = .text content :=
    Machine.settingsFile_file project
  rw [Machine.effective, inProject_paths, user, own, Settings.effective]
  simp only [SettingsFile.settings?, bind, Except.bind]
  cases Settings.ofToml? content <;> rfl

/-- What it comes to to set up a file of settings by force. -/
structure Forced (s : Surroundings) (toGlobal : Bool) (m : Machine) (status : Nat)
    (after : Machine) : Prop where
  /-- Settings at fault end the command before it has done anything. -/
  refused (e : SettingsError) (fault : m.effective s = .error e) :
    status = 2 ∧ after = m.say (.ofMembers [("success", .bool false),
      ("error", .string ("Failed to initialize: " ++ e.message))])
  /-- A file that cannot be read as settings stays as it is, be it the target or the other file. -/
  unmended (ofGlobal : Bool) (content : String)
    (found : m.settingsFile (s.paths.select ofGlobal) = .text content)
    (malformed : Settings.ofToml? content = none) :
    status = 2 ∧ after.world = m.world
  /-- With settings in order the target is given the default settings. -/
  written (settings : Settings) (files : FileTree) (inOrder : m.effective s = .ok settings)
    (possible : m.laidOut (s.paths.select toGlobal) = .ok files) :
    status = 0 ∧ after = (m.holding files).say (.ofMembers [("success", .bool true),
      ("created", .string (Report.relativePath s.workingDirectory (s.paths.select toGlobal))),
      ("level", .string (if toGlobal then "global" else "project"))]) ∧
      m.LaidOut (s.paths.select toGlobal) files
  /-- That is always possible where an ordinary file stands in a directory. -/
  overwritten (settings : Settings) (parent : String) (names : List String) (content : Frame.Bytes)
    (executable : Bool) (inOrder : m.effective s = .ok settings)
    (isParent : Path.parent? (s.paths.select toGlobal) = some parent)
    (isDirectory : m.world.files.isDirectory m.world.workingDirectory parent)
    (isFile : m.world.files.locate true m.world.workingDirectory (s.paths.select toGlobal) =
      .ok ⟨names, some (.file content executable)⟩) :
    status = 0 ∧ after.world.files =
      m.world.files.put names (.file (Frame.bytesOf Settings.initialToml) executable)
  /-- A target that cannot be written leaves no more than directories behind. -/
  unwritten (settings : Settings) (failure : IoFailure) (inOrder : m.effective s = .ok settings)
    (impossible : m.laidOut (s.paths.select toGlobal) = .error failure) :
    status = 0 ∧ ∃ files, m.world.files.Grown files ∧ after = (m.holding files).say (.ofMembers
      [("success", .bool false), ("error", .string failure.message)])

theorem runLine_forced {words : List String} {toGlobal : Bool}
    (isSetUp : Arguments.read words = .ok (.configInit toGlobal true)) (s : Surroundings)
    (m : Machine) :
    Forced s toGlobal m (m.run (runLine s words)).1 (m.run (runLine s words)).2 := by
  have carriedOut {settings : Settings} (inOrder : m.effective s = .ok settings) :
      m.run (runLine s words) = (0, (m.run (setUp s toGlobal true).run).2) := by
    rw [run_runLine isSetUp, inOrder]
    simp only [execute, run_setUp]
  have refused {e : SettingsError} (fault : m.effective s = .error e) :
      m.run (runLine s words) =
        (2, m.say (Report.envelope (.error ("Failed to initialize: " ++ e.message)))) := by
    rw [run_runLine isSetUp, fault]
  refine ⟨fun e fault => ?_, fun ofGlobal content found malformed => ?_,
    fun settings files inOrder possible => ?_,
    fun settings parent names content executable inOrder isParent isDirectory isFile => ?_,
    fun settings failure inOrder impossible => ?_⟩
  · rw [refused fault]
    exact ⟨rfl, rfl⟩
  · -- Whether or not it is the first fault that is found, a malformed file is one.
    cases loaded : m.effective s with
    | error e =>
      rw [refused loaded]
      exact ⟨rfl, rfl⟩
    | ok settings =>
      obtain ⟨read, isRead⟩ := Machine.effective_ok loaded ofGlobal
      simp [found, SettingsFile.settings?, malformed] at isRead
  · rw [carriedOut inOrder, run_setUp, Machine.run_initSettings_laidOut possible]
    have shown := congrArg (m.holding files).say
      (envelope_initReport s toGlobal (s.paths.select toGlobal))
    exact ⟨rfl, shown, Machine.laidOut_spec possible⟩
  · have possible := Machine.laidOut_file isParent isDirectory isFile
    rw [carriedOut inOrder, run_setUp, Machine.run_initSettings_laidOut possible]
    exact ⟨rfl, rfl⟩
  · obtain ⟨files, grown, run⟩ := Machine.run_initSettings_impossible impossible
    rw [carriedOut inOrder, run_setUp, run]
    exact ⟨rfl, files, grown, rfl⟩

example : Arguments.read ["config", "init", "--global", "--force"] = .ok (.configInit true true) := rfl

theorem runLine_forced_project :
    Arguments.read forceWords = .ok (.configInit false true) ∧
    (forced "[server]\nshutdown_timeout_secs = 9\n").1 = 0 ∧
    (forced "[server]\nshutdown_timeout_secs = 9\n").2.world.files =
      projectWith Settings.initialToml ∧
    (forced "[server\n").1 = 2 ∧ (forced "[server\n").2.world.files = projectWith "[server\n" := by
  have isSetUp : Arguments.read forceWords = .ok (.configInit false true) := rfl
  have wellFormed : Settings.ofToml? "[server]\nshutdown_timeout_secs = 9\n" =
      some ⟨"lean", 9, .default⟩ := by decide +kernel
  have inOrder := machineWith_effective "[server]\nshutdown_timeout_secs = 9\n"
  rw [wellFormed] at inOrder
  obtain ⟨done, mended, -⟩ := (runLine_forced isSetUp inProject _).written _ _ inOrder
    (machineWith_laidOut _)
  have malformed : Settings.ofToml? "[server\n" = none := by decide
  have found : (machineWith "[server\n").settingsFile (inProject.paths.select false) =
      .text "[server\n" := by
    rw [inProject_paths]
    exact Machine.settingsFile_file (projectWith_locate "[server\n").2.2
  obtain ⟨refused, kept⟩ := (runLine_forced isSetUp inProject _).unmended _ _ found malformed
  refine ⟨isSetUp, done, ?_, refused, congrArg ScriptWorld.files kept⟩
  rw [forced, mended]
  rfl

/-- A file that cannot be read as settings is not overwritten, though it could be. -/
theorem malformed_kept :
    ¬∀ (s : Surroundings) (m : Machine) (files : FileTree),
      m.laidOut (s.paths.select false) = .ok files →
      (m.run (runLine s forceWords)).1 = 0 ∧
        (m.run (runLine s forceWords)).2.settingsFile (s.paths.select false) =
          .text Settings.initialToml := by
  intro always
  have status := (always inProject (machineWith "[server\n") _ (machineWith_laidOut _)).1
  have malformed : Settings.ofToml? "[server\n" = none := by decide
  have isSetUp : Arguments.read forceWords = .ok (.configInit false true) := rfl
  rw [run_runLine isSetUp, machineWith_effective, malformed] at status
  cases status

end Command

end LanguageClient
