import LanguageClient.Proofs.Json.Record
import LanguageClient.Proofs.Program.Startup
import LanguageClient.Proofs.Settings.Overrides

/-! Settings in three layers. A file gives a table of settings, of which each may be left out; what is
left out has its default, also where another file would give it. The variables of the environment come
last, each for its own setting. How a table is read from a text is left open here; that a text of settings
is read as a table whose gaps are filled is shown for the form that files have. -/
namespace LanguageClient

/-- The settings that a file gives. -/
structure SettingsTable where
  executablePath : Option String
  shutdownTimeout : Option UInt64
  loggingEnabled : Option Bool
  loggingPath : Option String

namespace SettingsTable

def empty : SettingsTable := ⟨none, none, none, none⟩

def complete (t : SettingsTable) : Settings :=
  ⟨t.executablePath.getD "lean", t.shutdownTimeout.getD 5, t.loggingEnabled.getD false, t.loggingPath.getD "."⟩

def ofLogging (enabled : Option Bool) (path : Option String) : SettingsTable := ⟨none, none, enabled, path⟩

def ofServer (executablePath : Option String) (shutdownTimeout : Option UInt64) (logging : Option SettingsTable) :
    SettingsTable :=
  { logging.getD empty with executablePath := executablePath, shutdownTimeout := shutdownTimeout }

open Json (Decoder Record)

def loggingRecord : Record SettingsTable :=
  ofLogging <$> .ifPresent "enabled" Decoder.bool <*> .ifPresent "path" Decoder.path

def serverRecord (spare : Bool) : Record SettingsTable :=
  ofServer <$> .ifPresent "executable_path" Decoder.string
    <*> .ifPresent "shutdown_timeout_secs" Decoder.uint64
    <*> .ifPresent "logging" (loggingRecord.decodeWith spare "ServerLoggingConfig")

def record (spare : Bool) : Record SettingsTable :=
  (fun server => server.getD empty) <$>
    .ifPresent "server" ((serverRecord spare).decodeWith spare "ServerConfig")

def ofToml? (text : String) : Option SettingsTable := do
  let value ← Toml.parse? text
  ((record true).decodeWith true "LeanConfig" value.toShape).toOption

private theorem loggingRecord_eq :
    LoggingSettings.record = (fun t => t.complete.server.logging) <$> loggingRecord := by
  unfold LoggingSettings.record loggingRecord
  simp only [Record.withDefault_eq_ifPresent, Record.map_seq, Record.seq_map, Record.map_map]
  rfl

private theorem serverRecord_eq (spare : Bool) :
    ServerSettings.record spare = (fun t => t.complete.server) <$> serverRecord spare := by
  have logging : LoggingSettings.decodeWith spare = fun j =>
      (loggingRecord.decodeWith spare "ServerLoggingConfig" j).map fun t => t.complete.server.logging := by
    funext j
    rw [LoggingSettings.decodeWith, loggingRecord_eq, Record.decodeWith_map]
  unfold ServerSettings.record serverRecord
  rw [logging]
  simp only [Record.withDefault_eq_ifPresent, Record.ifPresent_map, Record.map_seq, Record.seq_map, Record.map_map]
  congr 3
  funext _ _ logging
  cases logging <;> rfl

private theorem record_eq (spare : Bool) : Settings.record spare = complete <$> record spare := by
  have server : ServerSettings.decodeWith spare = fun j =>
      ((serverRecord spare).decodeWith spare "ServerConfig" j).map fun t => t.complete.server := by
    funext j
    rw [ServerSettings.decodeWith, serverRecord_eq, Record.decodeWith_map]
  unfold Settings.record record
  rw [server]
  simp only [Record.withDefault_eq_ifPresent, Record.ifPresent_map, Record.map_map]
  congr 1
  funext server
  cases server <;> rfl

/-- The settings in a text are those of the table in it. -/
theorem settings_ofToml? (text : String) : Settings.ofToml? text = (ofToml? text).map complete := by
  unfold Settings.ofToml? ofToml? Settings.decodeWith
  cases Toml.parse? text with
  | none => rfl
  | some value =>
    simp only [record_eq, Record.decodeWith_map, Option.bind_eq_bind, Option.bind_some]
    cases (record true).decodeWith true "LeanConfig" value.toShape <;> rfl

end SettingsTable

section
variable (parse : String → Option SettingsTable)

/-- The settings in texts of tables. -/
def completing (text : String) : Option Settings := (parse text).map SettingsTable.complete

def SettingsFile.Faulty : SettingsFile → Prop
  | .absent => False
  | .unreadable _ => True
  | .text content => parse content = none

namespace Settings

inductive Counts : (global project : SettingsFile) → SettingsTable → Prop
  | project (global : SettingsFile) {content : String} {table : SettingsTable}
      (found : parse content = some table) : Counts global (.text content) table
  | global {content : String} {table : SettingsTable} (found : parse content = some table) :
      Counts (.text content) .absent table
  | neither : Counts .absent .absent .empty

/-- What comes of settings in all layers. -/
structure Layered (global project : SettingsFile) (env : Environment) (outcome : Except SettingsError Settings) :
    Prop where
  fails : (∃ e, outcome = .error e) ↔ global.Faulty parse ∨ project.Faulty parse ∨ MisreadSwitch env
  settles : ∀ settings, outcome = .ok settings →
    ∃ table, Counts parse global project table ∧ Overridden env table.complete settings

/-- What comes of settings in the file of the user alone. -/
structure OfUser (global : SettingsFile) (outcome : Except SettingsError Settings) : Prop where
  fails : (∃ e, outcome = .error e) ↔ global.Faulty parse
  settles : ∀ settings, outcome = .ok settings →
    ∃ table, Counts parse global .absent table ∧ settings = table.complete

end Settings

def SettingsFile.table? : SettingsFile → Option (Option SettingsTable)
  | .absent => some none
  | .unreadable _ => none
  | .text content => (parse content).map some

variable {parse}

private theorem SettingsFile.table?_eq_none_iff {file : SettingsFile} :
    file.table? parse = none ↔ file.Faulty parse := by
  cases file <;> simp [table?, Faulty]

private theorem SettingsFile.settings?_of_table? (path : String) {file : SettingsFile}
    {found : Option SettingsTable}
    (given : file.table? parse = some found) :
    file.settings? (completing parse) path = .ok (found.map SettingsTable.complete) := by
  cases file with
  | absent =>
    cases given
    rfl
  | unreadable => contradiction
  | text content =>
    obtain ⟨table, read, rfl⟩ := Option.map_eq_some_iff.1 given
    simp [settings?, completing, read]

private theorem SettingsFile.settings?_of_faulty (path : String) {file : SettingsFile}
    (faulty : file.Faulty parse) :
    ∃ e, file.settings? (completing parse) path = .error e := by
  cases file with
  | absent => contradiction
  | unreadable failure => exact ⟨.io failure, rfl⟩
  | text content =>
    have unread : parse content = none := faulty
    exact ⟨.malformed path, by simp [settings?, completing, unread]⟩

namespace Settings

private theorem counts_of_table? {global project : SettingsFile} {user own : Option SettingsTable}
    (ofGlobal : global.table? parse = some user) (ofProject : project.table? parse = some own) :
    Counts parse global project ((own.or user).getD .empty) := by
  cases project with
  | unreadable => contradiction
  | text content =>
    obtain ⟨table, read, rfl⟩ := Option.map_eq_some_iff.1 ofProject
    exact .project global read
  | absent =>
    cases ofProject
    cases global with
    | absent =>
      cases ofGlobal
      exact .neither
    | unreadable => contradiction
    | text content =>
      obtain ⟨table, read, rfl⟩ := Option.map_eq_some_iff.1 ofGlobal
      exact .global read

private theorem ofGlobal_ofUser (paths : SettingsPaths) (global : SettingsFile) :
    OfUser parse global (ofGlobal (completing parse) paths global) := by
  unfold ofGlobal
  cases given : global.table? parse with
  | none =>
    have faulty := SettingsFile.table?_eq_none_iff.1 given
    obtain ⟨e, fails⟩ := SettingsFile.settings?_of_faulty paths.global faulty
    rw [fails]
    exact ⟨⟨fun _ => faulty, fun _ => ⟨e, rfl⟩⟩, fun _ loaded => by contradiction⟩
  | some user =>
    have sound : ¬global.Faulty parse := by simp [← SettingsFile.table?_eq_none_iff, given]
    rw [SettingsFile.settings?_of_table? paths.global given]
    refine ⟨⟨fun ⟨_, fails⟩ => by contradiction, fun faulty => absurd faulty sound⟩, fun _ loaded => ?_⟩
    cases loaded
    refine ⟨_, counts_of_table? given rfl, ?_⟩
    cases user <;> rfl

private theorem effective_of_tables (paths : SettingsPaths) {global project : SettingsFile} (env : Environment)
    {user own : Option SettingsTable} (ofGlobal : global.table? parse = some user)
    (ofProject : project.table? parse = some own) :
    effective (completing parse) paths global project env =
      ((own.or user).getD .empty).complete.withEnvironment env := by
  have table : ((own.map SettingsTable.complete).or (user.map SettingsTable.complete)).getD .default =
      ((own.or user).getD .empty).complete := by
    cases own <;> cases user <;> rfl
  unfold effective
  rw [SettingsFile.settings?_of_table? paths.global ofGlobal,
    SettingsFile.settings?_of_table? paths.project ofProject, ← table]
  rfl

private theorem effective_of_faulty (paths : SettingsPaths) {global project : SettingsFile} (env : Environment)
    (faulty : global.Faulty parse ∨ project.Faulty parse) :
    ∃ e, effective (completing parse) paths global project env = .error e := by
  unfold effective
  cases first : global.settings? (completing parse) paths.global with
  | error e => exact ⟨e, rfl⟩
  | ok user =>
    have sound : ¬global.Faulty parse := by
      intro faulty
      obtain ⟨e, fails⟩ := SettingsFile.settings?_of_faulty paths.global faulty
      rw [fails] at first
      contradiction
    obtain ⟨e, fails⟩ := SettingsFile.settings?_of_faulty paths.project (faulty.resolve_left sound)
    rw [fails]
    exact ⟨e, rfl⟩

private theorem effective_layered (paths : SettingsPaths) (global project : SettingsFile) (env : Environment) :
    Layered parse global project env (effective (completing parse) paths global project env) := by
  by_cases faulty : global.Faulty parse ∨ project.Faulty parse
  · obtain ⟨e, fails⟩ := effective_of_faulty paths env faulty
    rw [fails]
    exact ⟨⟨fun _ => faulty.imp id .inl, fun _ => ⟨e, rfl⟩⟩, fun _ loaded => by contradiction⟩
  · obtain ⟨userSound, ownSound⟩ := not_or.1 faulty
    obtain ⟨user, ofGlobal⟩ := Option.ne_none_iff_exists'.1 (mt SettingsFile.table?_eq_none_iff.1 userSound)
    obtain ⟨own, ofProject⟩ := Option.ne_none_iff_exists'.1 (mt SettingsFile.table?_eq_none_iff.1 ownSound)
    rw [effective_of_tables paths env ofGlobal ofProject]
    refine ⟨withEnvironment_fails_iff.trans ⟨fun misread => .inr (.inr misread), ?_⟩, fun settings settled => ?_⟩
    · rintro (faulty | faulty | misread)
      · exact absurd faulty userSound
      · exact absurd faulty ownSound
      · exact misread
    · exact ⟨_, counts_of_table? ofGlobal ofProject, withEnvironment_eq_ok_iff.1 settled⟩

end Settings

end

namespace Machine

private theorem run_globalSettings (m : Machine) (s : Surroundings) : m.run (Program.globalSettings s) =
    (Settings.ofGlobal Settings.ofToml? s.paths (m.settingsFile s.paths.global), m) := by
  rw [Program.globalSettings, run_bind, run_findSettings]
  rfl

end Machine

namespace Settings

/-- What comes of settings when a program loads them on a machine. -/
structure Loaded (s : Surroundings) (m : Machine) : Prop where
  effective : Layered SettingsTable.ofToml? (m.settingsFile s.paths.global) (m.settingsFile s.paths.project)
    s.environment (m.run (Program.effectiveSettings s)).1
  ofGlobal : OfUser SettingsTable.ofToml? (m.settingsFile s.paths.global) (m.run (Program.globalSettings s)).1
  /-- Nothing but the file of the user makes a difference to the settings of the user. -/
  alone : ∀ (s' : Surroundings) (m' : Machine), s'.paths.global = s.paths.global →
    m'.settingsFile s.paths.global = m.settingsFile s.paths.global →
    (m'.run (Program.globalSettings s')).1 = (m.run (Program.globalSettings s)).1

private theorem loaded (s : Surroundings) (m : Machine) : Loaded s m := by
  have read : Settings.ofToml? = completing SettingsTable.ofToml? := funext SettingsTable.settings_ofToml?
  refine ⟨?_, ?_, fun s' m' samePath sameFile => ?_⟩
  · rw [Machine.run_effectiveSettings, Machine.effective, read]
    exact effective_layered s.paths _ _ s.environment
  · rw [Machine.run_globalSettings, read]
    exact ofGlobal_ofUser s.paths _
  · rw [Machine.run_globalSettings, Machine.run_globalSettings, samePath, sameFile]
    unfold Settings.ofGlobal
    rw [samePath]

/-- Whatever reads the tables in files, the project's takes the place of the user's as a whole, and the
variables that of single settings; so it is with the tables that programs find in files. -/
theorem settings_layered :
    (∀ (parse : String → Option SettingsTable) (paths : SettingsPaths) (global project : SettingsFile)
      (env : Environment), Layered parse global project env (effective (completing parse) paths global project env) ∧
        OfUser parse global (ofGlobal (completing parse) paths global)) ∧
    ∀ (s : Surroundings) (m : Machine), Loaded s m :=
  ⟨fun _ paths global project env => ⟨effective_layered paths global project env, ofGlobal_ofUser paths global⟩,
    loaded⟩

end Settings

end LanguageClient
