import LanguageClient.Proofs.Program.Service
import LanguageClient.Proofs.Program.Setup

/-! What a command line prints and the status with which it ends. One object is printed in every run. A
failure on the way to what a command is asked for ends with the status of a failure; a failure of that
itself is told in the report and ends with the status of a success. -/
namespace LanguageClient.Command

open Program

def Unanswered (trace : List Exchange) : Prop := ∃ exchange ∈ trace, exchange.complaint?.isSome = true

def FailsOnSettings {α : Type} (s : Surroundings) (work : Program (Except SettingsError α))
    (trace : List Exchange) : Prop :=
  ∃ before middle after settings e, trace = before ++ (middle ++ after) ∧
    (effectiveSettings s).Runs before (.ok settings) ∧ work.Runs middle (.error e)

/-- A command does not come to what it is asked for, and says so in its report. -/
def ToldAsFailure (s : Surroundings) (trace : List Exchange) : Command → Prop
  | .goal _ | .diagnostics _ _ | .refresh _ _ => Unanswered trace
  | .configInit toGlobal force => FailsOnSettings s (initSettings s toGlobal force) trace
  | .configShow true => FailsOnSettings s (globalSettings s) trace
  | .configShow false | .configPath => False

private theorem unanswered_append (first second : List Exchange) :
    Unanswered (first ++ second) ↔ Unanswered first ∨ Unanswered second := by
  simp [Unanswered, or_and_right, exists_or]

private theorem unanswered_cons (exchange : Exchange) (trace : List Exchange) :
    Unanswered (exchange :: trace) ↔ exchange.complaint?.isSome = true ∨ Unanswered trace := by
  simp [Unanswered]

private theorem complaint?_eq_none {exchange : Exchange} (other : exchange.1.isQuestion = false) :
    exchange.complaint? = none := by
  obtain ⟨action, answer⟩ := exchange
  cases action <;> simp_all [Action.isQuestion, Exchange.complaint?]

private theorem isOnFiles_quiet {action : Action} (onFiles : action.isOnFiles = true) :
    action.printed? = none ∧ action.isQuestion = false := by
  cases action <;> simp_all [Action.isOnFiles, Action.printed?, Action.isQuestion]

private theorem isStep_quiet {action : Action} (isStep : action.isStep = true) :
    action.printed? = none ∧ action.isQuestion = false := by
  cases action <;> simp_all [Action.isStep, Action.printed?, Action.isQuestion]

private theorem isQuestion_quiet {action : Action} (isQuestion : action.isQuestion = true) :
    action.printed? = none := by
  cases action <;> simp_all [Action.isQuestion, Action.printed?]

private theorem not_unanswered {trace : List Exchange} (quiet : ∀ exchange ∈ trace, exchange.1.isQuestion = false) :
    ¬Unanswered trace := by
  rintro ⟨exchange, inside, asked⟩
  rw [complaint?_eq_none (quiet exchange inside)] at asked
  cases asked

private theorem printed_files {trace : List Exchange} (onFiles : ∀ exchange ∈ trace, exchange.1.isOnFiles = true) :
    printed trace = [] :=
  List.filterMap_eq_nil_iff.2 fun exchange inside => (isOnFiles_quiet (onFiles exchange inside)).1

private theorem not_unanswered_files {trace : List Exchange}
    (onFiles : ∀ exchange ∈ trace, exchange.1.isOnFiles = true) : ¬Unanswered trace :=
  not_unanswered fun exchange inside => (isOnFiles_quiet (onFiles exchange inside)).2

private theorem failsOnSettings_iff {α : Type} {s : Surroundings} {work : Program (Except SettingsError α)}
    {before middle after : List Exchange} {settings : Settings} {found : Except SettingsError α}
    (inOrder : (effectiveSettings s).Runs before (.ok settings)) (worked : work.Runs middle found) :
    FailsOnSettings s work (before ++ (middle ++ after)) ↔ ∃ e, found = .error e := by
  constructor
  · rintro ⟨otherBefore, otherMiddle, otherAfter, otherSettings, e, split, ordered, failed⟩
    obtain ⟨rfl, -, rest⟩ := inOrder.beginning_unique ordered split
    exact ⟨e, (worked.beginning_unique failed rest).2.1⟩
  · rintro ⟨e, rfl⟩
    exact ⟨before, middle, after, settings, e, rfl, inOrder, worked⟩

private theorem not_failsOnSettings {α : Type} {s : Surroundings} {work : Program (Except SettingsError α)}
    {before after : List Exchange} {e : SettingsError} (fault : (effectiveSettings s).Runs before (.error e)) :
    ¬FailsOnSettings s work (before ++ after) := by
  rintro ⟨otherBefore, middle, otherAfter, settings, -, split, ordered, -⟩
  obtain ⟨-, different, -⟩ := fault.beginning_unique ordered split
  cases different

/-- What a command has printed when it comes to its result; `failed` says that its report tells of a
failure. -/
inductive Comes (failed : Prop) : List String → Except String Unit → Prop
  | reported {outcome : Except String Json} (presentable : Report.Presentable outcome)
      (told : outcome.isOk = false ↔ failed) : Comes failed [Report.text outcome] (.ok ())
  | gaveUp {text : String} (untold : ¬failed) : Comes failed [] (.error text)

private theorem Comes.congr {failed other : Prop} {shown : List String} {result : Except String Unit}
    (comes : Comes failed shown result) (same : failed ↔ other) : Comes other shown result :=
  propext same ▸ comes

private theorem Comes.cons {exchange : Exchange} {trace : List Exchange} {result : Except String Unit}
    (comes : Comes (Unanswered trace) (printed trace) result)
    (quiet : exchange.1.printed? = none ∧ exchange.1.isQuestion = false) :
    Comes (Unanswered (exchange :: trace)) (printed (exchange :: trace)) result := by
  rw [printed_cons_none quiet.1]
  refine comes.congr ?_
  simp [unanswered_cons, complaint?_eq_none quiet.2]

private theorem Service.comes {trace : List Exchange} {result : Except String Unit}
    (service : Service trace result) :
    Comes (Unanswered trace) (printed trace) result := by
  induction service with
  | step isStep _ _ ih => exact ih.cons (isStep_quiet isStep)
  | abandoned isStep =>
    obtain ⟨quiet, other⟩ := isStep_quiet isStep
    rw [printed_cons_none quiet]
    exact .gaveUp (not_unanswered (List.forall_mem_singleton.2 other))
  | @finished question stopped outcome isQuestion told presentable =>
    have asked : Unanswered [question, ⟨.stopServer, stopped⟩, ⟨.print (Report.text outcome), ()⟩] ↔
        question.complaint?.isSome = true := by
      rw [unanswered_cons]
      exact or_iff_left (not_unanswered (List.forall_mem_cons.2 ⟨rfl, List.forall_mem_singleton.2 rfl⟩))
    rw [printed_cons_none (isQuestion_quiet isQuestion)]
    refine .reported presentable (Iff.trans ?_ asked.symm)
    cases outcome with
    | ok payload =>
      have answered : question.complaint? = none :=
        Option.eq_none_iff_forall_ne_some.2 fun text given => nomatch (told text).2 given
      simp [Except.isOk, Except.toBool, answered]
    | error text => simp [Except.isOk, Except.toBool, (told text).1 rfl]

private theorem Course.comes {server : ServerSettings} {root : String} {trace : List Exchange}
    {result : Except String Unit} (course : Course server root trace result) :
    Comes (Unanswered trace) (printed trace) result := by
  induction course with
  | file onFiles _ ih => exact ih.cons (isOnFiles_quiet onFiles)
  | unstarted => exact .gaveUp (not_unanswered (by simp))
  | failed => exact .gaveUp (not_unanswered (List.forall_mem_singleton.2 rfl))
  | started service => exact service.comes.cons ⟨rfl, rfl⟩

private theorem asksOnly_findSettings (path : String) : AsksOnly Action.isOnFiles (findSettings path) := by
  refine (asksOnly_perform rfl).bind fun present => ?_
  cases present with
  | false => exact asksOnly_pure _
  | true =>
    refine (asksOnly_perform rfl).bind fun found => ?_
    cases found <;> exact asksOnly_pure _

private theorem asksOnly_globalSettings (s : Surroundings) : AsksOnly Action.isOnFiles (globalSettings s) :=
  (asksOnly_findSettings _).bind fun _ => asksOnly_pure _

private theorem asksOnly_effectiveSettings (s : Surroundings) :
    AsksOnly Action.isOnFiles (effectiveSettings s) := by
  refine (asksOnly_findSettings _).bind fun global => ?_
  cases global.settings? Settings.ofToml? s.paths.global with
  | error e => exact asksOnly_pure _
  | ok _ => exact (asksOnly_findSettings _).bind fun _ => asksOnly_pure _

private theorem asksOnly_initSettings (s : Surroundings) (toGlobal force : Bool) :
    AsksOnly Action.isOnFiles (initSettings s toGlobal force) := by
  refine (asksOnly_perform rfl).bind fun present => ?_
  split
  · exact asksOnly_pure _
  · dsimp only
    split
    case' h_1 => refine (asksOnly_perform rfl).bind fun made => ?_
    case' h_2 => refine (asksOnly_pure _).bind fun made => ?_
    all_goals
      cases made with
      | error failure => exact asksOnly_pure _
      | ok _ =>
        refine (asksOnly_perform rfl).bind fun written => ?_
        cases written <;> exact asksOnly_pure _

/-- A command that does some work on the files of settings reports what has come of it. -/
theorem comes_of_work {α : Type} {s : Surroundings} {work : Program (Except SettingsError α)}
    {encode : α → Json} {before trace after : List Exchange} {settings : Settings} {result : Except String Unit}
    (onFiles : AsksOnly Action.isOnFiles work) (presentable : ∀ a, Report.Presentable (.ok (encode a)))
    (inOrder : (effectiveSettings s).Runs before (.ok settings))
    (run : Runs (do
      let found ← ExceptT.lift work
      report (Report.outcome (fun a => .ok (encode a)) SettingsError.message found) : Fallible Unit).run trace result) :
    Comes (FailsOnSettings s work (before ++ (trace ++ after))) (printed trace) result := by
  obtain ⟨found, first, last, rfl, worked, reported⟩ := runs_lift_then_iff.1 run
  obtain ⟨rfl, rfl⟩ := runs_report_iff.1 reported
  rw [printed_append, printed_files (onFiles.of_mem worked), List.nil_append, List.append_assoc]
  refine .reported ?_ (Iff.trans ?_ (failsOnSettings_iff inOrder worked).symm)
  · cases found with
    | ok a => exact presentable a
    | error e => trivial
  · cases found with
    | ok a => exact iff_of_false nofun nofun
    | error e => exact iff_of_true rfl ⟨e, rfl⟩

private theorem runs_fileReport {path : String} {trace : List Exchange} {result : Except String Json}
    (run : (fileReport path).run.Runs trace result) : ∃ present, trace = [⟨.exists path, present⟩] ∧
      result = .ok (.ofMembers [("path", .string path), ("exists", .bool present)]) := by
  obtain ⟨present, first, last, rfl, asked, given⟩ := runs_lift_then_iff.1 run
  obtain rfl := runs_perform_iff.1 asked
  obtain ⟨rfl, rfl⟩ := runs_pure_iff.1 given
  exact ⟨present, rfl, rfl⟩

private theorem comes_showPaths {s : Surroundings} {trace : List Exchange} {result : Except String Unit}
    (run : (showPaths s).run.Runs trace result) : Comes False (printed trace) result := by
  obtain ⟨text, failed, rfl⟩ | ⟨global, first, rest, rfl, found, further⟩ := runs_then_iff.1 run
  · obtain ⟨present, -, different⟩ := runs_fileReport failed
    cases different
  obtain ⟨present, rfl, same⟩ := runs_fileReport found
  cases same
  obtain ⟨text, failed, rfl⟩ | ⟨project, second, last, rfl, found, reported⟩ := runs_then_iff.1 further
  · obtain ⟨present, -, different⟩ := runs_fileReport failed
    cases different
  obtain ⟨other, rfl, same⟩ := runs_fileReport found
  cases same
  obtain ⟨rfl, rfl⟩ := runs_report_iff.1 reported
  have file (path : String) (present : Bool) :
      Json.Faithful 3 (.ofMembers [("path", .string path), ("exists", .bool present)]) :=
    (Json.faithful_ofMembers (by simp [Json.faithful_string, Json.faithful_bool]))
  refine .reported (Report.presentable_ofMembers (by simp [Table.keys]) ?_) (by simp [Except.isOk, Except.toBool])
  simp [file]

/-- A command reports, or it leaves a text; `after` is what follows it. -/
theorem comes_of_execute {s : Surroundings} {settings : Settings} {command : Command}
    {before trace after : List Exchange} {result : Except String Unit}
    (inOrder : (effectiveSettings s).Runs before (.ok settings)) (quiet : ¬Unanswered after)
    (run : (execute s settings command).run.Runs trace result) :
    Comes (ToldAsFailure s (before ++ (trace ++ after)) command) (printed trace) result := by
  have served (serves : command.usesServer = true) :
      Comes (Unanswered (before ++ (trace ++ after))) (printed trace) result := by
    refine (obeys_execute s settings serves run).comes.congr ?_
    have onFiles := not_unanswered_files ((asksOnly_effectiveSettings s).of_mem inOrder)
    simp [unanswered_append, onFiles, quiet]
  cases command with
  | goal location => exact served rfl
  | diagnostics file waitMs => exact served rfl
  | refresh file waitMs => exact served rfl
  | configInit toGlobal force =>
    exact comes_of_work (asksOnly_initSettings s toGlobal force) (Report.presentable_setUp s toGlobal) inOrder run
  | configShow ofGlobal =>
    cases ofGlobal with
    | true =>
      exact comes_of_work (asksOnly_globalSettings s) (fun g => Report.presentable_settings "global" g []) inOrder run
    | false =>
      obtain ⟨rfl, rfl⟩ := runs_report_iff.1 run
      exact .reported (Report.presentable_settings _ _ _) (by simp [ToldAsFailure, Except.isOk, Except.toBool])
  | configPath => exact comes_showPaths run

private theorem comes_of_executeWith {fault : SettingsError → String} {s : Surroundings} {command : Command}
    {trace after : List Exchange} {result : Except String Unit} (quiet : ¬Unanswered after)
    (run : (executeWith fault s command).run.Runs trace result) :
    Comes (ToldAsFailure s (trace ++ after) command) (printed trace) result := by
  obtain ⟨text, failed, rfl⟩ | ⟨settings, before, rest, rfl, found, carriedOut⟩ := runs_then_iff.1 run
  · obtain ⟨settings, loaded, same⟩ := runs_attempt_iff.1 failed
    cases settings with
    | ok settings => cases same
    | error e =>
      have onFiles := (asksOnly_effectiveSettings s).of_mem loaded
      rw [printed_files onFiles]
      refine .gaveUp ?_
      cases command with
      | goal | diagnostics | refresh => simp [ToldAsFailure, unanswered_append, not_unanswered_files onFiles, quiet]
      | configInit toGlobal force => exact not_failsOnSettings loaded
      | configShow ofGlobal =>
        cases ofGlobal with
        | true => exact not_failsOnSettings loaded
        | false => exact id
      | configPath => exact id
  · obtain ⟨loaded, ran, same⟩ := runs_attempt_iff.1 found
    cases loaded with
    | error e => cases same
    | ok loaded =>
      cases same
      rw [printed_append, printed_files ((asksOnly_effectiveSettings s).of_mem ran), List.nil_append,
        List.append_assoc]
      exact comes_of_execute ran quiet carriedOut

/-- A command line that is a command prints one object, whatever it meets with. It ends as a failure
just if it fails on the way to what it is asked for; where that itself fails it ends as a success,
though the object says otherwise. -/
theorem runLine_reported {words : List String} {command : Command}
    (isCommand : Arguments.read words = .ok command) {s : Surroundings} {trace : List Exchange} {status : Nat}
    (run : (runLine s words).Runs trace status) :
    ∃ text members success, printed trace = [text] ∧ Json.parse? text = some (.object members) ∧
      Table.get? members "success" = some (.bool success) ∧
      (status = 0 ∧ (success = false ↔ ToldAsFailure s trace command) ∨
        status = 2 ∧ success = false ∧ ¬ToldAsFailure s trace command) := by
  simp only [runLine, isCommand] at run
  obtain ⟨result, first, last, rfl, carriedOut, ended⟩ := runs_bind_iff.1 run
  cases result with
  | ok _ =>
    obtain ⟨rfl, rfl⟩ := runs_pure_iff.1 ended
    have quiet : ¬Unanswered [] := not_unanswered (by simp)
    have comes := comes_of_executeWith quiet carriedOut
    rw [List.append_nil] at comes ⊢
    generalize printed first = shown at comes
    cases comes with
    | @reported outcome presentable told =>
      obtain ⟨members, read, tells⟩ := Report.parse?_text presentable
      exact ⟨_, members, outcome.isOk, rfl, read, tells, .inl ⟨rfl, told⟩⟩
  | error text =>
    obtain ⟨answer, shown, nothing, rfl, asked, done⟩ := runs_bind_iff.1 ended
    obtain rfl := runs_perform_iff.1 asked
    obtain ⟨rfl, rfl⟩ := runs_pure_iff.1 done
    have quiet : ¬Unanswered ([⟨.print (Report.text (.error text)), answer⟩] ++ []) :=
      not_unanswered (List.forall_mem_singleton.2 rfl)
    have presentable : Report.Presentable (.error text) := trivial
    have comes := comes_of_executeWith quiet carriedOut
    rw [printed_append]
    generalize printed first = shown at comes
    cases comes with
    | gaveUp untold =>
      obtain ⟨members, read, tells⟩ := Report.parse?_text presentable
      exact ⟨_, members, false, rfl, read, tells, .inr ⟨rfl, rfl, untold⟩⟩

private theorem run_initSettings_existing {m : Machine} {s : Surroundings} {toGlobal : Bool}
    (present : m.world.files.leadsSomewhere m.world.workingDirectory (s.paths.select toGlobal)) :
    m.run (initSettings s toGlobal false) = (.error (.invalidValue "config"
      ("Config already exists: " ++ s.paths.select toGlobal ++ ". Use --force to overwrite.")), m) := by
  rw [initSettings, Machine.run_bind, Machine.run_exists, present]
  rfl

def initWords : List String := ["config", "init"]

def existing : Except String Json :=
  .error ("Invalid value for 'config': Config already exists: /p/.lean-client/config.toml. " ++
    "Use --force to overwrite.")

private theorem existing_presentable : Report.Presentable existing := trivial

private theorem run_existing : (machineWith "[server]\n").run (runLine inProject initWords) =
    (0, (machineWith "[server]\n").say (Report.envelope existing)) := by
  have isCommand : Arguments.read initWords = .ok (.configInit false false) := rfl
  have wellFormed : Settings.ofToml? "[server]\n" = some .default := by decide +kernel
  have path : inProject.paths.select false = "/p/.lean-client/config.toml" := by rw [inProject_paths]; rfl
  have present : (machineWith "[server]\n").world.files.leadsSomewhere
      (machineWith "[server]\n").world.workingDirectory (inProject.paths.select false) := by
    rw [path]
    simp [machineWith, Machine.new, FileTree.leadsSomewhere, FileTree.look?,
      (projectWith_locate "[server]\n").2.2]
  rw [run_runLine isCommand, machineWith_effective, wellFormed]
  simp only [execute, run_setUp, run_initSettings_existing present, path]
  rfl

theorem runLine_reported_existing :
    Arguments.read initWords = .ok (.configInit false false) ∧
    ∃ trace, (runLine inProject initWords).Runs trace 0 ∧ printed trace = [Report.text existing] ∧
      ToldAsFailure inProject trace (.configInit false false) := by
  obtain ⟨trace, run, shown⟩ := (machineWith "[server]\n").run_runs (runLine inProject initWords)
  rw [run_existing] at run shown
  obtain ⟨text, members, success, alone, read, tells, told | ⟨different, -⟩⟩ := runLine_reported rfl run
  · have same : text = Report.text existing := by
      simpa [alone, Machine.say, machineWith, Machine.new, Report.text] using shown.symm
    have failure : success = false := Report.success_eq existing_presentable (same ▸ read) tells
    exact ⟨rfl, trace, run, same ▸ alone, told.2.1 failure⟩
  · cases different

/-- The status of a success does not say that the object printed tells of one. -/
theorem existing_ends_well :
    ¬∀ (s : Surroundings) (m : Machine) (words : List String) (command : Command),
      Arguments.read words = .ok command → ∃ text members success,
        (m.run (runLine s words)).2.printed = m.printed ++ text ∧
        Json.parse? text = some (.object members) ∧ Table.get? members "success" = some (.bool success) ∧
        ((m.run (runLine s words)).1 = 0 ↔ success = true) := by
  intro always
  obtain ⟨text, members, success, shown, read, tells, status⟩ :=
    always inProject (machineWith "[server]\n") initWords _ rfl
  rw [run_existing] at shown status
  have same : text = Report.text existing := by
    simpa [Machine.say, machineWith, Machine.new, Report.text] using shown.symm
  have failure : success = false := Report.success_eq existing_presentable (same ▸ read) tells
  exact absurd (status.1 rfl) (ne_true_of_eq_false failure)

end LanguageClient.Command
