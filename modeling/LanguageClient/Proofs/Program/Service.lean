import LanguageClient.Proofs.Program.Runs
import LanguageClient.Proofs.Report

/-! The course of a command that uses a server: work on files, the start of the server, some steps with
it, one question, and the end. Only a command that has come to its question stops the server and prints
a report; a setback on the way is the end of the command. -/
namespace LanguageClient

namespace Action

def isOnFiles : Action → Bool
  | .exists _ | .readText _ | .canonicalPath _ | .writeText _ _ | .makeDirectories _ => true
  | _ => false

def isStep : Action → Bool
  | .readText _ | .openDocument _ | .refreshDependencies _ | .wait _ => true
  | _ => false

def isQuestion : Action → Bool
  | .askGoal _ _ | .publishedDiagnostics _ => true
  | _ => false

end Action

/-- Why a command gives up while the server runs. -/
def Exchange.setback? : Exchange → Option String
  | ⟨.readText _, .error failure⟩ => some failure.message
  | ⟨.openDocument _, .error e⟩ => some e.message
  | ⟨.refreshDependencies _, .error e⟩ => some e.message
  | _ => none

def Exchange.complaint? : Exchange → Option String
  | ⟨.askGoal _ _, .error e⟩ => some e.message
  | ⟨.publishedDiagnostics _, .error e⟩ => some e.message
  | _ => none

namespace Command

inductive Service : List Exchange → Except String Unit → Prop
  | step {exchange : Exchange} {trace : List Exchange} {result : Except String Unit}
      (isStep : exchange.1.isStep = true) (smooth : exchange.setback? = none)
      (rest : Service trace result) : Service (exchange :: trace) result
  | abandoned {exchange : Exchange} {text : String} (isStep : exchange.1.isStep = true)
      (setback : exchange.setback? = some text) : Service [exchange] (.error text)
  | finished {question : Exchange} {stopped : Except ClientError Unit} {outcome : Except String Json}
      (isQuestion : question.1.isQuestion = true)
      (told : ∀ text, outcome = .error text ↔ question.complaint? = some text)
      (presentable : Report.Presentable outcome) :
      Service [question, ⟨.stopServer, stopped⟩, ⟨.print (Report.text outcome), ()⟩] (.ok ())

inductive Course (server : ServerSettings) (root : String) : List Exchange → Except String Unit → Prop
  | file {exchange : Exchange} {trace : List Exchange} {result : Except String Unit}
      (onFiles : exchange.1.isOnFiles = true) (rest : Course server root trace result) :
      Course server root (exchange :: trace) result
  | unstarted {text : String} : Course server root [] (.error text)
  | failed {e : ClientError} : Course server root [⟨.startServer server root, .error e⟩] (.error e.message)
  | started {trace : List Exchange} {result : Except String Unit} (service : Service trace result) :
      Course server root (⟨.startServer server root, .ok ()⟩ :: trace) result

def Obeys (p : Fallible Unit) (law : List Exchange → Except String Unit → Prop) : Prop :=
  ∀ ⦃trace result⦄, p.run.Runs trace result → law trace result

section Laws
open Program

variable {α ε : Type} {server : ServerSettings} {root : String}

private theorem Course.files {before trace : List Exchange} {result : Except String Unit}
    (onFiles : ∀ exchange ∈ before, exchange.1.isOnFiles = true) (rest : Course server root trace result) :
    Course server root (before ++ trace) result := by
  induction before with
  | nil => exact rest
  | cons exchange before ih =>
    obtain ⟨first, others⟩ := List.forall_mem_cons.1 onFiles
    exact .file first (ih others)

private theorem obeys_course_of_files {p : Fallible α} {f : α → Fallible Unit}
    (onFiles : AsksOnly Action.isOnFiles p.run) (next : ∀ a, Obeys (f a) (Course server root)) :
    Obeys (p >>= f) (Course server root) := by
  intro trace result run
  obtain ⟨text, alone, rfl⟩ | ⟨a, first, second, rfl, before, after⟩ := runs_then_iff.1 run
  · rw [← List.append_nil trace]
    exact .files (onFiles.of_mem alone) .unstarted
  · exact .files (onFiles.of_mem before) (next a after)

private theorem obeys_course_of_start {s : Surroundings} {settings : Settings} {next : Unit → Fallible Unit}
    (service : ∀ u, Obeys (next u) Service) :
    Obeys (start s settings >>= next) (Course settings.server s.workingDirectory) := by
  intro trace result run
  obtain ⟨text, alone, rfl⟩ | ⟨u, first, second, rfl, before, after⟩ := runs_then_iff.1 run
  · obtain ⟨found, asked, same⟩ := runs_attempt_iff.1 alone
    obtain rfl := runs_perform_iff.1 asked
    cases found with
    | ok u => cases same
    | error e =>
      cases same
      exact .failed
  · obtain ⟨found, asked, same⟩ := runs_attempt_iff.1 before
    obtain rfl := runs_perform_iff.1 asked
    cases found with
    | ok u => exact .started (service _ after)
    | error e => cases same

def TakesStep (message : ε → String) (p : Program (Except ε α)) : Prop :=
  ∀ ⦃trace found⦄, p.Runs trace found → ∃ exchange : Exchange, trace = [exchange] ∧
    exchange.1.isStep = true ∧ ∀ text, exchange.setback? = some text ↔ ∃ e, found = .error e ∧ message e = text

private theorem obeys_service_of_step {message : ε → String} {p : Program (Except ε α)} {f : α → Fallible Unit}
    (step : TakesStep message p) (next : ∀ a, Obeys (f a) Service) :
    Obeys (attempt message p >>= f) Service := by
  intro trace result run
  obtain ⟨text, alone, rfl⟩ | ⟨a, first, second, rfl, before, after⟩ := runs_then_iff.1 run
  · obtain ⟨found, asked, same⟩ := runs_attempt_iff.1 alone
    obtain ⟨exchange, rfl, isStep, setback⟩ := step asked
    cases found with
    | ok a => cases same
    | error e =>
      cases same
      exact .abandoned isStep ((setback _).2 ⟨e, rfl, rfl⟩)
  · obtain ⟨found, asked, same⟩ := runs_attempt_iff.1 before
    obtain ⟨exchange, rfl, isStep, setback⟩ := step asked
    cases found with
    | ok a =>
      cases same
      have smooth : exchange.setback? = none := by
        refine Option.eq_none_iff_forall_ne_some.2 fun text given => ?_
        obtain ⟨e, different, -⟩ := (setback text).1 given
        cases different
      exact .step isStep smooth (next _ after)
    | error e => cases same

private theorem takesStep_openDocument (document : TextDocument) :
    TakesStep (α := Bool) ClientError.message (perform (.openDocument document)) := by
  intro trace found run
  obtain rfl := runs_perform_iff.1 run
  refine ⟨_, rfl, rfl, fun text => ?_⟩
  cases found <;> simp [Exchange.setback?]

private theorem takesStep_refreshDependencies (document : TextDocument) :
    TakesStep (α := Unit) ClientError.message (perform (.refreshDependencies document)) := by
  intro trace found run
  obtain rfl := runs_perform_iff.1 run
  refine ⟨_, rfl, rfl, fun text => ?_⟩
  cases found <;> simp [Exchange.setback?]

private theorem takesStep_readDocument (s : Surroundings) (path : String) :
    TakesStep IoFailure.message (readDocument s path) := by
  intro trace found run
  obtain ⟨answer, first, second, rfl, asked, last⟩ := runs_bind_iff.1 run
  obtain rfl := runs_perform_iff.1 asked
  cases answer with
  | error failure =>
    obtain ⟨rfl, rfl⟩ := runs_pure_iff.1 last
    exact ⟨_, rfl, rfl, by simp [Exchange.setback?]⟩
  | ok text =>
    obtain ⟨rfl, rfl⟩ := runs_pure_iff.1 last
    exact ⟨_, rfl, rfl, by simp [Exchange.setback?]⟩

private theorem obeys_service_of_wait {milliseconds : Nat} {next : Unit → Fallible Unit}
    (service : ∀ u, Obeys (next u) Service) :
    Obeys (ExceptT.lift (perform (.wait milliseconds)) >>= next) Service := by
  intro trace result run
  obtain ⟨u, first, second, rfl, asked, after⟩ := runs_lift_then_iff.1 run
  obtain rfl := runs_perform_iff.1 asked
  exact .step rfl rfl (service u after)

private theorem runs_finish {trace : List Exchange} {result : Except String Unit}
    (run : finish.run.Runs trace result) :
    ∃ stopped, trace = [⟨.stopServer, stopped⟩] ∧ result = .ok () := by
  obtain ⟨stopped, first, second, rfl, asked, last⟩ := runs_lift_then_iff.1 run
  obtain rfl := runs_perform_iff.1 asked
  obtain ⟨rfl, rfl⟩ := runs_pure_iff.1 last
  exact ⟨stopped, rfl, rfl⟩

def AsksQuestion (outcome : Except ClientError α → Except String Json) (p : Program (Except ClientError α)) :
    Prop :=
  ∀ ⦃trace found⦄, p.Runs trace found → ∃ question : Exchange, trace = [question] ∧
    question.1.isQuestion = true ∧ ∀ text, outcome found = .error text ↔ question.complaint? = some text

private theorem obeys_service_of_question {outcome : Except ClientError α → Except String Json}
    {p : Program (Except ClientError α)} (question : AsksQuestion outcome p)
    (presentable : ∀ found, Report.Presentable (outcome found)) :
    Obeys (do let found ← ExceptT.lift p; finish; report (outcome found)) Service := by
  intro trace result run
  obtain ⟨found, first, rest, rfl, asked, further⟩ := runs_lift_then_iff.1 run
  obtain ⟨exchange, rfl, isQuestion, told⟩ := question asked
  obtain ⟨text, alone, rfl⟩ | ⟨u, second, third, rfl, before, after⟩ := runs_then_iff.1 further
  · obtain ⟨stopped, -, different⟩ := runs_finish alone
    cases different
  · obtain ⟨stopped, rfl, -⟩ := runs_finish before
    obtain ⟨rfl, rfl⟩ := runs_report_iff.1 after
    exact .finished isQuestion told (presentable _)

private theorem obeys_showArrived (s : Surroundings) (file uri : String) (waitMs : UInt64)
    {encode : Report.FileDiagnostics → Json} (presentable : ∀ r, Report.Presentable (.ok (encode r))) :
    Obeys (showArrived s file uri waitMs encode) Service := by
  refine obeys_service_of_wait fun _ => obeys_service_of_question (fun trace found run => ?_) fun found => ?_
  · obtain rfl := runs_perform_iff.1 run
    refine ⟨_, rfl, rfl, fun text => ?_⟩
    cases found <;> simp [Exchange.complaint?]
  · cases found with
    | ok arrived => exact presentable _
    | error e => trivial

private theorem asksOnly_absoluteFile (s : Surroundings) (path : String) :
    AsksOnly Action.isOnFiles (absoluteFile s path) := by
  refine (asksOnly_perform rfl).bind fun found => ?_
  cases found <;> exact asksOnly_pure _

private theorem asksOnly_absoluteLocation (s : Surroundings) (text : String) :
    AsksOnly Action.isOnFiles (absoluteLocation s text) := by
  unfold absoluteLocation
  cases Location.parse text with
  | error e => exact asksOnly_pure _
  | ok location =>
    refine (asksOnly_absoluteFile s location.file).bind fun found => ?_
    cases found <;> exact asksOnly_pure _

private theorem asksOnly_readDocument (s : Surroundings) (path : String) :
    AsksOnly Action.isOnFiles (readDocument s path) := by
  refine (asksOnly_perform rfl).bind fun found => ?_
  cases found <;> exact asksOnly_pure _

private theorem asksOnly_openFile (s : Surroundings) (path : String) :
    AsksOnly Action.isOnFiles (openFile s path).run :=
  (asksOnly_absoluteFile s path).attempt.andThen fun file =>
    (asksOnly_readDocument s file).attempt.andThen fun _ => asksOnly_pure _

private theorem obeys_showGoal (s : Surroundings) (settings : Settings) (text : String) :
    Obeys (showGoal s settings text) (Course settings.server s.workingDirectory) := by
  refine obeys_course_of_files (asksOnly_absoluteLocation s text).attempt fun location => ?_
  refine obeys_course_of_files (asksOnly_readDocument s location.file).attempt fun document => ?_
  have checked : AsksOnly Action.isOnFiles
      (orFail LocationError.message (location.validate document.text)).run := by
    cases location.validate document.text <;> exact asksOnly_pure _
  refine obeys_course_of_files checked fun _ => obeys_course_of_start fun _ => ?_
  refine obeys_service_of_step (takesStep_openDocument document) fun _ => ?_
  refine obeys_service_of_question (fun trace found run => ?_) fun found => ?_
  · obtain rfl := runs_perform_iff.1 run
    refine ⟨_, rfl, rfl, fun text => ?_⟩
    cases found <;> simp [Exchange.complaint?]
  · cases found with
    | ok shown => exact Report.presentable_goal _
    | error e => trivial

private theorem obeys_showDiagnostics (s : Surroundings) (settings : Settings) (path : String) (waitMs : UInt64) :
    Obeys (showDiagnostics s settings path waitMs) (Course settings.server s.workingDirectory) := by
  refine obeys_course_of_files (asksOnly_openFile s path) fun (file, document) => ?_
  refine obeys_course_of_start fun _ => obeys_service_of_step (takesStep_openDocument document) fun _ => ?_
  exact obeys_showArrived s file document.uri waitMs fun r => (Report.presentable_diagnostics r).1

private theorem obeys_showRefreshed (s : Surroundings) (settings : Settings) (path : String) (waitMs : UInt64) :
    Obeys (showRefreshed s settings path waitMs) (Course settings.server s.workingDirectory) := by
  refine obeys_course_of_files (asksOnly_openFile s path) fun (file, document) => ?_
  refine obeys_course_of_start fun _ => obeys_service_of_step (takesStep_openDocument document) fun _ => ?_
  refine obeys_service_of_step (takesStep_readDocument s file) fun current => ?_
  refine obeys_service_of_step (takesStep_refreshDependencies current) fun _ => ?_
  exact obeys_showArrived s file current.uri waitMs fun r => (Report.presentable_diagnostics r).2

/-- The command needs a server. -/
def usesServer : Command → Bool
  | .goal _ | .diagnostics _ _ | .refresh _ _ => true
  | _ => false

theorem obeys_execute (s : Surroundings) (settings : Settings) {command : Command}
    (serves : command.usesServer = true) :
    Obeys (execute s settings command) (Course settings.server s.workingDirectory) := by
  cases command with
  | goal location => exact obeys_showGoal s settings location
  | diagnostics file waitMs => exact obeys_showDiagnostics s settings file waitMs
  | refresh file waitMs => exact obeys_showRefreshed s settings file waitMs
  | configInit | configShow | configPath => contradiction

end Laws
end Command
end LanguageClient
