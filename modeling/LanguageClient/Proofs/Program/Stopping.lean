import LanguageClient.Proofs.Program.Service

/-! The end of a server that a command has started. It is stopped once if the command comes to its
question, whatever the answer is. A setback before, and that is a document that cannot be opened, read
or refreshed again, ends the command while the server runs. -/
namespace LanguageClient.Command

/-- How a command leaves the server that it has started, by what it goes through from then on. -/
inductive Leaves : List Exchange → Except String Unit → Prop
  /-- The server is stopped once, and all that is left to do is to print a report. -/
  | stopped {between : List Exchange} {answer : Except ClientError Unit} {report : String}
      (smooth : ∀ exchange ∈ between, exchange.setback? = none)
      (once : ∀ exchange ∈ between, exchange.1 ≠ .stopServer) :
      Leaves (between ++ [⟨.stopServer, answer⟩, ⟨.print report, ()⟩]) (.ok ())
  /-- The first setback ends the command, and the server is not stopped. -/
  | running {between : List Exchange} {exchange : Exchange} {text : String}
      (smooth : ∀ exchange ∈ between, exchange.setback? = none) (setback : exchange.setback? = some text)
      (never : ∀ other ∈ between ++ [exchange], other.1 ≠ .stopServer) :
      Leaves (between ++ [exchange]) (.error text)

private theorem Leaves.cons {exchange : Exchange} {trace : List Exchange} {result : Except String Unit}
    (leaves : Leaves trace result) (smooth : exchange.setback? = none) (goesOn : exchange.1 ≠ .stopServer) :
    Leaves (exchange :: trace) result := by
  cases leaves with
  | @stopped between _ _ smooths once =>
    exact @stopped (exchange :: between) _ _ (List.forall_mem_cons.2 ⟨smooth, smooths⟩)
      (List.forall_mem_cons.2 ⟨goesOn, once⟩)
  | @running between _ _ smooths setback never =>
    exact @running (exchange :: between) _ _ (List.forall_mem_cons.2 ⟨smooth, smooths⟩) setback
      (List.forall_mem_cons.2 ⟨goesOn, never⟩)

private theorem Leaves.stops_iff {trace : List Exchange} {result : Except String Unit}
    (leaves : Leaves trace result) :
    (∃ answer, ⟨.stopServer, answer⟩ ∈ trace) ↔ ∀ exchange ∈ trace, exchange.setback? = none := by
  cases leaves with
  | @stopped _ answer _ smooth =>
    refine iff_of_true ⟨answer, by simp⟩ (List.forall_mem_append.2 ⟨smooth, ?_⟩)
    simp [Exchange.setback?]
  | @running _ exchange _ _ setback never =>
    refine iff_of_false (not_exists.2 fun answer inside => never _ inside rfl) fun smooth => ?_
    rw [smooth exchange (by simp)] at setback
    cases setback

private theorem goesOn_of_isStep {exchange : Exchange} (isStep : exchange.1.isStep = true) :
    exchange.1 ≠ .stopServer ∧ ∀ server root, exchange.1 ≠ .startServer server root := by
  obtain ⟨action, answer⟩ := exchange
  cases action <;> simp_all [Action.isStep]

private theorem goesOn_of_isQuestion {exchange : Exchange} (isQuestion : exchange.1.isQuestion = true) :
    exchange.setback? = none ∧ exchange.1 ≠ .stopServer ∧
      ∀ server root, exchange.1 ≠ .startServer server root := by
  obtain ⟨action, answer⟩ := exchange
  cases action <;> simp_all [Action.isQuestion, Exchange.setback?]

private theorem Service.leaves {trace : List Exchange} {result : Except String Unit}
    (service : Service trace result) :
    Leaves trace result := by
  induction service with
  | step isStep smooth _ ih => exact ih.cons smooth (goesOn_of_isStep isStep).1
  | abandoned isStep setback =>
    exact @Leaves.running [] _ _ (by simp) setback (by simpa using (goesOn_of_isStep isStep).1)
  | @finished question _ _ isQuestion =>
    obtain ⟨smooth, goesOn, -⟩ := goesOn_of_isQuestion isQuestion
    exact @Leaves.stopped [question] _ _ (by simpa using smooth) (by simpa using goesOn)

private theorem Service.no_start {trace : List Exchange} {result : Except String Unit}
    (service : Service trace result)
    (server : ServerSettings) (root : String) : ∀ exchange ∈ trace, exchange.1 ≠ .startServer server root := by
  induction service with
  | step isStep _ _ ih => exact List.forall_mem_cons.2 ⟨(goesOn_of_isStep isStep).2 server root, ih⟩
  | abandoned isStep => simpa using (goesOn_of_isStep isStep).2 server root
  | finished isQuestion => simpa using (goesOn_of_isQuestion isQuestion).2.2 server root

/-- A command that uses a server starts one server at most. -/
theorem Course.service {server started : ServerSettings} {root place : String} {trace before after : List Exchange}
    {result : Except String Unit} (course : Course server root trace result)
    (split : trace = before ++ ⟨.startServer started place, .ok ()⟩ :: after) : Service after result := by
  induction course generalizing before with
  | file onFiles _ ih =>
    cases before with
    | nil =>
      obtain ⟨rfl, -⟩ := List.cons.inj split
      cases onFiles
    | cons first before => exact ih (List.cons.inj split).2
  | unstarted => simp at split
  | failed => cases before <;> simp at split
  | started service =>
    cases before with
    | nil =>
      obtain ⟨-, rfl⟩ := List.cons.inj split
      exact service
    | cons first before =>
      obtain ⟨-, rfl⟩ := List.cons.inj split
      exact absurd rfl (service.no_start started place ⟨.startServer started place, .ok ()⟩ (by simp))

/-- A command that has started a server stops it just if it meets with no setback from then on. -/
theorem execute_stops {s : Surroundings} {settings : Settings} {command : Command}
    {trace before after : List Exchange} {result : Except String Unit} {server : ServerSettings} {root : String}
    (serves : command.usesServer = true) (run : (execute s settings command).run.Runs trace result)
    (started : trace = before ++ ⟨.startServer server root, .ok ()⟩ :: after) :
    Leaves after result ∧
      ((∃ answer, ⟨.stopServer, answer⟩ ∈ after) ↔ ∀ exchange ∈ after, exchange.setback? = none) := by
  have leaves := ((obeys_execute s settings serves run).service started).leaves
  exact ⟨leaves, leaves.stops_iff⟩

def refreshing : Program (Except String Unit) :=
  (execute (.usual "/p" fun _ => none) .default (.refresh "A.lean" 0)).run

def refreshed (text : String) : TextDocument :=
  .new (Uri.ofPath "/p" "/p/A.lean") (languageOfPath "/p/A.lean") text

def beforeStart : List Exchange :=
  [⟨.canonicalPath "/p/A.lean", .ok "/p/A.lean"⟩, ⟨.readText "/p/A.lean", .ok "a"⟩]

def afterVanishing : List Exchange :=
  [⟨.openDocument (refreshed "a"), .ok true⟩, ⟨.readText "/p/A.lean", .error .notFound⟩]

def afterRefreshing : List Exchange :=
  [⟨.openDocument (refreshed "a"), .ok true⟩, ⟨.readText "/p/A.lean", .ok "b"⟩,
    ⟨.refreshDependencies (refreshed "b"), .ok ()⟩, ⟨.wait 0, ()⟩,
    ⟨.publishedDiagnostics (refreshed "b").uri, .error .notConnected⟩,
    ⟨.stopServer, .error .serverTerminated⟩, ⟨.print (Report.text (.error "Server not connected")), ()⟩]

private theorem runs_afterVanishing :
    refreshing.Runs (beforeStart ++ ⟨.startServer .default "/p", .ok ()⟩ :: afterVanishing)
    (.error "No such file or directory (os error 2)") :=
  .ask (.ask (.ask (.ask (.ask (.done _)))))

private theorem runs_afterRefreshing :
    refreshing.Runs (beforeStart ++ ⟨.startServer .default "/p", .ok ()⟩ :: afterRefreshing) (.ok ()) :=
  .ask (.ask (.ask (.ask (.ask (.ask (.ask (.ask (.ask (.ask (.done _))))))))))

theorem execute_stops_refreshing :
    refreshing.Runs (beforeStart ++ ⟨.startServer .default "/p", .ok ()⟩ :: afterRefreshing) (.ok ()) ∧
    Leaves afterRefreshing (.ok ()) ∧ (∃ answer, ⟨.stopServer, answer⟩ ∈ afterRefreshing) ∧
    refreshing.Runs (beforeStart ++ ⟨.startServer .default "/p", .ok ()⟩ :: afterVanishing)
      (.error "No such file or directory (os error 2)") ∧
    Leaves afterVanishing (.error "No such file or directory (os error 2)") ∧
    ¬∃ answer, ⟨.stopServer, answer⟩ ∈ afterVanishing := by
  obtain ⟨leaves, stops⟩ := execute_stops rfl runs_afterRefreshing rfl
  obtain ⟨leavesRunning, stopsNot⟩ := execute_stops rfl runs_afterVanishing rfl
  refine ⟨runs_afterRefreshing, leaves, stops.2 ?_, runs_afterVanishing, leavesRunning, fun stopped => ?_⟩
  · simp [afterRefreshing, Exchange.setback?]
  · have smooth := stopsNot.1 stopped ⟨.readText "/p/A.lean", .error .notFound⟩ (by simp [afterVanishing])
    cases smooth

/-- A file that goes while the server starts leaves the server running. -/
theorem vanishing_strands :
    ¬∀ (s : Surroundings) (settings : Settings) (command : Command) (trace before after : List Exchange)
      (result : Except String Unit) (server : ServerSettings) (root : String), command.usesServer = true →
      (execute s settings command).run.Runs trace result →
      trace = before ++ ⟨.startServer server root, .ok ()⟩ :: after →
      ∃ answer, ⟨.stopServer, answer⟩ ∈ after := by
  intro always
  obtain ⟨answer, inside⟩ := always (.usual "/p" fun _ => none) .default (.refresh "A.lean" 0) _ _ _ _ _ _ rfl
    runs_afterVanishing rfl
  simp [afterVanishing] at inside

end LanguageClient.Command
