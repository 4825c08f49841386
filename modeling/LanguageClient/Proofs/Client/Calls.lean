import LanguageClient.Client.Tasks

/-! Runs of a client: calls, one after another, in any order, and diagnostics that reach any of its
connections in between. What launches, stops, notices and requests come to is up to the host. -/
namespace LanguageClient

/-- A call of a client, or diagnostics that one of its connections receives. -/
inductive ClientCall (P : Type) where
  | start
  | restart
  | stop
  | openDocument (document : TextDocument)
  | changeDocument (document : TextDocument)
  | closeDocument (uri : String)
  | refreshDependencies (document : TextDocument)
  | goalAt (uri : String) (position : Position)
  | publishedDiagnostics (uri : String)
  | onRestarted (listener : String)
  | removeRestarted (id : ListenerId)
  | onDiagnostics (listener : String)
  | removeDiagnostics (id : ListenerId)
  | publish (peer : P) (event : DiagnosticEvent)

namespace ClientCall

variable {P : Type}

/-- What a call does that starts or stops the client. A start is a restart. -/
def lifecycle? : ClientCall P → Option LifecycleCall
  | .start | .restart => some .restart
  | .stop => some .stop
  | _ => none

/-- The calls that a client has to be started for. -/
def needsStart : ClientCall P → Bool
  | .stop | .openDocument _ | .changeDocument _ | .closeDocument _ | .refreshDependencies _
  | .goalAt _ _ | .publishedDiagnostics _ => true
  | _ => false

end ClientCall

namespace Client

variable {W P : Type}

/-- What a call comes to, without the value it may have returned, and the client after it. -/
def perform (host : Host W P) (c : Client W P) : ClientCall P → Except ClientError Unit × Client W P
  | .start => c.start host
  | .restart => c.restart host
  | .stop => c.stop host
  | .openDocument d => ((c.openDocument host d).1.map fun _ => (), (c.openDocument host d).2)
  | .changeDocument d => ((c.changeDocument host d).1.map fun _ => (), (c.changeDocument host d).2)
  | .closeDocument uri => ((c.closeDocument host uri).1.map fun _ => (), (c.closeDocument host uri).2)
  | .refreshDependencies d => c.refreshDependencies host d
  | .goalAt uri position => ((c.goalAt host uri position).1.map fun _ => (), (c.goalAt host uri position).2)
  | .publishedDiagnostics uri => ((c.publishedDiagnostics host uri).map fun _ => (), c)
  | .onRestarted listener => (.ok (), (c.onRestarted listener).1)
  | .removeRestarted id => (.ok (), (c.removeRestarted id).1)
  | .onDiagnostics listener => (.ok (), (c.onDiagnostics listener).1)
  | .removeDiagnostics id => (.ok (), (c.removeDiagnostics id).1)
  | .publish peer event => (.ok (), c.publish host peer event)

/-- The client after calls that are made one after another. -/
def run (host : Host W P) (c : Client W P) (calls : List (ClientCall P)) : Client W P :=
  calls.foldl (fun c call => (c.perform host call).2) c

/-- Calls that are made one after another, each with what it comes to. -/
def outcomes (host : Host W P) (c : Client W P) :
    List (ClientCall P) → List (ClientCall P × Except ClientError Unit)
  | [] => []
  | call :: rest => (call, (c.perform host call).1) :: (c.perform host call).2.outcomes host rest

@[simp] theorem run_nil (host : Host W P) (c : Client W P) : c.run host [] = c := rfl

theorem run_cons (host : Host W P) (c : Client W P) (call : ClientCall P) (rest : List (ClientCall P)) :
    c.run host (call :: rest) = (c.perform host call).2.run host rest := rfl

theorem run_append (host : Host W P) (c : Client W P) (calls more : List (ClientCall P)) :
    c.run host (calls ++ more) = (c.run host calls).run host more :=
  List.foldl_append

theorem run_append_singleton (host : Host W P) (c : Client W P) (calls : List (ClientCall P))
    (call : ClientCall P) : c.run host (calls ++ [call]) = ((c.run host calls).perform host call).2 := by
  simp [run]

theorem outcomes_append_singleton (host : Host W P) (c : Client W P) (calls : List (ClientCall P))
    (call : ClientCall P) : c.outcomes host (calls ++ [call]) =
      c.outcomes host calls ++ [(call, ((c.run host calls).perform host call).1)] := by
  induction calls generalizing c with
  | nil => rfl
  | cons first rest ih =>
    rw [List.cons_append, outcomes, ih, outcomes, run_cons]
    rfl

end Client

end LanguageClient
