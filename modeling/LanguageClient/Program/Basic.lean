import LanguageClient.Document
import LanguageClient.Failure
import LanguageClient.Goal
import LanguageClient.Diagnostic
import LanguageClient.Settings

/-!
Programs as trees of actions. A program is its result, or an action together with what follows each
answer to it; who answers is left open. `run` lets a handler with a state answer, and `Runs` relates
a program to every way in which it can go.
-/
namespace LanguageClient

/-- What a program asks of its surroundings. At most one server is in use at a time. -/
inductive Action where
  | exists (path : String)
  | readText (path : String)
  | canonicalPath (path : String)
  | writeText (path text : String)
  | makeDirectories (path : String)
  | startServer (settings : ServerSettings) (root : String)
  | openDocument (document : TextDocument)
  | refreshDependencies (document : TextDocument)
  | askGoal (uri : String) (position : Position)
  | wait (milliseconds : Nat)
  | publishedDiagnostics (uri : String)
  | stopServer
  | print (text : String)
  deriving DecidableEq

namespace Action

@[reducible] def Answer : Action → Type
  | .exists _ => Bool
  | .readText _ => Except IoFailure String
  | .canonicalPath _ => Except IoFailure String
  | .writeText _ _ => Except IoFailure Unit
  | .makeDirectories _ => Except IoFailure Unit
  | .startServer _ _ => Except ClientError Unit
  | .openDocument _ => Except ClientError Bool
  | .refreshDependencies _ => Except ClientError Unit
  | .askGoal _ _ => Except ClientError (Option PlainGoal)
  | .wait _ => Unit
  | .publishedDiagnostics _ => Except ClientError (List Diagnostic)
  | .stopServer => Except ClientError Unit
  | .print _ => Unit

end Action

inductive Program (α : Type) where
  | done (result : α)
  | ask (action : Action) (next : action.Answer → Program α)

namespace Program

variable {α β W : Type}

def perform (action : Action) : Program action.Answer := .ask action .done

def bind : Program α → (α → Program β) → Program β
  | .done result, f => f result
  | .ask action next, f => .ask action fun answer => bind (next answer) f

instance : Monad Program where
  pure := .done
  bind := bind

def run (handle : (action : Action) → W → action.Answer × W) : Program α → W → α × W
  | .done result, w => (result, w)
  | .ask action next, w =>
    let (answer, w) := handle action w
    run handle (next answer) w

def runIn {m : Type → Type} [Monad m] (handle : (action : Action) → m action.Answer) :
    Program α → m α
  | .done result => pure result
  | .ask action next => handle action >>= fun answer => runIn handle (next answer)

/-- Running one program after another is running the first and then, in the world it leaves, the
other. -/
theorem run_bind (handle : (action : Action) → W → action.Answer × W) (p : Program α)
    (f : α → Program β) (w : W) :
    run handle (p.bind f) w = run handle (f (run handle p w).1) (run handle p w).2 := by
  induction p generalizing w with
  | done result => rfl
  | ask action next ih => exact ih (handle action w).1 (handle action w).2

/-- A program may go through these actions, each with its answer, and come to this result. -/
inductive Runs : Program α → List ((action : Action) × action.Answer) → α → Prop
  | done (result : α) : Runs (.done result) [] result
  | ask {action : Action} {next : action.Answer → Program α} {answer : action.Answer}
      {trace : List ((action : Action) × action.Answer)} {result : α}
      (rest : Runs (next answer) trace result) :
      Runs (.ask action next) (⟨action, answer⟩ :: trace) result

end Program

end LanguageClient
