import LanguageClient.Client.Lifecycle
import LanguageClient.Client.Documents

/-!
Calls of a client that run side by side. The calls that start and stop the client take turns: each
waits for the lifecycle lock, which is handed over in the order of arrival, and gives it back at its
end. Calls about documents take no lock. A step of a call is one section of it; `run` lets the calls
make their steps in any given order, and `runFairly` in turn until all are finished.
-/
namespace LanguageClient

inductive LifecycleCall where
  | restart
  | stop
  deriving DecidableEq, Repr

/-- How far a call has come: what it does next. -/
inductive TaskPhase (P : Type) where
  | arriving (call : LifecycleCall)
  | queued (call : LifecycleCall)
  | entering (call : LifecycleCall)
  | fetching (call : LifecycleCall)
  | stopping (call : LifecycleCall) (id : Nat) (peer : P)
  | clearing (call : LifecycleCall) (result : Except ClientError Unit)
  | lowering (call : LifecycleCall) (result : Except ClientError Unit)
  | preparing
  | launching
  | installing (id : Nat) (peer : P)
  | raising (id : Nat) (peer : P)
  | reopening (id : Nat) (peer : P)
  | announcing (id : Nat)
  | seeking (document : TextDocument)
  | syncing (peer : P) (document : TextDocument)
  | seekingRefresh (document : TextDocument)
  | refreshing (peer : P) (document : TextDocument)
  | seekingClose (uri : String)
  | forgetting (peer : P) (uri : String)
  | dismissing (peer : P) (uri : String)
  | finished (result : Except ClientError Bool)

namespace TaskPhase

variable {P : Type}

def result? : TaskPhase P → Option (Except ClientError Bool)
  | .finished result => some result
  | _ => none

def holdsLock : TaskPhase P → Bool
  | .entering _ | .fetching _ | .stopping _ _ _ | .clearing _ _ | .lowering _ _ | .preparing
  | .launching | .installing _ _ | .raising _ _ | .reopening _ _ | .announcing _ => true
  | _ => false

end TaskPhase

/-- A client and the calls on it, with the holder of the lifecycle lock and those in line for it. -/
structure Tasks (W P : Type) where
  client : Client W P
  phases : List (TaskPhase P)
  holder : Option Nat
  queue : List Nat

namespace Tasks

variable {W P : Type}

def begin (client : Client W P) (phases : List (TaskPhase P)) : Tasks W P :=
  ⟨client, phases, none, []⟩

def setPhase (t : Tasks W P) (task : Nat) (phase : TaskPhase P) : Tasks W P :=
  { t with phases := t.phases.set task phase }

def go (t : Tasks W P) (task : Nat) (client : Client W P) (phase : TaskPhase P) : Tasks W P :=
  { t with client := client, phases := t.phases.set task phase }

def release (t : Tasks W P) (task : Nat) (client : Client W P) (result : Except ClientError Unit) :
    Tasks W P :=
  { t with
    client := client
    phases := t.phases.set task (.finished (result.map fun _ => true))
    holder := none }

def step? (host : Host W P) (t : Tasks W P) (task : Nat) : Option (Tasks W P) := do
  let phase ← t.phases[task]?
  match phase with
  | .arriving call =>
    if t.holder.isNone && t.queue.isEmpty then
      some ({ t with holder := some task }.setPhase task (.entering call))
    else some ({ t with queue := t.queue ++ [task] }.setPhase task (.queued call))
  | .queued call =>
    if t.holder.isNone && t.queue.head? = some task then
      some ({ t with holder := some task, queue := t.queue.tail }.setPhase task (.entering call))
    else none
  | .entering call =>
    if t.client.isStarted then some (t.setPhase task (.fetching call))
    else
      match call with
      | .restart => some (t.setPhase task .preparing)
      | .stop => some (t.release task t.client (.error .notStarted))
  | .fetching call =>
    match t.client.active with
    | none => some (t.go task t.client (.lowering call (.error .notStarted)))
    | some (id, peer) => some (t.go task (t.client.beginStop id peer) (.stopping call id peer))
  | .stopping call id peer =>
    let (result, client) := t.client.stopPeer host id peer
    some (t.go task client (.clearing call result))
  | .clearing call result => some (t.go task t.client.clearActive (.lowering call result))
  | .lowering call result =>
    match call, result with
    | .restart, .ok () => some (t.go task t.client.markStopped .preparing)
    | _, result => some (t.release task t.client.markStopped result)
  | .preparing => some (t.go task t.client.beginLaunch .launching)
  | .launching =>
    match t.client.launchPeer host with
    | (.error e, client) => some (t.release task client (.error e))
    | (.ok (id, peer), client) => some (t.go task client (.installing id peer))
  | .installing id peer => some (t.go task (t.client.install id peer) (.raising id peer))
  | .raising id peer => some (t.go task t.client.markStarted (.reopening id peer))
  | .reopening id peer => some (t.go task (t.client.reopen host peer) (.announcing id))
  | .announcing id => some (t.release task (t.client.announce id) (.ok ()))
  | .seeking d =>
    match t.client.peer? with
    | .error e => some (t.setPhase task (.finished (.error e)))
    | .ok peer =>
      if t.client.selects d then some (t.setPhase task (.syncing peer d))
      else some (t.setPhase task (.finished (.ok false)))
  | .syncing peer d =>
    let (result, client) := t.client.syncOn host peer d
    some (t.go task client (.finished result))
  | .seekingRefresh d =>
    match t.client.peer? with
    | .error e => some (t.setPhase task (.finished (.error e)))
    | .ok peer => some (t.go task (t.client.note (.refreshing d.uri)) (.refreshing peer d))
  | .refreshing peer d =>
    let (result, client) := t.client.refreshOn host peer d
    some (t.go task client (.finished (result.map fun _ => true)))
  | .seekingClose uri =>
    match t.client.peer? with
    | .error e => some (t.setPhase task (.finished (.error e)))
    | .ok peer => some (t.setPhase task (.forgetting peer uri))
  | .forgetting peer uri =>
    match t.client.forget uri with
    | (false, client) => some (t.go task client (.finished (.ok false)))
    | (true, client) => some (t.go task client (.dismissing peer uri))
  | .dismissing peer uri =>
    let (result, client) := t.client.dismissOn host peer uri
    some (t.go task client (.finished result))
  | .finished _ => none

/-- Lets calls make steps in the given order; a call that cannot make one is passed over. -/
def run (host : Host W P) (t : Tasks W P) (schedule : List Nat) : Tasks W P :=
  schedule.foldl (fun t task => (t.step? host task).getD t) t

def stepBound : Nat := 16

/-- Lets the calls make their steps in turn until all are finished: in each round every call makes
one step, if it can. While a call has the lock, it makes a step in every round. -/
def runFairly (host : Host W P) (t : Tasks W P) : Tasks W P :=
  t.run host ((List.replicate (stepBound * t.phases.length) (List.range t.phases.length)).flatten)

def results (t : Tasks W P) : List (Except ClientError Bool) := t.phases.filterMap (·.result?)

end Tasks

end LanguageClient
