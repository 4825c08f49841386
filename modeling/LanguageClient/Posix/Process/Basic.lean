import LanguageClient.FileTree

/-!
Processes as trees of calls. A process is at its end, or it makes a call and goes on with the
answer, or it starts another process beside itself and goes on with its number. What the calls do
is left to the system that runs the process.
-/
namespace LanguageClient

abbrev Signal := Nat

namespace Signal

def hangUp : Signal := 1
def interrupt : Signal := 2
def quit : Signal := 3
def abort : Signal := 6
def kill : Signal := 9
def brokenPipe : Signal := 13
def alarm : Signal := 14
def terminate : Signal := 15

end Signal

inductive Heed where
  | byDefault
  | ignored
  | noticed
  deriving DecidableEq, Repr

structure Opening where
  reads : Bool
  writes : Bool
  creates : Bool
  empties : Bool
  appends : Bool
  fresh : Bool
  deriving DecidableEq, Repr

namespace Opening

def toRead : Opening := ⟨true, false, false, false, false, false⟩
def toWrite : Opening := ⟨false, true, true, true, false, false⟩
def toAppend : Opening := ⟨false, true, true, false, true, false⟩
def toChange : Opening := ⟨true, true, true, false, false, false⟩

end Opening

inductive Edit where
  | makeDirectory (path : String)
  | makeLink (path target : String)
  | removeFile (path : String)
  | removeDirectory (path : String)
  | move (source target : String)
  | setExecutable (path : String) (executable : Bool)
  deriving DecidableEq, Repr

def FileTree.edit (t : FileTree) (workingDirectory : String) : Edit → Except IoFailure FileTree
  | .makeDirectory path => t.makeDirectory workingDirectory path
  | .makeLink path target => t.makeLink workingDirectory path target
  | .removeFile path => t.removeFile workingDirectory path
  | .removeDirectory path => t.removeDirectory workingDirectory path
  | .move source target => t.move workingDirectory source target
  | .setExecutable path executable => t.setExecutable workingDirectory path executable

inductive Waited where
  | nobody
  | ended (child status : Nat)
  | interrupted
  deriving DecidableEq, Repr

/-- A call of a process. Open files are known by small numbers, their descriptors. -/
inductive SystemCall where
  | yieldTurn
  | read (descriptor count : Nat)
  | write (descriptor : Nat) (bytes : Frame.Bytes)
  | openFile (path : String) (opening : Opening)
  | close (descriptor : Nat)
  | copy (source target : Nat)
  | keep (source least : Nat)
  | pipe
  | wait (child : Option Nat)
  | sleep (milliseconds : Nat)
  | sleepUntil (moment : Nat)
  | enter (path : String)
  | look
  | edit (edit : Edit)
  | self
  | send (process : Nat) (signal : Signal)
  | heed (signal : Signal) (heed : Heed)
  | noticed
  | clock

namespace SystemCall

def Answer : SystemCall → Type
  | .yieldTurn => Unit
  | .read _ _ => Except IoFailure Frame.Bytes
  | .write _ _ => Except IoFailure Nat
  | .openFile _ _ => Except IoFailure Nat
  | .close _ => Except IoFailure Unit
  | .copy _ _ => Except IoFailure Unit
  | .keep _ _ => Except IoFailure Nat
  | .pipe => Nat × Nat
  | .wait _ => Waited
  | .sleep _ => Unit
  | .sleepUntil _ => Unit
  | .enter _ => Except IoFailure Unit
  | .look => FileTree × String
  | .edit _ => Except IoFailure Unit
  | .self => Nat × Nat
  | .send _ _ => Except IoFailure Unit
  | .heed _ _ => Unit
  | .noticed => List Signal
  | .clock => Nat

end SystemCall

inductive Process where
  | ended (status : Nat)
  | ask (call : SystemCall) (next : call.Answer → Process)
  | fork (child : Process) (next : Nat → Process)

instance : Inhabited Process := ⟨.ended 0⟩

def Act (α : Type) := (α → Process) → Process

namespace Act

instance : Monad Act where
  pure a := fun next => next a
  bind act f := fun next => act fun a => f a next

def call (call : SystemCall) : Act call.Answer := fun next => .ask call next

def fork (child : Process) : Act Nat := fun next => .fork child next

def exit {α : Type} (status : Nat) : Act α := fun _ => .ended status

def become {α : Type} (process : Process) : Act α := fun _ => process

def toProcess (act : Act Nat) : Process := act .ended

def repeatUntil {σ α : Type} (step : σ → Act (Except α σ)) : (fuel : Nat) → σ → Act (Option α)
  | 0, _ => pure none
  | fuel + 1, s => do
    match ← step s with
    | .error result => return some result
    | .ok s => repeatUntil step fuel s

def stepLimit : Nat := 1000000000

def writeAll (descriptor : Nat) (bytes : Frame.Bytes) : Act Bool := do
  let step (bytes : Frame.Bytes) : Act (Except Bool Frame.Bytes) := do
    if bytes.isEmpty then return .error true
    else
      let written : Except IoFailure Nat ← call (.write descriptor bytes)
      match written with
      | .ok count => return .ok (bytes.drop count)
      | .error _ => return .error false
  return (← repeatUntil step stepLimit bytes).getD false

def chunkSize : Nat := 65536

def readAll (descriptor : Nat) : Act (Except IoFailure Frame.Bytes) := do
  let step (chunks : List Frame.Bytes) :
      Act (Except (Except IoFailure Frame.Bytes) (List Frame.Bytes)) := do
    let found : Except IoFailure Frame.Bytes ← call (.read descriptor chunkSize)
    match found with
    | .ok [] => return .error (.ok chunks.reverse.flatten)
    | .ok bytes => return .ok (bytes :: chunks)
    | .error .interrupted => return .ok chunks
    | .error failure => return .error (.error failure)
  return (← repeatUntil step stepLimit []).getD (.ok [])

end Act

end LanguageClient
