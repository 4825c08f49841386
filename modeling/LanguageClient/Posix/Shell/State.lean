import LanguageClient.Posix.Process.Image
import LanguageClient.Posix.Shell.Reader
import LanguageClient.Posix.Utility.Run

/-!
The state of a running shell, and the parts of a run that need no commands: variables, descriptors,
children and signals.
-/
namespace LanguageClient.Shell

structure Variable where
  value : Option Text
  exported : Bool
  fixed : Bool

abbrev Flags := List Char

inductive Stop where
  | exited (status : Nat)
  | failed
  | returned
  | left (loops : Nat)
  | skipped (loops : Nat)
  deriving DecidableEq, Repr

structure State where
  bindings : Table Variable
  functions : Table Command
  arguments : List Text
  name : Text
  status : Nat
  flags : Flags
  process : Nat
  lastChild : Option Nat
  children : List (Nat × Option Nat)
  /-- What is done on a signal, or at the end under the number 0; nothing for an ignored signal. -/
  traps : List (Signal × Text)
  heard : List Signal
  locals : List (List (String × Option Variable))
  loops : Nat
  kept : List Nat
  outputStatus : Option Nat
  optionPlace : Nat

abbrev Run := ExceptT Stop (StateT State Act)

namespace State

def value? (s : State) (name : String) : Option Text := (s.bindings.get? name).bind Variable.value

def separators (s : State) : Text := (s.value? "IFS").getD [' ', '\t', '\n']

def has (s : State) (flag : Char) : Bool := s.flags.contains flag

def parameter? (s : State) (name : String) : Option Text :=
  match name with
  | "*" => if s.arguments.isEmpty then none else some (joined (s.separators.take 1))
  | "@" => if s.arguments.isEmpty then none else some (joined [' '])
  | "#" => some (Utility.digitsOf s.arguments.length)
  | "?" => some (Utility.digitsOf s.status)
  | "$" => some (Utility.digitsOf s.process)
  | "!" => s.lastChild.map Utility.digitsOf
  | "-" => some s.flags
  | name =>
    match Utility.number? name.toList with
    | some 0 => some s.name
    | some n => s.arguments[n - 1]?
    | none => s.value? name
where
  joined (separator : Text) : Text := separator.intercalate s.arguments

def environment (s : State) : Table Text :=
  s.bindings.filterMap fun (name, v) =>
    if v.exported then v.value.map fun value => (name, value) else none

def setVariable (s : State) (name : String) (value : Text) : State :=
  let v := (s.bindings.get? name).getD ⟨none, false, false⟩
  let changed := { v with value := some value, exported := v.exported || s.has 'a' }
  { s with bindings := s.bindings.insert name changed }

def trap? (s : State) (signal : Signal) : Option Text := s.traps.lookup signal

end State

namespace Run

def call (call : SystemCall) : Run call.Answer :=
  ExceptT.lift (StateT.lift (Act.call call))

def act {α : Type} (act : Act α) : Run α := ExceptT.lift (StateT.lift act)

def setStatus (status : Nat) : Run Unit := modify fun s => { s with status := status }

def fail {α : Type} : Run α := throw .failed

def setVariable (name : String) (value : Text) : Run Unit := do
  let s ← get
  if ((s.bindings.get? name).map Variable.fixed).getD false then fail
  else set (s.setVariable name value)

def outcome (body : Run Unit) : Run (Option Stop) :=
  tryCatch (do body; pure none) fun stop => pure (some stop)

def resume : Option Stop → Run Unit
  | none => pure ()
  | some stop => throw stop

def settle : Option Stop → Run Unit
  | some (.exited status) => setStatus status
  | some .failed => setStatus 2
  | _ => pure ()

def toProcess (s : State) (body : Run Unit) (finish : Run Unit) : Process :=
  ((do
      settle (← outcome body)
      settle (← outcome finish) : Run Unit).run.run s) fun (_, s) => .ended s.status

def caughtSignals (s : State) : List Signal :=
  (s.traps.filter fun t => t.1 ≠ 0 && !t.2.isEmpty).map Prod.fst

/-- Starts a child that does a part of the run. In it nothing is caught any more. -/
def fork (body : Run Unit) (finish : Run Unit) : Run Nat := do
  let s ← get
  let child := { s with
    traps := s.traps.filter fun t => t.1 ≠ 0 && t.2.isEmpty
    heard := []
    children := []
    loops := 0 }
  let release : Run Unit := (caughtSignals s).forM fun signal => do
    let _ ← call (.heed signal .byDefault)
  act (Act.fork (toProcess child (do release; body) finish))

def hear : Run Unit := do
  let signals : List Signal ← call .noticed
  modify fun s => { s with heard := s.heard ++ signals }

/-- Waits for a child and gives its status. Signals that come before are dealt with later. -/
def await (child : Nat) : Run Nat := go Act.stepLimit
where
  go : (fuel : Nat) → Run Nat
    | 0 => return 127
    | fuel + 1 => do
      match ← call (.wait (some child)) with
      | .ended _ status => return status
      | .nobody => return 127
      | .interrupted =>
        hear
        go fuel

def leastKept : Nat := 10

def keep (descriptor : Nat) : Run (Option Nat) := do
  let kept : Except IoFailure Nat ← call (.keep descriptor leastKept)
  match kept with
  | .ok place =>
    modify fun s => { s with kept := place :: s.kept }
    return some place
  | .error _ => return none

def restore (descriptor : Nat) (place : Option Nat) : Run Unit := do
  match place with
  | none =>
    let _ ← call (.close descriptor)
  | some place =>
    let _ ← call (.copy place descriptor)
    let _ ← call (.close place)
    modify fun s => { s with kept := s.kept.filter (· ≠ place) }

def move (source target : Nat) : Run Unit := do
  if source ≠ target then
    let _ ← call (.copy source target)
    let _ ← call (.close source)

end Run

end LanguageClient.Shell
