import LanguageClient.Connection.Step
import LanguageClient.Posix.Process.System

/-!
A session: a connection and the system at its other end, in which the server runs. They share a
clock. Both go on as far as they can; time passes only when neither can move, and then up to the
next moment at which something happens by itself.
-/
namespace LanguageClient

structure Session where
  connection : Connection
  system : System
  /-- How many of the frames that were written have reached the system. -/
  passed : Nat

namespace Session

def serverRuns (s : Session) : Bool :=
  ((s.system.process? System.first).map ProcessEntry.isRunning).getD false

def readerGone (c : Connection) : Bool := c.reader = .ended || c.reader = .dead

def passOn (files : FileTree) (s : Session) : Bool × Session :=
  let c := s.connection
  let frames := c.wire.drop s.passed
  let system := { s.system with files := files, clock := c.clock }.feed (frames.flatMap Frame.encode)
  let system := if c.wireEnded then system.endInput else system
  let system := if readerGone c then system.dropOutput else system
  let system := if c.process = .absent then system.deliver System.first .kill else system
  (!frames.isEmpty, { s with system := system, passed := c.wire.length })

def passBack (s : Session) : Bool × Session :=
  let (bytes, system) := s.system.drain
  let c := s.connection.receive bytes
  let ended := !system.hasWriter System.outputPipe
  let deaf := !system.hasReader System.inputPipe
  let exited := c.process = .running && !s.serverRuns
  let moved := !bytes.isEmpty || (ended && !c.inboxEnded) || (deaf && c.peerReads) || exited
  let c := if ended then c.endInbox else c
  let c := if deaf then c.dropPeer else c
  let c := if exited then { c with process := .exited } else c
  (moved, { s with connection := c, system := system })

def turnLimit : Nat := 20

/-- The connection goes on as far as it can, and then the system does; tells whether anything
moved. -/
def round (files : FileTree) (s : Session) : Bool × Session × FileTree :=
  let (sent, s) := { s with connection := s.connection.settle }.passOn files
  let (moved, system) := s.system.run turnLimit false
  let (received, s) := { s with system := system }.passBack
  (sent || moved || received, s, system.files)

def runRounds : (fuel : Nat) → FileTree → Session → Session × FileTree
  | 0, files, s => (s, files)
  | fuel + 1, files, s =>
    let (moved, s, files) := round files s
    if moved then runRounds fuel files s else (s, files)

def roundLimit : Nat := 1000

def settle (files : FileTree) (s : Session) : Session × FileTree := runRounds roundLimit files s

def isTimed (k : Call) : Bool :=
  k.purpose = .shutdown &&
    match k.phase with
    | .registering _ => true
    | .withdrawing _ => true
    | .waiting _ => true
    | .reaping _ => true
    | _ => false

def nextMoment? (s : Session) : Option Nat :=
  let moments := (s.connection.calls.filter isTimed).map Call.deadline ++ s.system.nextMoment?.toList
  (moments.filter fun moment => s.connection.clock < moment).min?

def advanceTo (s : Session) (moment : Nat) : Session :=
  { s with connection := s.connection.advance (moment - s.connection.clock) }

def awaitFor (isReached : Session → Bool) :
    (fuel : Nat) → FileTree → Session → Session × FileTree
  | 0, files, s => (s, files)
  | fuel + 1, files, s =>
    let (s, files) := settle files s
    match isReached s, s.nextMoment? with
    | false, some moment => awaitFor isReached fuel files (s.advanceTo moment)
    | _, _ => (s, files)

def passTo : (fuel : Nat) → (moment : Nat) → FileTree → Session → Session × FileTree
  | 0, _, files, s => (s, files)
  | fuel + 1, moment, files, s =>
    let (s, files) := settle files s
    match s.nextMoment? with
    | some next =>
      if next ≤ moment then passTo fuel moment files (s.advanceTo next)
      else settle files (s.advanceTo moment)
    | none => settle files (s.advanceTo moment)

def stopLimit : Nat := 1000

def pass (milliseconds : Nat) (files : FileTree) (s : Session) : Session × FileTree :=
  passTo stopLimit (s.connection.clock + milliseconds) files s

/-- Makes a call and goes on until it has finished. One that never finishes has lost its server. -/
def complete (purpose : Purpose) (files : FileTree) (s : Session) :
    Except ClientError Json × Session × FileTree :=
  let call := s.connection.calls.length
  let (s, files) :=
    awaitFor (fun s => (s.connection.result? call).isSome) stopLimit files
      { s with connection := s.connection.beginCall purpose }
  ((s.connection.result? call).getD (.error .serverTerminated), s, files)

def awaitTermination (files : FileTree) (s : Session) : Session × FileTree :=
  awaitFor (fun s => s.connection.terminated) stopLimit files s

def kill (files : FileTree) (s : Session) : Session × FileTree :=
  let c := { s.connection with shuttingDown := true }
  let c := if c.closed then c else ({ c with closed := true }.enqueue? .close).getD c
  settle files { s with connection := { c with process := .absent } }

end Session

end LanguageClient
