import LanguageClient.Frame
import LanguageClient.Failure
import LanguageClient.Handshake
import LanguageClient.Notice
import LanguageClient.Selector
import LanguageClient.Log

/-!
The state of a connection: flags, the table of pending requests, the queue of outgoing messages,
the stored diagnostics, and how far the reader, the writer and every call have come. The calls,
the reader and the writer run side by side; each phase below names the next thing its owner does,
and what it does in one phase happens at once.
-/
namespace LanguageClient

inductive Purpose where
  | request (method : String) (params : Json)
  | notify (method : String) (params : Json)
  | handshake (processId : UInt32) (rootUri : Option String)
  | shutdown
  deriving DecidableEq

/-- How far a call has come. -/
inductive CallPhase where
  | announcing
  | deciding
  | checking
  | numbering
  | registering (id : Nat)
  | probing (id : Nat)
  | sending (id : Nat)
  | withdrawing (id : Nat)
  | waiting (id : Nat)
  | noticeProbing (method : String) (params : Json)
  | noticeSending (method : String) (params : Json)
  | closing (failure : Option String)
  | marking (failure : Option String)
  | reaping (failure : Option String)
  | cancelling (failure : Option String)
  | finished (result : Except ClientError Json)

structure Call where
  purpose : Purpose
  phase : CallPhase
  answer : Option Response
  deadline : Nat

inductive ReaderPhase where
  | reading
  | replyProbing (method : String) (text : String)
  | replySending (method : String) (text : String)
  | failing
  | terminating
  | closing
  | marking
  | cancelling
  | ended
  /-- Stopped without going through the steps of the ending. -/
  | dead
  deriving DecidableEq, Repr

inductive WriterPhase where
  | ready
  /-- The stream is about to be ended; the queue still takes messages. -/
  | finishing
  | ended
  deriving DecidableEq, Repr

inductive Outbound where
  | message (text : String)
  | close
  deriving DecidableEq, Repr

inductive ProcessState where
  | absent
  | running
  | exited
  deriving DecidableEq, Repr

structure Connection where
  options : ClientOptions
  /-- How long the parts of a shutdown may take, in milliseconds. -/
  grace : Nat
  clock : Nat
  closed : Bool
  terminated : Bool
  shuttingDown : Bool
  /-- The number of the next request. It is not bounded here: a connection is taken to make fewer than
  2^64 requests, so that no number that the wire can carry is given twice. -/
  nextId : Nat
  /-- Numbers of pending requests, each with the call that waits for it. -/
  pending : List (Nat × Nat)
  queue : List Outbound
  calls : List Call
  reader : ReaderPhase
  writer : WriterPhase
  /-- The bytes that have arrived and are not yet read. -/
  inbox : Frame.Bytes
  inboxEnded : Bool
  /-- The bodies of the frames that were written. -/
  wire : List String
  peerReads : Bool
  process : ProcessState
  diagnostics : Table (List Diagnostic)
  welcome : Option Welcome
  intercepted : List DiagnosticEvent
  log : List LogEntry

namespace Connection

def connect (options : ClientOptions) (grace : Nat) : Connection where
  options := options
  grace := grace
  clock := 0
  closed := false
  terminated := false
  shuttingDown := false
  nextId := 1
  pending := []
  queue := []
  calls := []
  reader := .reading
  writer := .ready
  inbox := []
  inboxEnded := false
  wire := []
  peerReads := true
  process := .absent
  diagnostics := []
  welcome := none
  intercepted := []
  log := []

def note (c : Connection) (level : Level) (text : String) : Connection :=
  { c with log := c.log ++ [⟨level, text⟩] }

def wireBytes (c : Connection) : Frame.Bytes := c.wire.flatMap Frame.encode

def wireEnded (c : Connection) : Bool := c.writer = .ended

def latestDiagnostics (c : Connection) (uri : String) : List Diagnostic :=
  (Table.get? c.diagnostics uri).getD []

def beginCall (c : Connection) (purpose : Purpose) : Connection :=
  let phase := match purpose with
    | .request _ _ => .checking
    | .notify method params => .noticeProbing method params
    | .handshake _ _ => .checking
    | .shutdown => .announcing
  { c with calls := c.calls ++ [⟨purpose, phase, none, 0⟩] }

def result? (c : Connection) (call : Nat) : Option (Except ClientError Json) :=
  match c.calls[call]? with
  | some ⟨_, .finished result, _, _⟩ => some result
  | _ => none

def setPhase (c : Connection) (call : Nat) (phase : CallPhase) : Connection :=
  { c with calls := c.calls.modify call fun k => { k with phase := phase } }

def giveAnswer (c : Connection) (call : Nat) (response : Response) : Connection :=
  { c with calls := c.calls.modify call fun k => { k with answer := some response } }

def enqueue? (c : Connection) (entry : Outbound) : Option Connection :=
  if c.writer = .ended then none else some { c with queue := c.queue ++ [entry] }

def cancelPending (c : Connection) (code : Int32) (reason : String) : Connection :=
  let c := if c.pending.isEmpty then c else
    c.note .debug ("Cancelling " ++ toString c.pending.length ++ " pending requests: " ++ reason)
  c.pending.foldl (fun c (id, call) =>
    c.giveAnswer call (.failure (.number (UInt64.ofNat id)) (.new code reason)))
    { c with pending := [] }

end Connection

end LanguageClient
