import LanguageClient.Connection.Incoming

/-!
The single steps of a connection. `step?` lets one of the parties that run side by side do the
next thing it has to do, if it can; every run of a connection is a sequence of such steps between
what comes from outside. `settle` is the one schedule by which the client is run here: the reader
first, then the calls, then the writer, until nobody can move.
-/
namespace LanguageClient

inductive Party where
  | reader
  | writer
  | call (number : Nat)
  | timer (number : Nat)
  deriving DecidableEq, Repr

namespace Connection

private def droppedReply (method : String) : String :=
  "Dropping reply to " ++ method ++ ": " ++ ClientError.notConnected.message

def stepReader? (c : Connection) : Option Connection :=
  match c.reader with
  | .reading =>
    match Frame.nextMessage c.inboxEnded c.inbox with
    | .waiting => none
    | .done (.ok message) rest => some ({ c with inbox := rest }.handleMessage message)
    | .done (.error _) rest => some { c with inbox := rest, reader := .failing }
    | .fault .unallocatable rest => some { c with inbox := rest, reader := .dead }
    | .fault _ rest => some { c with inbox := rest, reader := .failing }
  | .replyProbing method text =>
    if c.closed then
      some ({ c with reader := .reading }.note .debug (droppedReply method))
    else some { c with reader := .replySending method text }
  | .replySending method text =>
    match c.enqueue? (.message text) with
    | some c => some { c with reader := .reading }
    | none => some ({ c with reader := .reading }.note .debug (droppedReply method))
  | .failing =>
    let c := if c.shuttingDown then c else c.note .error (c.options.name ++ " read error")
    some { c with reader := .terminating }
  | .terminating => some { c with terminated := true, reader := .closing }
  | .closing =>
    if c.closed then some { c with reader := .cancelling }
    else some { c with closed := true, reader := .marking }
  | .marking => some { (c.enqueue? .close).getD c with reader := .cancelling }
  | .cancelling =>
    some { c.cancelPending ErrorCode.serverTerminated
      (c.options.name ++ " language server terminated") with reader := .ended }
  | .ended => none
  | .dead => none

def stepWriter? (c : Connection) : Option Connection :=
  match c.writer with
  | .ready =>
    match c.queue with
    | [] => none
    | .close :: rest => some { c with queue := rest, writer := .finishing }
    | .message text :: rest =>
      if c.peerReads then some { c with queue := rest, wire := c.wire ++ [text] }
      else some ({ c with queue := rest, writer := .finishing }.note .warn "LSP write failed")
  | .finishing => some { c with writer := .ended, queue := [] }
  | .ended => none

def requestOf : Purpose → String × Json
  | .request method params => (method, params)
  | .notify method params => (method, params)
  | .handshake processId rootUri => ("initialize", (Greeting.ours processId rootUri).toJson)
  | .shutdown => ("shutdown", .null)

/-- The result of a request by its response. The client's own code for a server that went away is
taken as such, whoever sent it. -/
def resultOf (response : Response) : Except ClientError Json :=
  match response.outcome with
  | .ok value => .ok value
  | .error e =>
    if e.code = ErrorCode.serverTerminated then .error .serverTerminated
    else .error (.ofResponse e)

private def introduction (name : String) (server : ProgramInfo) : String :=
  name ++ " server: " ++ server.name ++ " " ++ server.version.getD ""

def afterRequest (c : Connection) (call : Nat) (purpose : Purpose)
    (result : Except ClientError Json) : Connection :=
  match purpose, result with
  | .request _ _, result => c.setPhase call (.finished result)
  | .notify _ _, result => c.setPhase call (.finished result)
  | .handshake _ _, .error e => c.setPhase call (.finished (.error e))
  | .handshake _ _, .ok value =>
    match Welcome.decode value with
    | .error e => c.setPhase call (.finished (.error (.protocol e.message)))
    | .ok welcome =>
      let c := match welcome.server with
        | some server => c.note .debug (introduction c.options.name server)
        | none => c
      { c with welcome := some welcome }.setPhase call (.noticeProbing "initialized" (.object []))
  | .shutdown, .ok _ => c.setPhase call (.noticeProbing "exit" .null)
  | .shutdown, .error e =>
    c.setPhase call (.closing (some ("shutdown request failed: " ++ e.message)))

def afterNotice (c : Connection) (call : Nat) (purpose : Purpose)
    (result : Except ClientError Json) : Connection :=
  match purpose with
  | .shutdown => c.setPhase call (.closing none)
  | _ => c.setPhase call (.finished result)

def durationText (milliseconds : Nat) : String :=
  if milliseconds = 0 then "0ns"
  else if milliseconds < 1000 then toString milliseconds ++ "ms"
  else
    let fraction := milliseconds % 1000
    let digits := (Nat.toDigits 10 (1000 + fraction)).drop 1
    let significant := (digits.reverse.dropWhile (· = '0')).reverse
    toString (milliseconds / 1000) ++
      (if significant.isEmpty then "" else "." ++ String.ofList significant) ++ "s"

def stepCall? (c : Connection) (call : Nat) : Option Connection := do
  let k ← c.calls[call]?
  match k.phase with
  | .announcing => some ({ c with shuttingDown := true }.setPhase call .deciding)
  | .deciding =>
    if c.terminated then some (c.setPhase call (.closing none))
    else
      let c := { c with
        calls := c.calls.modify call fun k => { k with deadline := c.clock + c.grace } }
      some (c.setPhase call .checking)
  | .checking =>
    if c.terminated then some (c.afterRequest call k.purpose (.error .serverTerminated))
    else some (c.setPhase call .numbering)
  | .numbering =>
    some ({ c with nextId := c.nextId + 1 }.setPhase call (.registering c.nextId))
  | .registering id =>
    some ({ c with pending := c.pending ++ [(id, call)] }.setPhase call (.probing id))
  | .probing id =>
    if c.closed then some (c.setPhase call (.withdrawing id))
    else some (c.setPhase call (.sending id))
  | .sending id =>
    let (method, params) := requestOf k.purpose
    let request := Request.new (UInt64.ofNat id) method (some params)
    match c.enqueue? (.message (Message.request request).text) with
    | some c => some (c.setPhase call (.waiting id))
    | none => some (c.setPhase call (.withdrawing id))
  | .withdrawing id =>
    let c := { c with pending := c.pending.filter fun entry => entry.1 ≠ id }
    some (c.afterRequest call k.purpose (.error .notConnected))
  | .waiting _ =>
    match k.answer with
    | some response => some (c.afterRequest call k.purpose (resultOf response))
    | none => none
  | .noticeProbing method params =>
    if c.closed then some (c.afterNotice call k.purpose (.error .notConnected))
    else some (c.setPhase call (.noticeSending method params))
  | .noticeSending method params =>
    let notification := Notification.new method (some params)
    match c.enqueue? (.message (Message.notification notification).text) with
    | some c => some (c.afterNotice call k.purpose (.ok .null))
    | none => some (c.afterNotice call k.purpose (.error .notConnected))
  | .closing failure =>
    let c := { c with
      calls := c.calls.modify call fun k => { k with deadline := c.clock + c.grace } }
    if c.closed then some (c.setPhase call (.reaping failure))
    else some ({ c with closed := true }.setPhase call (.marking failure))
  | .marking failure => some (((c.enqueue? .close).getD c).setPhase call (.reaping failure))
  | .reaping failure =>
    match c.process with
    | .absent => some (c.setPhase call (.cancelling failure))
    | .exited => some ({ c with process := .absent }.setPhase call (.cancelling failure))
    | .running => none
  | .cancelling failure =>
    let c := c.cancelPending ErrorCode.requestCancelled "Server shutdown"
    let c := c.note .info (c.options.name ++ " language server stopped")
    some (c.setPhase call (.finished (match failure with
      | some reason => .error (.shutdown reason)
      | none => .ok .null)))
  | .finished _ => none

/-- What happens when the time of a call is up: a shutdown gives up its request, or kills the
process. -/
def stepTimer? (c : Connection) (call : Nat) : Option Connection := do
  let k ← c.calls[call]?
  if k.purpose ≠ .shutdown || c.clock < k.deadline then none
  else
    match k.phase with
    | .registering _ | .withdrawing _ =>
      some (c.setPhase call (.closing (some "shutdown request timed out")))
    | .waiting _ =>
      if k.answer.isSome then none
      else some (c.setPhase call (.closing (some "shutdown request timed out")))
    | .reaping failure =>
      if c.process = .running then
        some ({ c with process := .absent }.setPhase call (.cancelling (some (failure.getD
          ("process did not exit within " ++ durationText c.grace)))))
      else none
    | _ => none

def step? (c : Connection) : Party → Option Connection
  | .reader => c.stepReader?
  | .writer => c.stepWriter?
  | .call number => c.stepCall? number
  | .timer number => c.stepTimer? number

def receive (c : Connection) (bytes : Frame.Bytes) : Connection :=
  if c.inboxEnded then c else { c with inbox := c.inbox ++ bytes }

def endInbox (c : Connection) : Connection := { c with inboxEnded := true }

def dropPeer (c : Connection) : Connection := { c with peerReads := false }

def advance (c : Connection) (milliseconds : Nat) : Connection :=
  { c with clock := c.clock + milliseconds }

def parties (c : Connection) : List Party :=
  .reader :: (List.range c.calls.length).map .call ++ .writer ::
    (List.range c.calls.length).map .timer

def stepFirst? (c : Connection) : Option Connection :=
  c.parties.firstM c.step?

def runSteps : (fuel : Nat) → Connection → Connection
  | 0, c => c
  | fuel + 1, c =>
    match c.stepFirst? with
    | some c => runSteps fuel c
    | none => c

/-- A bound for the steps until nobody can move: each call goes through its phases once, and a
message that arrives has more bytes than steps follow from it. -/
def stepBound (c : Connection) : Nat :=
  20 * (c.inbox.length + c.calls.length + c.queue.length + 1)

def settle (c : Connection) : Connection := c.runSteps c.stepBound

/-- Bytes of the server arrive through a pipe that holds `capacity` of them at a time. -/
def receiveThrough (capacity : Nat) (bytes : Frame.Bytes) (c : Connection) : Connection :=
  (Frame.throughPipe capacity bytes).foldl (fun c piece => (c.receive piece).settle) c

end Connection

end LanguageClient
