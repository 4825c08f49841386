import LanguageClient.Connection.Step

/-! Runs of a connection: the parties take their turns in any order, calls begin at any time, and
bytes, time and the process of the server do in between what they like. What happens to the requests
on the way is the trace of the run. -/
namespace LanguageClient

/-- What moves a connection. -/
inductive Move where
  | turn (party : Party)
  | begun (purpose : Purpose)
  | receive (bytes : Frame.Bytes)
  | endInbox
  | dropPeer
  | advance (milliseconds : Nat)
  | process (state : ProcessState)

inductive Event where
  | registered (call number : Nat)
  | sent (call number : Nat)
  | handled (response : Response)
  | drained (code : Int32) (reason : String)

namespace Connection

/-- The connection after a move. A turn of a party that cannot move is lost. -/
def move (c : Connection) : Move → Connection
  | .turn party => (c.step? party).getD c
  | .begun purpose => c.beginCall purpose
  | .receive bytes => c.receive bytes
  | .endInbox => c.endInbox
  | .dropPeer => c.dropPeer
  | .advance milliseconds => c.advance milliseconds
  | .process state => { c with process := state }

def run (c : Connection) (moves : List Move) : Connection := moves.foldl move c

def readerEvent? (c : Connection) : Option Event :=
  match c.reader with
  | .reading =>
    match Frame.nextMessage c.inboxEnded c.inbox with
    | .done (.ok (.response r)) _ => some (.handled r)
    | _ => none
  | .cancelling =>
    some (.drained ErrorCode.serverTerminated (c.options.name ++ " language server terminated"))
  | _ => none

def callEvent? (c : Connection) (call : Nat) : Option Event :=
  match (c.calls[call]?).map Call.phase with
  | some (.registering n) => some (.registered call n)
  | some (.sending n) => if c.writer = .ended then none else some (.sent call n)
  | some (.cancelling _) => some (.drained ErrorCode.requestCancelled "Server shutdown")
  | _ => none

def event? (c : Connection) : Move → Option Event
  | .turn .reader => c.readerEvent?
  | .turn (.call number) => c.callEvent? number
  | _ => none

/-- What happens to the requests in a run. -/
def trace (c : Connection) : List Move → List Event
  | [] => []
  | m :: rest => (c.event? m).toList ++ trace (c.move m) rest

@[simp] theorem run_nil (c : Connection) : c.run [] = c := rfl

theorem run_singleton (c : Connection) (m : Move) : c.run [m] = c.move m := rfl

theorem run_append (c : Connection) (moves more : List Move) :
    c.run (moves ++ more) = (c.run moves).run more :=
  List.foldl_append

theorem run_concat (c : Connection) (moves : List Move) (m : Move) :
    c.run (moves ++ [m]) = (c.run moves).move m := by
  simp [run]

theorem trace_append (c : Connection) (moves more : List Move) :
    c.trace (moves ++ more) = c.trace moves ++ (c.run moves).trace more := by
  induction moves generalizing c with
  | nil => rfl
  | cons m rest ih =>
    have later : c.run (m :: rest) = (c.move m).run rest := rfl
    rw [List.cons_append, trace, ih, later, trace, List.append_assoc]

def gather {α : Type} (give : Connection → Move → List α) (c : Connection) : List Move → List α
  | [] => []
  | m :: rest => give c m ++ gather give (c.move m) rest

theorem gather_append {α : Type} (give : Connection → Move → List α) (c : Connection) (moves more : List Move) :
    c.gather give (moves ++ more) = c.gather give moves ++ (c.run moves).gather give more := by
  induction moves generalizing c with
  | nil => rfl
  | cons m rest ih =>
    have later : c.run (m :: rest) = (c.move m).run rest := rfl
    rw [List.cons_append, gather, ih, later, gather, List.append_assoc]

theorem gather_concat {α : Type} (give : Connection → Move → List α) (c : Connection) (moves : List Move)
    (m : Move) : c.gather give (moves ++ [m]) = c.gather give moves ++ give (c.run moves) m := by
  rw [gather_append, gather, gather, List.append_nil]

/-- What every move keeps between the trace and the state, a run keeps. -/
theorem trace_keeps (Kept : List Event → Connection → Prop)
    (move : ∀ t c m, Kept t c → Kept (t ++ (c.event? m).toList) (c.move m)) {t : List Event}
    {c : Connection} (start : Kept t c) (moves : List Move) : Kept (t ++ c.trace moves) (c.run moves) := by
  induction moves generalizing t c with
  | nil =>
    rw [trace, List.append_nil]
    exact start
  | cons m rest ih =>
    have later := ih (move t c m start)
    rw [List.append_assoc] at later
    exact later

theorem run_keeps (Kept : Connection → Prop) (move : ∀ c m, Kept c → Kept (c.move m)) {c : Connection}
    (start : Kept c) (moves : List Move) : Kept (c.run moves) :=
  trace_keeps (fun _ => Kept) (fun _ => move) (t := []) start moves

end Connection

end LanguageClient
