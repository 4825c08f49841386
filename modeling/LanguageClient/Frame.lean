import LanguageClient.Message
import LanguageClient.Text.Blank
import LanguageClient.Text.Digits

/-!
Frames: the form in which messages travel over a stream of bytes. A frame is a block of header
lines, a blank line, and a body of as many bytes as the header declares. A header line that is not
a length has no influence, and of several lengths the last counts. `next` reads one frame from the
bytes that have arrived so far and asks for more where they do not decide what the frame is.
-/
namespace LanguageClient.Frame

abbrev Bytes := List UInt8

def bytesOf (s : String) : Bytes := s.toUTF8.toList

def textOf? (bytes : Bytes) : Option String := String.fromUTF8? ⟨bytes.toArray⟩

def encode (body : String) : Bytes :=
  bytesOf ("Content-Length: " ++ toString body.utf8ByteSize ++ "\r\n\r\n") ++ bytesOf body

inductive Fault where
  | closed
  | headerNotText
  | badLength (fault : Text.NumberFault)
  | missingLength
  | truncated
  | bodyNotText
  /-- The declared length is more than any buffer holds. -/
  | unallocatable
  deriving DecidableEq, Repr

inductive FaultKind where
  | unexpectedEnd
  | invalidData
  | outOfRoom
  deriving DecidableEq, Repr

namespace Fault

def kind : Fault → FaultKind
  | .closed | .truncated => .unexpectedEnd
  | .headerNotText | .badLength _ | .missingLength | .bodyNotText => .invalidData
  | .unallocatable => .outOfRoom

def message? : Fault → Option String
  | .closed => some "Server closed connection"
  | .badLength fault => some fault.message
  | .missingLength => some "Missing Content-Length"
  | _ => none

end Fault

inductive HeaderLine where
  | blank
  | length (n : Nat)
  | other
  deriving DecidableEq, Repr

def lengthLimit : Nat := 0xFFFFFFFFFFFFFFFF

def bufferLimit : Nat := 0x7FFFFFFFFFFFFFFF

def readHeaderLine (line : Bytes) : Except Fault HeaderLine :=
  match textOf? line with
  | none => .error .headerNotText
  | some text =>
    let cs := Text.trimChars text.toList
    if cs.isEmpty then .ok .blank
    else
      match Text.dropStart? "Content-Length:".toList cs with
      | none => .ok .other
      | some value =>
        match Text.readUnsigned lengthLimit (Text.trimChars value) with
        | .ok n => .ok (.length n)
        | .error fault => .error (.badLength fault)

inductive Progress (α : Type) where
  | waiting
  | done (value : α) (rest : Bytes)
  | fault (fault : Fault) (rest : Bytes)
  deriving DecidableEq, Repr

/-- Reads header lines up to the blank one and gives the length they declare. `line` is the
reversed start of the current line and `length` what the lines before declared; `ended` tells that
no more bytes will come. -/
def readHeaders (ended : Bool) : (line : Bytes) → (length : Option Nat) → Bytes → Progress Nat
  | line, length, [] =>
    if ended then
      if line.isEmpty then .fault .closed []
      else
        match readHeaderLine line.reverse with
        | .error fault => .fault fault []
        | .ok .blank =>
          match length with
          | some n => .done n []
          | none => .fault .missingLength []
        | .ok _ => .fault .closed []
    else .waiting
  | line, length, b :: rest =>
    if b = 10 then
      match readHeaderLine (b :: line).reverse with
      | .error fault => .fault fault rest
      | .ok .blank =>
        match length with
        | some n => .done n rest
        | none => .fault .missingLength rest
      | .ok (.length n) => readHeaders ended [] (some n) rest
      | .ok .other => readHeaders ended [] length rest
    else readHeaders ended (b :: line) length rest

def readBody (ended : Bool) (length : Nat) (bytes : Bytes) : Progress String :=
  if bufferLimit < length then .fault .unallocatable bytes
  else if length ≤ bytes.length then
    match textOf? (bytes.take length) with
    | some text => .done text (bytes.drop length)
    | none => .fault .bodyNotText (bytes.drop length)
  else if ended then .fault .truncated []
  else .waiting

def next (ended : Bool) (bytes : Bytes) : Progress String :=
  match readHeaders ended [] none bytes with
  | .waiting => .waiting
  | .fault fault rest => .fault fault rest
  | .done length rest => readBody ended length rest

/-- A fault in the content of a body, after which the next frame can be read. -/
def Fault.isOfBody : Fault → Bool
  | .bodyNotText => true
  | _ => false

/-- A reader: the bytes that are not yet used, the bodies and faults read so far, and whether a
fault has stopped it. -/
structure Reader where
  unread : Bytes
  results : List (Except Fault String)
  stopped : Bool

namespace Reader

def empty : Reader := ⟨[], [], false⟩

def drain (ended : Bool) : (fuel : Nat) → Reader → Reader
  | 0, r => r
  | fuel + 1, r =>
    if r.stopped then r
    else
      match next ended r.unread with
      | .waiting => r
      | .done body rest => drain ended fuel ⟨rest, r.results ++ [.ok body], false⟩
      | .fault fault rest =>
        drain ended fuel ⟨rest, r.results ++ [.error fault], !fault.isOfBody⟩

def receive (r : Reader) (piece : Bytes) : Reader :=
  drain false ((r.unread ++ piece).length + 1) { r with unread := r.unread ++ piece }

def finish (r : Reader) : Reader := drain true (r.unread.length + 1) r

def readAll (pieces : List Bytes) : List (Except Fault String) :=
  (pieces.foldl receive empty).finish.results

end Reader

/-- Cuts bytes into pieces of the given size; `piece` is the reversed start of the first and `room`
what it has still room for. -/
private def cutFrom (size : Nat) : (room : Nat) → (piece : Bytes) → Bytes → List Bytes
  | _, [], [] => []
  | _, piece, [] => [piece.reverse]
  | 0, piece, b :: rest => piece.reverse :: cutFrom size (size - 1) [b] rest
  | room + 1, piece, b :: rest => cutFrom size room (b :: piece) rest

def throughPipe (capacity : Nat) (bytes : Bytes) : List Bytes :=
  let size := max capacity 1
  cutFrom size size [] bytes

private theorem flatten_cutFrom (size room : Nat) (piece bytes : Bytes) :
    (cutFrom size room piece bytes).flatten = piece.reverse ++ bytes := by
  induction bytes generalizing room piece with
  | nil => cases piece <;> simp [cutFrom]
  | cons b rest ih => cases room <;> simp [cutFrom, ih]

/-- A pipe loses nothing and adds nothing. -/
theorem flatten_throughPipe (capacity : Nat) (bytes : Bytes) :
    (throughPipe capacity bytes).flatten = bytes := by
  simp [throughPipe, flatten_cutFrom]

inductive ReadError where
  | frame (fault : Fault)
  | message (e : MessageError)
  deriving DecidableEq

def ReadError.kind : ReadError → FaultKind
  | .frame fault => fault.kind
  | .message _ => .invalidData

def messageOf : Except Fault String → Except ReadError Message
  | .error fault => .error (.frame fault)
  | .ok body => (Message.parse body).mapError .message

def nextMessage (ended : Bool) (bytes : Bytes) : Progress (Except MessageError Message) :=
  match next ended bytes with
  | .waiting => .waiting
  | .fault fault rest => .fault fault rest
  | .done body rest => .done (Message.parse body) rest

end LanguageClient.Frame
