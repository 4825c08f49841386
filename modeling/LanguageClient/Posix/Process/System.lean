import LanguageClient.Posix.Process.Basic

/-!
A system that runs processes: their table, what they have open, the pipes between them, the tree of
files they share, and a clock. Handles are shared: a child has open what its parent had, and what
one of them reads the other does not see again. A pipe has reached its end when nobody can write to
it any more, and writing to one that nobody can read ends the writer.
-/
namespace LanguageClient

inductive Handle where
  | source (pipe : Nat)
  | sink (pipe : Nat)
  | file (names : List String) (offset : Nat) (opening : Opening)
  | directory
  | device (device : Device)
  deriving DecidableEq, Repr

inductive Life where
  | running (process : Process)
  | ended (status : Nat)

structure ProcessEntry where
  number : Nat
  parent : Nat
  life : Life
  descriptors : List (Nat × Nat)
  workingDirectory : String
  heeds : List (Signal × Heed)
  noticed : List Signal
  startled : Bool

structure System where
  files : FileTree
  clock : Nat
  processes : List ProcessEntry
  nextNumber : Nat
  handles : Array Handle
  pipes : Array Frame.Bytes
  outside : List Nat

namespace ProcessEntry

def isRunning (e : ProcessEntry) : Bool :=
  match e.life with
  | .running _ => true
  | .ended _ => false

def status? (e : ProcessEntry) : Option Nat :=
  match e.life with
  | .running _ => none
  | .ended status => some status

def heedOf (e : ProcessEntry) (signal : Signal) : Heed :=
  (e.heeds.lookup signal).getD .byDefault

def freeDescriptor (e : ProcessEntry) (least : Nat) : Nat :=
  ((List.range (e.descriptors.length + 1)).map (least + ·)).find?
    (fun d => (e.descriptors.lookup d).isNone) |>.getD least

def attach (e : ProcessEntry) (descriptor handle : Nat) : ProcessEntry :=
  { e with descriptors := (descriptor, handle) ::
      e.descriptors.filter fun entry => entry.1 ≠ descriptor }

def close (e : ProcessEntry) (descriptor : Nat) : ProcessEntry :=
  { e with descriptors := e.descriptors.filter fun entry => entry.1 ≠ descriptor }

end ProcessEntry

namespace System

def pipeLimit : Nat := 65536

def pieceLimit : Nat := 4096

def process? (s : System) (number : Nat) : Option ProcessEntry :=
  s.processes.find? fun e => e.number = number

def modify (s : System) (number : Nat) (f : ProcessEntry → ProcessEntry) : System :=
  { s with processes := s.processes.map fun e => if e.number = number then f e else e }

def hasOpen (s : System) (wanted : Handle → Bool) : Bool :=
  let found (handle : Nat) : Bool := (s.handles[handle]?.map wanted).getD false
  s.outside.any found ||
    s.processes.any fun e => e.isRunning && e.descriptors.any fun entry => found entry.2

def hasReader (s : System) (pipe : Nat) : Bool := s.hasOpen (· = .source pipe)

def hasWriter (s : System) (pipe : Nat) : Bool := s.hasOpen (· = .sink pipe)

def pipeContent (s : System) (pipe : Nat) : Frame.Bytes := s.pipes[pipe]?.getD []

def setPipe (s : System) (pipe : Nat) (content : Frame.Bytes) : System :=
  { s with pipes := s.pipes.setIfInBounds pipe content }

def addHandle (s : System) (handle : Handle) : Nat × System :=
  (s.handles.size, { s with handles := s.handles.push handle })

def handleOf (s : System) (e : ProcessEntry) (descriptor : Nat) : Option (Nat × Handle) := do
  let number ← e.descriptors.lookup descriptor
  let handle ← s.handles[number]?
  pure (number, handle)

/-- The number that stands for what started the first process. It waits for nobody. -/
def outsider : Nat := 1

def inputPipe : Nat := 0

def outputPipe : Nat := 1

/-- A system with one process. Its input and its output are pipes that lead outside, and what it
says of errors is dropped. -/
def start (files : FileTree) (directory : String) (process : Process) : System where
  files := files
  clock := 0
  processes := [{
    number := outsider + 1
    parent := outsider
    life := .running process
    descriptors := [(0, 0), (1, 1), (2, 2)]
    workingDirectory := directory
    heeds := []
    noticed := []
    startled := false }]
  nextNumber := outsider + 2
  handles := #[.source inputPipe, .sink outputPipe, .device .null, .sink inputPipe, .source outputPipe]
  pipes := #[[], []]
  outside := [3, 4]

def first : Nat := outsider + 1

def feed (s : System) (bytes : Frame.Bytes) : System :=
  if bytes.isEmpty then s else s.setPipe inputPipe (s.pipeContent inputPipe ++ bytes)

def endInput (s : System) : System :=
  { s with outside := s.outside.filter fun number => s.handles[number]? ≠ some (.sink inputPipe) }

def dropOutput (s : System) : System :=
  { s with outside := s.outside.filter fun number => s.handles[number]? ≠ some (.source outputPipe) }

def drain (s : System) : Frame.Bytes × System :=
  match s.pipeContent outputPipe with
  | [] => ([], s)
  | bytes => (bytes, s.setPipe outputPipe [])

/-- Ends a process. Its children lose their parent, and are not waited for any more. -/
def finish (s : System) (number status : Nat) : System :=
  let s := s.modify number fun e => { e with life := .ended status, descriptors := [] }
  let orphaned := s.processes.map fun e => if e.parent = number then { e with parent := outsider } else e
  { s with processes := orphaned.filter fun e => e.isRunning || e.parent ≠ outsider }

def isHarmless (signal : Signal) : Bool := [0, 17, 18, 19, 20, 21, 22, 23, 28].contains signal

def signalStatus (signal : Signal) : Nat := 128 + signal

def deliver (s : System) (number : Nat) (signal : Signal) : System :=
  match s.process? number with
  | none => s
  | some e =>
    if !e.isRunning || signal = 0 then s
    else if signal = .kill then s.finish number (signalStatus signal)
    else
      match e.heedOf signal with
      | .ignored => s
      | .noticed =>
        s.modify number fun e =>
          { e with
            noticed := if e.noticed.contains signal then e.noticed else e.noticed ++ [signal]
            startled := true }
      | .byDefault => if isHarmless signal then s else s.finish number (signalStatus signal)

def calm (s : System) (number : Nat) : System :=
  s.modify number fun e => { e with startled := false }

def patch (content : Frame.Bytes) (offset : Nat) (bytes : Frame.Bytes) : Frame.Bytes :=
  if offset = content.length then content ++ bytes
  else
    content.take offset ++ List.replicate (offset - content.length) 0 ++ bytes ++
      content.drop (offset + bytes.length)

def readFrom (s : System) (e : ProcessEntry) (descriptor count : Nat) :
    Option (Except IoFailure Frame.Bytes × System) :=
  match s.handleOf e descriptor with
  | none => some (.error .badDescriptor, s)
  | some (_, .sink _) => some (.error .badDescriptor, s)
  | some (_, .directory) => some (.error .isADirectory, s)
  | some (_, .device .null) => some (.ok [], s)
  | some (_, .device (.stream _)) => some (.ok [], s)
  | some (_, .device _) => some (.ok (List.replicate count 0), s)
  | some (number, .file names offset opening) =>
    if !opening.reads then some (.error .badDescriptor, s)
    else
      match s.files.entryAt? names with
      | none => some (.ok [], s)
      | some entry =>
        match entry.content with
        | .error failure => some (.error failure, s)
        | .ok content =>
          let bytes := (content.drop offset).take count
          let moved : Handle := .file names (offset + bytes.length) opening
          some (.ok bytes, { s with handles := s.handles.setIfInBounds number moved })
  | some (_, .source pipe) =>
    let content := s.pipeContent pipe
    if count = 0 then some (.ok [], s)
    else if !content.isEmpty then
      some (.ok (content.take count), s.setPipe pipe (content.drop count))
    else if !s.hasWriter pipe then some (.ok [], s)
    else if e.startled then some (.error .interrupted, s.calm e.number)
    else none

def writeTo (s : System) (e : ProcessEntry) (descriptor : Nat) (bytes : Frame.Bytes) :
    Option (Except IoFailure Nat × System) :=
  match s.handleOf e descriptor with
  | none => some (.error .badDescriptor, s)
  | some (_, .source _) => some (.error .badDescriptor, s)
  | some (_, .directory) => some (.error .badDescriptor, s)
  | some (_, .device .full) => some (.error (.other "No space left on device (os error 28)"), s)
  | some (_, .device _) => some (.ok bytes.length, s)
  | some (number, .file names offset opening) =>
    if !opening.writes then some (.error .badDescriptor, s)
    else
      match s.files.entryAt? names with
      | some (.file content executable) =>
        let offset := if opening.appends then content.length else offset
        let files := s.files.put names (.file (patch content offset bytes) executable)
        let moved : Handle := .file names (offset + bytes.length) opening
        some (.ok bytes.length,
          { s with files := files, handles := s.handles.setIfInBounds number moved })
      | _ => some (.ok bytes.length, s)
  | some (_, .sink pipe) =>
    let content := s.pipeContent pipe
    let free := pipeLimit - content.length
    if bytes.isEmpty then some (.ok 0, s)
    else if !s.hasReader pipe then
      some (.error .brokenPipe, s.deliver e.number .brokenPipe)
    else if bytes.length ≤ free then some (.ok bytes.length, s.setPipe pipe (content ++ bytes))
    else if bytes.length ≤ pieceLimit || free = 0 then none
    else some (.ok free, s.setPipe pipe (content ++ bytes.take free))

def openHandle (s : System) (e : ProcessEntry) (handle : Handle) : Except IoFailure Nat × System :=
  let descriptor := e.freeDescriptor 0
  let (number, s) := s.addHandle handle
  (.ok descriptor, s.modify e.number fun e => e.attach descriptor number)

def openPath (s : System) (e : ProcessEntry) (path : String) (opening : Opening) :
    Except IoFailure Nat × System :=
  match s.files.locate true e.workingDirectory path with
  | .error failure => (.error failure, s)
  | .ok ⟨names, none⟩ =>
    if opening.creates then
      { s with files := s.files.put names (.file [] false) }.openHandle e (.file names 0 opening)
    else (.error .notFound, s)
  | .ok ⟨names, some entry⟩ =>
    if opening.fresh && opening.creates then
      match entry with
      | .device device => s.openHandle e (.device device)
      | _ => (.error .alreadyExists, s)
    else
      match entry with
      | .directory => if opening.writes then (.error .isADirectory, s) else s.openHandle e .directory
      | .link _ => (.error .notFound, s)
      | .program _ =>
        if opening.writes then (.error (.other "Text file busy (os error 26)"), s)
        else s.openHandle e (.file names 0 opening)
      | .device (.stream descriptor) =>
        match s.handleOf e descriptor with
        | none => (.error .notFound, s)
        | some (_, handle) => s.openHandle e handle
      | .device device => s.openHandle e (.device device)
      | .file _ executable =>
        let files := if opening.empties then s.files.put names (.file [] executable) else s.files
        { s with files := files }.openHandle e (.file names 0 opening)

def waitFor (s : System) (e : ProcessEntry) (child : Option Nat) : Option (Waited × System) :=
  let children := s.processes.filter fun c =>
    c.parent = e.number && ((child.map fun n => decide (c.number = n)).getD true)
  if children.isEmpty then some (.nobody, s)
  else
    match children.findSome? fun c => c.status?.map fun status => (c.number, status) with
    | some (number, status) =>
      some (.ended number status,
        { s with processes := s.processes.filter fun c => c.number ≠ number })
    | none => if e.startled then some (.interrupted, s.calm e.number) else none

def answer? (s : System) (e : ProcessEntry) : (call : SystemCall) → Option (call.Answer × System)
  | .yieldTurn => some ((), s)
  | .read descriptor count => s.readFrom e descriptor count
  | .write descriptor bytes => s.writeTo e descriptor bytes
  | .openFile path opening => some (s.openPath e path opening)
  | .close descriptor =>
    match s.handleOf e descriptor with
    | none => some (.error .badDescriptor, s)
    | some _ => some (.ok (), s.modify e.number fun e => e.close descriptor)
  | .copy source target =>
    match s.handleOf e source with
    | none => some (.error .badDescriptor, s)
    | some (number, _) => some (.ok (), s.modify e.number fun e => e.attach target number)
  | .keep source least =>
    match s.handleOf e source with
    | none => some (.error .badDescriptor, s)
    | some (number, _) =>
      let descriptor := e.freeDescriptor least
      some (.ok descriptor, s.modify e.number fun e => e.attach descriptor number)
  | .pipe =>
    let pipe := s.pipes.size
    let (source, s) := { s with pipes := s.pipes.push [] }.addHandle (.source pipe)
    let (sink, s) := s.addHandle (.sink pipe)
    let reading := e.freeDescriptor 0
    let writing := (e.attach reading source).freeDescriptor 0
    some ((reading, writing), s.modify e.number fun e => (e.attach reading source).attach writing sink)
  | .wait child => s.waitFor e child
  | .sleep _ => some ((), s)
  | .sleepUntil moment =>
    if moment ≤ s.clock then some ((), s)
    else if e.startled then some ((), s.calm e.number)
    else none
  | .enter path =>
    match s.files.locate true e.workingDirectory path with
    | .error failure => some (.error failure, s)
    | .ok ⟨_, none⟩ => some (.error .notFound, s)
    | .ok ⟨names, some .directory⟩ =>
      some (.ok (), s.modify e.number fun e => { e with workingDirectory := FileTree.pathOf names })
    | .ok ⟨_, some _⟩ => some (.error .notADirectory, s)
  | .look => some ((s.files, e.workingDirectory), s)
  | .edit edit =>
    match s.files.edit e.workingDirectory edit with
    | .ok files => some (.ok (), { s with files := files })
    | .error failure => some (.error failure, s)
  | .self => some ((e.number, e.parent), s)
  | .send process signal =>
    match s.process? process with
    | none => some (.error (.other "No such process (os error 3)"), s)
    | some _ => some (.ok (), s.deliver process signal)
  | .heed signal heed =>
    some ((), s.modify e.number fun e =>
      { e with heeds := (signal, heed) :: e.heeds.filter fun entry => entry.1 ≠ signal })
  | .noticed =>
    some (e.noticed, s.modify e.number fun e => { e with noticed := [], startled := false })
  | .clock => some (s.clock, s)

def resume (s : System) (number : Nat) (process : Process) : System :=
  s.modify number fun e => if e.isRunning then { e with life := .running process } else e

def step? (s : System) (number : Nat) : Option System := do
  let e ← s.process? number
  match e.life with
  | .ended _ => none
  | .running (.ended status) => some (s.finish number status)
  | .running (.fork child next) =>
    let entry : ProcessEntry :=
      { e with
        number := s.nextNumber, parent := number, life := .running child
        noticed := [], startled := false }
    let s := { s with
      processes := s.processes ++ [entry], nextNumber := s.nextNumber + 1 }
    some (s.resume number (next entry.number))
  | .running (.ask (.sleep milliseconds) next) =>
    some (s.resume number (.ask (.sleepUntil (s.clock + milliseconds)) fun _ => next ()))
  | .running (.ask call next) =>
    let (answer, s) ← s.answer? e call
    some (s.resume number (next answer))

def turn (number : Nat) : (steps : Nat) → (moved : Bool) → System → Bool × System
  | 0, moved, s => (moved, s)
  | steps + 1, moved, s =>
    match s.step? number with
    | none => (moved, s)
    | some s => turn number steps true s

def turnLimit : Nat := 100

def round (s : System) : Bool × System :=
  s.processes.foldl (fun (moved, s) e =>
    let (more, s) := s.turn e.number turnLimit false
    (moved || more, s)) (false, s)

def run : (rounds : Nat) → (moved : Bool) → System → Bool × System
  | 0, moved, s => (moved, s)
  | rounds + 1, moved, s =>
    match s.round with
    | (true, s) => run rounds true s
    | (false, s) => (moved, s)

def nextMoment? (s : System) : Option Nat :=
  let moment? (e : ProcessEntry) : Option Nat :=
    match e.life with
    | .running (.ask (.sleepUntil moment) _) => if s.clock < moment then some moment else none
    | _ => none
  (s.processes.filterMap moment?).min?

end System

end LanguageClient
