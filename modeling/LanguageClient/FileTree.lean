import LanguageClient.Failure
import LanguageClient.Frame
import LanguageClient.Path
import LanguageClient.Table

/-!
A tree of files, and the way of a path through it. A path is followed step by step from the root;
a link on the way is replaced by its target, at most forty times. A step through something that is
not a directory fails even when the step is a dot, so a separator behind the name of a file leads
nowhere.
-/
namespace LanguageClient

inductive Device where
  | null
  | zero
  | full
  | stream (descriptor : Nat)
  deriving DecidableEq, Repr

inductive FileEntry where
  | directory
  | file (content : Frame.Bytes) (executable : Bool)
  | link (target : String)
  | device (device : Device)
  | program (name : String)
  deriving DecidableEq, Repr

/-- A tree of files: entries by the names that lead to them from the root, which is always a
directory. -/
structure FileTree where
  entries : List (List String × FileEntry)
  deriving Repr

/-- Where a path leads: the names from the root, and what stands there. If nothing does, the
directory around it exists. -/
structure Place where
  names : List String
  entry : Option FileEntry
  deriving DecidableEq, Repr

def FileEntry.programHead : Frame.Bytes := [0x7f, 0x45, 0x4c, 0x46, 0x02, 0x01, 0x01, 0x00, 0x90]

def FileEntry.content : FileEntry → Except IoFailure Frame.Bytes
  | .directory => .error .isADirectory
  | .file content _ => .ok content
  | .link _ => .error .notFound
  | .device _ => .ok []
  | .program _ => .ok FileEntry.programHead

def FileEntry.isExecutable : FileEntry → Bool
  | .file _ executable => executable
  | .program _ => true
  | _ => false

namespace FileTree

def empty : FileTree := ⟨[]⟩

def entryAt? (t : FileTree) : List String → Option FileEntry
  | [] => some .directory
  | names => (t.entries.find? fun e => e.1 = names).map Prod.snd

def put (t : FileTree) (names : List String) (entry : FileEntry) : FileTree :=
  ⟨(t.entries.filter fun e => e.1 ≠ names) ++ [(names, entry)]⟩

def nameLimit : Nat := 255

def pathLimit : Nat := 4095

def linkLimit : Nat := 40

/-- The steps of a path. A separator at the end is a step to the directory before it. -/
def steps (path : String) : List String :=
  let names := (Path.pieces path).filter (· ≠ "")
  if !names.isEmpty && path.toList.getLast? = some '/' then names ++ ["."] else names

def walk (t : FileTree) (follow : Bool) :
    (links : Nat) → (here : List String) → List String → Except IoFailure Place
  | _, here, [] => .ok ⟨here, t.entryAt? here⟩
  | links, here, step :: rest =>
    match t.entryAt? here with
    | none => .error .notFound
    | some .directory =>
      if step = "." then walk t follow links here rest
      else if step = ".." then walk t follow links here.dropLast rest
      else if nameLimit < step.utf8ByteSize then .error .nameTooLong
      else
        let place := here ++ [step]
        match t.entryAt? place with
        | none => if rest.isEmpty then .ok ⟨place, none⟩ else .error .notFound
        | some (.link target) =>
          if rest.isEmpty && !follow then .ok ⟨place, some (.link target)⟩
          else if target = "" then .error .notFound
          else
            match links with
            | 0 => .error .filesystemLoop
            | links + 1 =>
              walk t follow links (if Path.isAbsolute target then [] else here)
                (steps target ++ rest)
        | some _ => walk t follow links place rest
    | some _ => .error .notADirectory
termination_by links _ rest => (links, rest.length)

def follow (t : FileTree) (followLast : Bool) (workingDirectory path : String) :
    Except IoFailure Place :=
  if path.toList.contains '\x00' then .error .nulCharacter
  else if path = "" then .error .notFound
  else walk t followLast linkLimit [] (steps (Path.join workingDirectory path))

def locate (t : FileTree) (followLast : Bool) (workingDirectory path : String) :
    Except IoFailure Place :=
  if path.toList.contains '\x00' then .error .nulCharacter
  else if pathLimit < path.utf8ByteSize then .error .nameTooLong
  else t.follow followLast workingDirectory path

def pathOf (names : List String) : String := "/" ++ "/".intercalate names

/-- The absolute path, free of links, of what a path leads to. It is found step by step, so the
length of the path does not matter. -/
def canonical (t : FileTree) (workingDirectory path : String) : Except IoFailure String := do
  match ← t.follow true workingDirectory path with
  | ⟨names, some _⟩ => .ok (pathOf names)
  | ⟨_, none⟩ => .error .notFound

def look? (t : FileTree) (workingDirectory path : String) : Option FileEntry :=
  match t.locate true workingDirectory path with
  | .ok place => place.entry
  | .error _ => none

def leadsSomewhere (t : FileTree) (workingDirectory path : String) : Bool :=
  (t.look? workingDirectory path).isSome

def isDirectory (t : FileTree) (workingDirectory path : String) : Bool :=
  t.look? workingDirectory path = some .directory

def readBytes (t : FileTree) (workingDirectory path : String) : Except IoFailure Frame.Bytes := do
  match ← t.locate true workingDirectory path with
  | ⟨_, some entry⟩ => FileEntry.content entry
  | ⟨_, none⟩ => .error .notFound

def readText (t : FileTree) (workingDirectory path : String) : Except IoFailure String := do
  match Frame.textOf? (← t.readBytes workingDirectory path) with
  | some text => .ok text
  | none => .error .invalidText

def children (t : FileTree) (names : List String) : Table FileEntry :=
  Table.ofList (t.entries.filterMap fun (place, entry) =>
    if place.dropLast = names then place.getLast?.map fun name => (name, entry) else none)

def update (t : FileTree) (workingDirectory path : String) (f : Frame.Bytes → Frame.Bytes) :
    Except IoFailure FileTree := do
  match ← t.locate true workingDirectory path with
  | ⟨names, some (.file content executable)⟩ => .ok (t.put names (.file (f content) executable))
  | ⟨names, none⟩ => .ok (t.put names (.file (f []) false))
  | ⟨_, some .directory⟩ => .error .isADirectory
  | ⟨_, some (.device _)⟩ => .ok t
  | ⟨_, some (.program _)⟩ => .error .permissionDenied
  | ⟨_, some (.link _)⟩ => .error .notFound

def write (t : FileTree) (workingDirectory path : String) (content : Frame.Bytes) :
    Except IoFailure FileTree := t.update workingDirectory path fun _ => content

def makeFile (t : FileTree) (workingDirectory path : String) (content : Frame.Bytes)
    (executable : Bool) : Except IoFailure FileTree := do
  match ← t.locate true workingDirectory path with
  | ⟨_, some .directory⟩ => .error .isADirectory
  | ⟨names, _⟩ => .ok (t.put names (.file content executable))

def makeLink (t : FileTree) (workingDirectory path target : String) :
    Except IoFailure FileTree := do
  match ← t.locate false workingDirectory path with
  | ⟨names, none⟩ => .ok (t.put names (.link target))
  | ⟨_, some _⟩ => .error .alreadyExists

def makeDirectory (t : FileTree) (workingDirectory path : String) : Except IoFailure FileTree := do
  match ← t.locate false workingDirectory path with
  | ⟨names, none⟩ => .ok (t.put names .directory)
  | ⟨_, some _⟩ => .error .alreadyExists

def makeParents (t : FileTree) (workingDirectory : String) :
    (fuel : Nat) → (path : String) → Except IoFailure FileTree
  | 0, _ => .error .notFound
  | fuel + 1, path =>
    if path = "" then .ok t
    else
      match t.makeDirectory workingDirectory path with
      | .ok t => .ok t
      | .error .notFound =>
        match Path.parent? path with
        | none => .error .notFound
        | some parent => do
          let t ← makeParents t workingDirectory fuel parent
          match t.makeDirectory workingDirectory path with
          | .ok t => .ok t
          | .error e => if t.isDirectory workingDirectory path then .ok t else .error e
      | .error e => if t.isDirectory workingDirectory path then .ok t else .error e

def makeDirectories (t : FileTree) (workingDirectory path : String) : Except IoFailure FileTree :=
  makeParents t workingDirectory ((Path.components path).length + 1) path

def removeFile (t : FileTree) (workingDirectory path : String) : Except IoFailure FileTree := do
  match ← t.locate false workingDirectory path with
  | ⟨_, none⟩ => .error .notFound
  | ⟨_, some .directory⟩ => .error .isADirectory
  | ⟨names, some _⟩ => .ok ⟨t.entries.filter fun e => e.1 ≠ names⟩

def removeDirectory (t : FileTree) (workingDirectory path : String) :
    Except IoFailure FileTree := do
  match ← t.locate false workingDirectory path with
  | ⟨_, none⟩ => .error .notFound
  | ⟨names, some .directory⟩ =>
    if (t.children names).isEmpty then .ok ⟨t.entries.filter fun e => e.1 ≠ names⟩
    else .error .directoryNotEmpty
  | ⟨_, some _⟩ => .error .notADirectory

def move (t : FileTree) (workingDirectory source target : String) : Except IoFailure FileTree := do
  match ← t.locate false workingDirectory source, ← t.locate false workingDirectory target with
  | ⟨_, none⟩, _ => .error .notFound
  | ⟨names, some entry⟩, ⟨place, replaced⟩ =>
    if names = place then .ok t
    else if names.isPrefixOf place then .error .invalidArgument
    else
      match entry, replaced with
      | .directory, some .directory =>
        if (t.children place).isEmpty then .ok (relocated names place) else .error .directoryNotEmpty
      | .directory, some _ => .error .notADirectory
      | _, some .directory => .error .isADirectory
      | _, _ => .ok (relocated names place)
where
  relocated (names place : List String) : FileTree :=
    ⟨(t.entries.filter fun e => e.1 ≠ place).map fun e =>
      if names.isPrefixOf e.1 then (place ++ e.1.drop names.length, e.2) else e⟩

def setExecutable (t : FileTree) (workingDirectory path : String) (executable : Bool) :
    Except IoFailure FileTree := do
  match ← t.locate true workingDirectory path with
  | ⟨_, none⟩ => .error .notFound
  | ⟨names, some (.file content _)⟩ => .ok (t.put names (.file content executable))
  | ⟨_, some _⟩ => .ok t

end FileTree

end LanguageClient
