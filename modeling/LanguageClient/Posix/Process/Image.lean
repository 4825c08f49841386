import LanguageClient.Posix.Process.Basic
import LanguageClient.Posix.Shell.Basic

/-!
What a path runs. A program of the system is run as it is. A file runs the program that its first
line names, which gets the path of the file among its arguments; this program may itself be such a
file, up to some depth.
-/
namespace LanguageClient

open Shell (Text)

structure Image where
  program : String
  arguments : List Text
  environment : Table Text

namespace Image

def headLimit : Nat := 256

private def isBlank (c : Char) : Bool := c = ' ' || c = '\t'

private def endsName (c : Char) : Bool := isBlank c || c = '\x00'

private def withoutLastBlanks (text : Text) : Text := (text.reverse.dropWhile isBlank).reverse

private def runnerOfLine? (line : Text) : Option (Text × Option Text) :=
  let line := (withoutLastBlanks line).dropWhile isBlank
  let runner := line.takeWhile fun c => !isBlank c
  let argument := (line.drop runner.length).dropWhile isBlank
  if runner.isEmpty then none else some (runner, if argument.isEmpty then none else some argument)

/-- The same for a first line that does not end in what is looked at, `room`, which is filled up
with zeros. A name that does not end there is none. -/
private def runnerOfRoom? (room : Text) : Option (Text × Option Text) :=
  let blanks := room.takeWhile isBlank
  let start := room.drop blanks.length
  let runner := start.takeWhile fun c => !endsName c
  match start.drop runner.length with
  | [] => none
  | '\x00' :: _ => some (runner, none)
  | _ :: _ =>
    let rest := (withoutLastBlanks room.dropLast).drop (blanks.length + runner.length)
    match rest.dropWhile isBlank with
    | [] => some (runner, none)
    | argument => some (runner, some (argument.takeWhile (· ≠ '\x00')))

def runnerOf? (content : Frame.Bytes) : Option (Text × Option Text) :=
  let head := Text.ofBytes (content.take headLimit)
  match head ++ List.replicate (headLimit - head.length) '\x00' with
  | '#' :: '!' :: room =>
    let line := room.takeWhile fun c => c ≠ '\n' && c ≠ '\x00'
    if room[line.length]? = some '\n' then runnerOfLine? line else runnerOfRoom? room
  | _ => none

def load (files : FileTree) (workingDirectory : String) :
    (depth : Nat) → (path : Text) → (arguments : List Text) → Except IoFailure (String × List Text)
  | depth, path, arguments =>
    match files.locate true workingDirectory path.string with
    | .error failure => .error failure
    | .ok ⟨_, none⟩ => .error .notFound
    | .ok ⟨_, some (.program name)⟩ => .ok (name, path :: arguments)
    | .ok ⟨_, some (.file content true)⟩ =>
      match runnerOf? content with
      | none => .error .notExecutable
      | some (runner, argument) =>
        match depth with
        | 0 => .error .filesystemLoop
        | depth + 1 =>
          if runner.isEmpty then .error .permissionDenied
          else load files workingDirectory depth runner (argument.toList ++ path :: arguments)
    | .ok ⟨_, some _⟩ => .error .permissionDenied

def depthLimit : Nat := 5

def shellPath : Text := "/bin/sh".toList

def loadAs (asScript : Bool) (files : FileTree) (workingDirectory : String) (path : Text)
    (arguments : List Text) : Except IoFailure (String × List Text) :=
  match load files workingDirectory depthLimit path arguments with
  | .error .notExecutable =>
    if asScript then load files workingDirectory depthLimit shellPath (path :: arguments)
    else .error .notExecutable
  | found => found

/-- Looks for a program in directories, one after the other. A directory in which it is missing is
passed over, and so is one in which it may not be run, which is told if nothing better is found. -/
def search (asScript : Bool) (files : FileTree) (workingDirectory : String)
    (arguments : List Text) (name : Text) :
    (failure : IoFailure) → List Text → Except IoFailure (String × List Text)
  | failure, [] => .error failure
  | failure, directory :: rest =>
    let path := if directory.isEmpty then name else directory ++ '/' :: name
    match loadAs asScript files workingDirectory path arguments with
    | .ok found => .ok found
    | .error .permissionDenied =>
      search asScript files workingDirectory arguments name .permissionDenied rest
    | .error .notFound =>
      search asScript files workingDirectory arguments name (kept failure .notFound) rest
    | .error .notADirectory =>
      search asScript files workingDirectory arguments name (kept failure .notADirectory) rest
    | .error other => .error other
where
  kept (before now : IoFailure) : IoFailure :=
    if before = .permissionDenied then .permissionDenied else now

def directories (searchPath : Text) : List Text := go [] searchPath
where
  go : Text → Text → List Text
    | directory, [] => [directory.reverse]
    | directory, c :: rest =>
      if c = ':' then directory.reverse :: go [] rest else go (c :: directory) rest

def defaultSearchPath : Text := "/usr/local/sbin:/usr/local/bin:/usr/sbin:/usr/bin:/sbin:/bin".toList

/-- The program that a name runs. A name with a separator is a path, and any other is looked for in
the directories of the search path. -/
def find (asScript : Bool) (files : FileTree) (workingDirectory : String) (searchPath : Option Text)
    (name : Text) (arguments : List Text) : Except IoFailure (String × List Text) :=
  if name.contains '/' then loadAs asScript files workingDirectory name arguments
  else if name.isEmpty then .error .notFound
  else if FileTree.nameLimit < name.length then .error .nameTooLong
  else
    search asScript files workingDirectory arguments name .notFound
      (directories (searchPath.getD defaultSearchPath))

end Image

end LanguageClient
