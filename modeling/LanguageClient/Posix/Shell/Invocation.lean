import LanguageClient.Posix.Shell.Run

/-!
How a shell is called. Options come first; what follows is the text of a script if `-c` says so, or
the path of one, and then the arguments. Without either the script is read from the input.
-/
namespace LanguageClient.Shell

inductive Source where
  | given (text : Text)
  | file (path : Text)
  | input
  deriving DecidableEq, Repr

structure Invocation where
  flags : Flags
  source : Source
  name : Text
  arguments : List Text
  deriving DecidableEq, Repr

namespace Invocation

def read? (words : List Text) : Option Invocation := do
  let own := words.headD []
  let words := words.drop 1
  let reading ← Builtin.readFlags ('c' :: 'l' :: Builtin.flagLetters) (words.length + 1) [] words
  let flags := reading.flags.filter fun c => c ≠ 'c' && c ≠ 'l'
  match reading.flags.contains 'c', flags.contains 's', reading.rest with
  | true, _, [] => none
  | true, _, [text] => some ⟨flags, .given text, own, []⟩
  | true, _, text :: name :: arguments => some ⟨flags, .given text, name, arguments⟩
  | false, true, arguments => some ⟨flags, .input, own, arguments⟩
  | false, false, [] => some ⟨'s' :: flags, .input, own, []⟩
  | false, false, path :: arguments => some ⟨flags, .file path, path, arguments⟩

def text (invocation : Invocation) : Act (Except IoFailure Text) :=
  match invocation.source with
  | .given text => pure (.ok text)
  | .file path => Utility.readNamed (if path = ['-'] then ['.', '/', '-'] else path)
  | .input => Utility.readNamed ['-']

def directoryName (files : FileTree) (directory : String) (environment : Table Text) : Text :=
  let physical := Text.ofString directory
  match environment.get? "PWD" with
  | some named =>
    match named.head?, files.canonical directory named.string with
    | some '/', .ok place => if place = directory then named else physical
    | _, _ => physical
  | none => physical

def bindings (environment : Table Text) (directory : Text) (parent : Nat) : Table Variable :=
  let given : Table Variable :=
    (environment.filter fun entry => isName entry.1.toList).map fun (name, value) =>
      (name, ⟨some value, true, false⟩)
  let isGiven (name : String) : Bool := (given.get? name).isSome
  let own : List (String × Variable) :=
    [("IFS", ⟨some [' ', '\t', '\n'], isGiven "IFS", false⟩),
     ("OPTIND", ⟨some ['1'], isGiven "OPTIND", false⟩),
     ("PATH", ⟨some ((environment.get? "PATH").getD Image.defaultSearchPath), isGiven "PATH", false⟩),
     ("PPID", ⟨some (Utility.digitsOf parent), isGiven "PPID", false⟩),
     ("PWD", ⟨some directory, true, false⟩)]
  own.foldl (fun bindings (name, v) => bindings.insert name v) given

end Invocation

def State.start (invocation : Invocation) (bindings : Table Variable) (process : Nat) : State where
  bindings := bindings
  functions := []
  arguments := invocation.arguments
  name := invocation.name
  status := 0
  flags := invocation.flags
  process := process
  lastChild := none
  children := []
  traps := []
  heard := []
  locals := []
  loops := 0
  kept := []
  outputStatus := none
  optionPlace := 0

def misuseStatus : Nat := 2

def start (launch : Image → Process) (environment : Table Text) (words : List Text) : Process :=
  Act.toProcess do
    match Invocation.read? words with
    | none => return misuseStatus
    | some invocation =>
      match ← invocation.text with
      | .error _ => return misuseStatus
      | .ok text =>
        let (process, parent) : Nat × Nat ← Act.call .self
        let (files, directory) : FileTree × String ← Act.call .look
        let bindings := Invocation.bindings environment
          (Invocation.directoryName files directory environment) parent
        let isGiven := match invocation.source with
          | .given _ => true
          | _ => false
        Act.become (Run.toProcess (.start invocation bindings process)
          (runLines launch Act.stepLimit ⟨isGiven, false⟩ text) (finish launch Act.stepLimit))

end LanguageClient.Shell
