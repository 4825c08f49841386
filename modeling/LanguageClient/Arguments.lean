import LanguageClient.Table
import LanguageClient.Text.Digits

/-!
The command line. Words are read from the left: the name of a command leads to its own words,
flags and values stand in any order, and after a double dash every word is a value. Help and
version are given as soon as they are asked for, unless something before them is wrong.
-/
namespace LanguageClient

inductive Command where
  | goal (location : String)
  | diagnostics (file : String) (waitMs : UInt64)
  | refresh (file : String) (waitMs : UInt64)
  | configInit (toGlobal force : Bool)
  | configShow (ofGlobal : Bool)
  | configPath
  deriving DecidableEq, Repr

inductive Usage where
  | help
  | version (program : String)
  | wrong
  deriving DecidableEq, Repr

namespace Usage

def exitStatus : Usage → Nat
  | .wrong => 2
  | _ => 0

end Usage

namespace Arguments

def programName : String := "lean-client"

def programVersion : String := "1.0.0"

/-- The text that shows the version; a command shows its own name in it. -/
def versionText (program : String) : String := program ++ " " ++ programVersion ++ "\n"

inductive ValueKind where
  | text
  | path
  | number
  deriving DecidableEq, Repr

namespace ValueKind

def limit : Nat := 0xFFFFFFFFFFFFFFFF

def accepts (kind : ValueKind) (value : String) : Bool :=
  match kind with
  | .text => true
  | .path => value ≠ ""
  | .number => (Text.readUnsigned limit value.toList).isOk

end ValueKind

structure Flag where
  name : String
  letter : Option Char
  deriving DecidableEq, Repr

structure Grammar where
  value : Option ValueKind
  options : List (String × ValueKind)
  flags : List Flag
  deriving DecidableEq, Repr

structure Given where
  value : Option String
  options : List (String × String)
  flags : List String
  deriving DecidableEq, Repr

namespace Given

def empty : Given := ⟨none, [], []⟩

def hasFlag (g : Given) (name : String) : Bool := g.flags.contains name

def addFlag (g : Given) (name : String) : Except Usage Given :=
  if g.flags.contains name then .error .wrong else .ok { g with flags := name :: g.flags }

def addOption (g : Given) (name value : String) (kind : ValueKind) : Except Usage Given :=
  if (Table.get? g.options name).isSome || !kind.accepts value then .error .wrong
  else .ok { g with options := (name, value) :: g.options }

def addValue (g : Given) (grammar : Grammar) (value : String) : Except Usage Given :=
  match grammar.value, g.value with
  | some kind, none => if kind.accepts value then .ok { g with value := some value } else .error .wrong
  | _, _ => .error .wrong

end Given

inductive Word where
  | escape
  | long (name : String) (value : Option String)
  | letters (cs : List Char)
  | plain
  deriving DecidableEq, Repr

def Word.ofText (text : String) : Word :=
  match text.toList with
  | ['-', '-'] => .escape
  | '-' :: '-' :: cs =>
    match cs.dropWhile (· ≠ '=') with
    | [] => .long (.ofList cs) none
    | _ :: value => .long (.ofList (cs.takeWhile (· ≠ '='))) (some (.ofList value))
  | '-' :: c :: cs => .letters (c :: cs)
  | _ => .plain

def readLetters (program : String) (grammar : Grammar) : Given → List Char → Except Usage Given
  | g, [] => .ok g
  | g, c :: rest =>
    match grammar.flags.find? fun flag => flag.letter = some c with
    | some flag =>
      match g.addFlag flag.name with
      | .ok g => readLetters program grammar g rest
      | .error e => .error e
    | none =>
      if c = 'h' then .error .help
      else if c = 'V' then .error (.version program)
      else .error .wrong

def readFlag (program : String) (grammar : Grammar) (g : Given) (name : String) :
    Except Usage Given :=
  if grammar.flags.any fun flag => flag.name = name then g.addFlag name
  else if name = "help" then .error .help
  else if name = "version" then .error (.version program)
  else .error .wrong

/-- Reads the words after the name of a command. `program` is the name that its version is shown
with. -/
def readWords (program : String) (grammar : Grammar) : (onlyValues : Bool) → Given → List String →
    Except Usage Given
  | _, g, [] => .ok g
  | true, g, word :: rest =>
    match g.addValue grammar word with
    | .ok g => readWords program grammar true g rest
    | .error e => .error e
  | false, g, word :: rest =>
    match Word.ofText word with
    | .escape => readWords program grammar true g rest
    | .plain =>
      match g.addValue grammar word with
      | .ok g => readWords program grammar false g rest
      | .error e => .error e
    | .letters cs =>
      match readLetters program grammar g cs with
      | .ok g => readWords program grammar false g rest
      | .error e => .error e
    | .long name attached =>
      match Table.get? grammar.options name, attached, rest with
      | none, some _, _ => .error .wrong
      | none, none, rest =>
        match readFlag program grammar g name with
        | .ok g => readWords program grammar false g rest
        | .error e => .error e
      | some kind, some value, rest =>
        match g.addOption name value kind with
        | .ok g => readWords program grammar false g rest
        | .error e => .error e
      | some _, none, [] => .error .wrong
      | some kind, none, value :: rest =>
        if Word.ofText value = .plain then
          match g.addOption name value kind with
          | .ok g => readWords program grammar false g rest
          | .error e => .error e
        else .error .wrong

def goalGrammar : Grammar := ⟨some .text, [], []⟩

def waitGrammar : Grammar := ⟨some .path, [("wait-ms", .number)], []⟩

def initGrammar : Grammar := ⟨none, [], [⟨"global", none⟩, ⟨"force", some 'f'⟩]⟩

def showGrammar : Grammar := ⟨none, [], [⟨"global", none⟩]⟩

def bareGrammar : Grammar := ⟨none, [], []⟩

/-- How long diagnostics are waited for, in milliseconds, unless told otherwise. -/
def defaultWait : UInt64 := 10000

def waitOf (g : Given) : UInt64 :=
  match Table.get? g.options "wait-ms" with
  | none => defaultWait
  | some text =>
    match Text.readUnsigned ValueKind.limit text.toList with
    | .ok n => UInt64.ofNat n
    | .error _ => defaultWait

def valueOf (g : Given) : Except Usage String :=
  match g.value with
  | some value => .ok value
  | none => .error .wrong

def inside (program name : String) : String := program ++ "-" ++ name

def readLeading (program word : String) : Usage :=
  match Word.ofText word with
  | .letters cs =>
    match readLetters program bareGrammar .empty cs with
    | .error e => e
    | .ok _ => .wrong
  | .long name none =>
    match readFlag program bareGrammar .empty name with
    | .error e => e
    | .ok _ => .wrong
  | _ => .wrong

def readConfigHelp : List String → Usage
  | [] => .help
  | [name] => if ["init", "show", "path", "help"].contains name then .help else .wrong
  | _ => .wrong

def readHelp : List String → Usage
  | [] => .help
  | "config" :: rest => readConfigHelp rest
  | [name] => if ["goal", "diagnostics", "refresh", "help"].contains name then .help else .wrong
  | _ => .wrong

def readConfig (program : String) : List String → Except Usage Command
  | "init" :: rest => do
    let g ← readWords (inside program "init") initGrammar false .empty rest
    pure (.configInit (g.hasFlag "global") (g.hasFlag "force"))
  | "show" :: rest => do
    let g ← readWords (inside program "show") showGrammar false .empty rest
    pure (.configShow (g.hasFlag "global"))
  | "path" :: rest => do
    let _ ← readWords (inside program "path") bareGrammar false .empty rest
    pure .configPath
  | "help" :: rest => .error (readConfigHelp rest)
  | word :: _ => .error (readLeading program word)
  | [] => .error .wrong

def read : List String → Except Usage Command
  | "goal" :: rest => do
    let g ← readWords (inside programName "goal") goalGrammar false .empty rest
    pure (.goal (← valueOf g))
  | "diagnostics" :: rest => do
    let g ← readWords (inside programName "diagnostics") waitGrammar false .empty rest
    pure (.diagnostics (← valueOf g) (waitOf g))
  | "refresh" :: rest => do
    let g ← readWords (inside programName "refresh") waitGrammar false .empty rest
    pure (.refresh (← valueOf g) (waitOf g))
  | "config" :: rest => readConfig (inside programName "config") rest
  | "help" :: rest => .error (readHelp rest)
  | word :: _ => .error (readLeading programName word)
  | [] => .error .wrong

end Arguments

end LanguageClient
