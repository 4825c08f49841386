import LanguageClient.Posix.Shell.Fields
import LanguageClient.Posix.Shell.State

/-!
Commands of the shell itself that change its state and run no others. Each gives its status. Some
of them end the shell when they are used wrongly.
-/
namespace LanguageClient.Shell

namespace Builtin

def assigned (word : Text) : String × Option Text :=
  match word.dropWhile (· ≠ '=') with
  | _ :: value => (String.ofList (word.takeWhile (· ≠ '=')), some value)
  | [] => (String.ofList word, none)

def quoted (text : Text) : Text :=
  '\'' :: text.flatMap (fun c => if c = '\'' then "'\"'\"'".toList else [c]) ++ ['\'']

private def declare (mark : Variable → Variable) (words : List Text) : Run Nat := do
  words.forM fun word => do
    let (name, value) := assigned word
    if !isName name.toList then Run.fail
    else
      match value with
      | some value => Run.setVariable name value
      | none => pure ()
      modify fun s =>
        let v := (s.bindings.get? name).getD ⟨none, false, false⟩
        { s with bindings := s.bindings.insert name (mark v) }
  return 0

private def showVariables (command : String) (marked : Variable → Bool) : Run Nat := do
  let s ← get
  let lines := (s.bindings.filter fun (_, v) => marked v).map fun (name, v) =>
    (command ++ " " ++ name).toList ++
      ((v.value.map fun value => '=' :: quoted value).getD [])
  Run.act (Utility.emitting (Utility.ofLines lines) 0)

private def withoutFlag (words : List Text) : List Text :=
  match words with
  | ['-', '-'] :: rest => rest
  | ['-', 'p'] :: rest => rest
  | words => words

def share (words : List Text) : Run Nat := do
  match withoutFlag words with
  | [] => showVariables "export" Variable.exported
  | words => declare (fun v => { v with exported := true }) words

def readOnly (words : List Text) : Run Nat := do
  match withoutFlag words with
  | [] => showVariables "readonly" Variable.fixed
  | words => declare (fun v => { v with fixed := true }) words

def makeLocal (words : List Text) : Run Nat := do
  match (← get).locals with
  | [] => Run.fail
  | _ :: _ =>
    words.forM fun word => do
      let (name, value) := assigned word
      if name = "-" then pure ()
      else if !isName name.toList then Run.fail
      else
        modify fun s =>
          match s.locals with
          | [] => s
          | own :: others =>
            if own.any fun entry => entry.1 = name then s
            else { s with locals := ((name, s.bindings.get? name) :: own) :: others }
        match value with
        | some value => Run.setVariable name value
        | none => pure ()
    return 0

def unset (words : List Text) : Run Nat := do
  let (functions, names) := match words with
    | ['-', 'f'] :: rest => (true, rest)
    | ['-', 'v'] :: rest => (false, rest)
    | ['-', '-'] :: rest => (false, rest)
    | rest => (false, rest)
  names.forM fun name => do
    let name := String.ofList name
    let s ← get
    if functions then set { s with functions := s.functions.erase name }
    else if ((s.bindings.get? name).map Variable.fixed).getD false then Run.fail
    else set { s with bindings := s.bindings.erase name }
  return 0

def namedFlags : List (String × Char) :=
  [("errexit", 'e'), ("noglob", 'f'), ("ignoreeof", 'I'), ("interactive", 'i'), ("monitor", 'm'),
   ("noexec", 'n'), ("stdin", 's'), ("xtrace", 'x'), ("verbose", 'v'), ("vi", 'V'), ("emacs", 'E'),
   ("noclobber", 'C'), ("allexport", 'a'), ("notify", 'b'), ("nounset", 'u'), ("nolog", 'L'),
   ("debug", 'D')]

def flagLetters : List Char := namedFlags.map Prod.snd

/-- What comes of reading options: the flags after them, and the words after them if these are to
be the arguments. -/
structure FlagReading where
  flags : Flags
  rest : List Text
  marked : Bool

private def switched (on : Bool) (flags : Flags) (letter : Char) : Flags :=
  if on then if flags.contains letter then flags else flags ++ [letter]
  else flags.filter (· ≠ letter)

def readFlags (known : List Char) : (fuel : Nat) → Flags → List Text → Option FlagReading
  | 0, _, _ => none
  | fuel + 1, flags, words =>
    match words with
    | ['-', '-'] :: rest => some ⟨flags, rest, true⟩
    | ['-'] :: rest => some ⟨flags.filter fun c => c ≠ 'x' && c ≠ 'v', rest, true⟩
    | ['-', 'o'] :: name :: rest => do
      let letter ← namedFlags.lookup (String.ofList name)
      readFlags known fuel (switched true flags letter) rest
    | ['+', 'o'] :: name :: rest => do
      let letter ← namedFlags.lookup (String.ofList name)
      readFlags known fuel (switched false flags letter) rest
    | ('-' :: c :: letters) :: rest =>
      let plain := (c :: letters).filter (· ≠ 'o')
      let flags := plain.foldl (switched true) flags
      if !plain.all known.contains then none
      else if plain.length = letters.length + 1 then readFlags known fuel flags rest
      else
        match rest with
        | [] => none
        | name :: rest => do
          let letter ← namedFlags.lookup (String.ofList name)
          readFlags known fuel (switched true flags letter) rest
    | ('+' :: c :: letters) :: rest =>
      if (c :: letters).all known.contains then
        readFlags known fuel ((c :: letters).foldl (switched false) flags) rest
      else none
    | words => some ⟨flags, words, false⟩

def configure (words : List Text) : Run Nat := do
  let s ← get
  match words with
  | [] =>
    let lines := s.bindings.filterMap fun (name, v) =>
      v.value.map fun value => name.toList ++ '=' :: quoted value
    Run.act (Utility.emitting (Utility.ofLines lines) 0)
  | [['-', 'o']] => return 0
  | [['+', 'o']] => return 0
  | words =>
    match readFlags flagLetters (words.length + 1) s.flags words with
    | none => Run.fail
    | some ⟨flags, rest, marked⟩ =>
      set { s with
        flags := flags
        arguments := if marked || !rest.isEmpty then rest else s.arguments
        optionPlace := if marked || !rest.isEmpty then 0 else s.optionPlace }
      return 0

def shift (words : List Text) : Run Nat := do
  let s ← get
  match words with
  | [] =>
    if s.arguments.isEmpty then Run.fail
    else
      set { s with arguments := s.arguments.drop 1 }
      return 0
  | word :: _ =>
    match Utility.number? word with
    | some n =>
      if s.arguments.length < n then Run.fail
      else
        set { s with arguments := s.arguments.drop n }
        return 0
    | none => Run.fail

def getOptions (words : List Text) : Run Nat := do
  match words with
  | letters :: name :: given =>
    let name := String.ofList name
    let s ← get
    let arguments := if given.isEmpty then s.arguments else given
    let index := ((s.value? "OPTIND").bind Utility.number?).getD 1
    let place := if index = 0 then 0 else s.optionPlace
    let index := max index 1
    let silent := letters.head? = some ':'
    let current := arguments[index - 1]?.getD []
    let leave (index place status : Nat) : Run Nat := do
      Run.setVariable "OPTIND" (Utility.digitsOf index)
      modify fun s => { s with optionPlace := place }
      return status
    let noMore (index : Nat) : Run Nat := do
      Run.setVariable name ['?']
      leave index 0 1
    if place = 0 && (current.length < 2 || current.head? ≠ some '-') then noMore index
    else if place = 0 && current = ['-', '-'] then noMore (index + 1)
    else
      let place := max place 1
      match current[place]? with
      | none => noMore index
      | some letter =>
        let lastLetter := current.length ≤ place + 1
        let (nextIndex, nextPlace) := if lastLetter then (index + 1, 0) else (index, place + 1)
        match (letters.dropWhile (· ≠ letter)).drop 1 |>.head?, letter ≠ ':' && letters.contains letter with
        | _, false =>
          Run.setVariable name ['?']
          if silent then Run.setVariable "OPTARG" [letter]
          else modify fun s => { s with bindings := s.bindings.erase "OPTARG" }
          leave nextIndex nextPlace 0
        | some ':', true =>
          let value := if !lastLetter then some (current.drop (place + 1))
            else arguments[index]?
          let nextIndex := if !lastLetter then index + 1 else index + 2
          match value with
          | some value =>
            Run.setVariable name [letter]
            Run.setVariable "OPTARG" value
            leave nextIndex 0 0
          | none =>
            Run.setVariable name [if silent then ':' else '?']
            if silent then Run.setVariable "OPTARG" [letter]
            else modify fun s => { s with bindings := s.bindings.erase "OPTARG" }
            leave (index + 1) 0 0
        | _, true =>
          Run.setVariable name [letter]
          modify fun s => { s with bindings := s.bindings.erase "OPTARG" }
          leave nextIndex nextPlace 0
  | _ => Run.fail

/-- Reads a line byte by byte: its characters, each with whether a backslash stood before it, and
whether the line has an end. Without `raw` a backslash takes the meaning from the next character. -/
private def readLine (raw : Bool) : (fuel : Nat) → (escaped : Bool) → Field →
    Run (Field × Bool)
  | 0, _, line => return (line.reverse, false)
  | fuel + 1, escaped, line => do
    let found : Except IoFailure Frame.Bytes ← Run.call (.read 0 1)
    match found with
    | .error _ => return (line.reverse, false)
    | .ok [] => return (line.reverse, false)
    | .ok (byte :: _) =>
      let c := Char.ofNat byte.toNat
      if c = '\x00' then readLine raw fuel escaped line
      else if escaped then
        readLine raw fuel false (if c = '\n' then line else (c, true) :: line)
      else if c = '\\' && !raw then readLine raw fuel true line
      else if c = '\n' then return (line.reverse, true)
      else readLine raw fuel false ((c, false) :: line)

private def isBlank (c : Char) : Bool := c = ' ' || c = '\t' || c = '\n'

private def separates (separators : Text) (blanks : Bool) (p : Char × Bool) : Bool :=
  !p.2 && separators.contains p.1 && (!blanks || isBlank p.1)

private def takeField (separators : Text) (line : Field) : Field × Field :=
  let field := line.takeWhile fun p => !separates separators false p
  let rest := (line.drop field.length).dropWhile (separates separators true)
  match rest with
  | p :: more =>
    if separates separators false p then
      (field, more.dropWhile (separates separators true))
    else (field, rest)
  | [] => (field, [])

private def spread (separators : Text) : List String → Field → Run Unit
  | [], _ => pure ()
  | [name], line => do
    let kept := (line.reverse.dropWhile (separates separators true)).reverse
    let (field, rest) := takeField separators kept
    Run.setVariable name ((if rest.isEmpty then field else kept).map Prod.fst)
  | name :: names, line => do
    let (field, rest) := takeField separators line
    Run.setVariable name (field.map Prod.fst)
    spread separators names rest

def read (words : List Text) : Run Nat := do
  match Utility.Options.leading? "r" "p" words with
  | none => return 2
  | some o =>
    let names := o.operands.map String.ofList
    if names.isEmpty || !(o.operands.all isName) then return 2
    else
      let (line, ended) ← readLine (o.has 'r') Act.stepLimit false []
      let separators := (← get).separators
      spread separators names (line.dropWhile (separates separators true))
      return if ended then 0 else 1

def normalized (path : Text) : Text :=
  let names := (Utility.splitAt '/' path).foldl (fun names name =>
    if name.isEmpty || name = ['.'] then names
    else if name = ['.', '.'] then names.drop 1
    else name :: names) []
  '/' :: ['/'].intercalate names.reverse

private def isRooted (path : Text) : Bool :=
  match path with
  | '/' :: _ => true
  | ['.'] => true
  | '.' :: '/' :: _ => true
  | ['.', '.'] => true
  | '.' :: '.' :: '/' :: _ => true
  | _ => false

private def findDirectory (target : Text) : Run (Text × Bool) := do
  let s ← get
  let (files, directory) ← Run.call .look
  let parents := match s.value? "CDPATH" with
    | some path => if isRooted target then [] else Image.directories path
    | none => []
  let place (parent : Text) : Text := if parent.isEmpty then target else Utility.within parent target
  let isPlace (parent : Text) : Bool := files.isDirectory directory (place parent).string
  match parents.find? isPlace with
  | some parent => return (place parent, !parent.isEmpty)
  | none => return (target, false)

def cd (words : List Text) : Run Nat := do
  let s ← get
  let (physical, words) := match words with
    | ['-', 'P'] :: rest => (true, rest)
    | ['-', 'L'] :: rest => (false, rest)
    | ['-', '-'] :: rest => (false, rest)
    | rest => (false, rest)
  let goesBack := words.head? = some ['-']
  let wanted := match words with
    | [] => (s.value? "HOME").getD []
    | ['-'] :: _ => (s.value? "OLDPWD").getD []
    | word :: _ => word
  let (target, searched) ← findDirectory (if wanted.isEmpty then ['.'] else wanted)
  let before := (s.value? "PWD").getD ['/']
  let path := if target.head? = some '/' then target else before ++ '/' :: target
  let path := if physical then path else normalized path
  let entered : Except IoFailure Unit ← Run.call (.enter path.string)
  match entered with
  | .error _ => return 2
  | .ok () =>
    let (_, directory) ← Run.call .look
    let now := if physical then Text.ofString directory else path
    modify fun s => (s.setVariable "OLDPWD" before).setVariable "PWD" now
    if goesBack || searched then Run.act (Utility.emitting (now ++ ['\n']) 0) else return 0

def pwd (words : List Text) : Run Nat := do
  let (_, directory) ← Run.call .look
  let s ← get
  let path := if words.head? = some ['-', 'P'] then Text.ofString directory
    else (s.value? "PWD").getD (Text.ofString directory)
  Run.act (Utility.emitting (path ++ ['\n']) 0)

def keywords : List String :=
  ["!", "case", "do", "done", "elif", "else", "esac", "fi", "for", "if", "in", "then", "until",
   "while", "\x7b", "\x7d"]

def special : List String :=
  [".", ":", "break", "continue", "eval", "exec", "exit", "export", "local", "readonly", "return",
   "set", "shift", "times", "trap", "unset"]

def regular : List String :=
  ["[", "alias", "bg", "cd", "chdir", "command", "echo", "false", "fg", "getopts", "hash", "jobs",
   "kill", "printf", "pwd", "read", "test", "true", "type", "ulimit", "umask", "unalias", "wait"]

def whereIs (verbose : Bool) (name : Text) : Run Nat := do
  let s ← get
  let key := String.ofList name
  let say (short long : Text) : Run Nat :=
    Run.act (Utility.emitting ((if verbose then name ++ ' ' :: long else short) ++ ['\n']) 0)
  if keywords.contains key then say name "is a shell keyword".toList
  else if special.contains key then say name "is a special shell builtin".toList
  else if (s.functions.get? key).isSome then say name "is a shell function".toList
  else if regular.contains key then say name "is a shell builtin".toList
  else
    let (files, directory) ← Run.call .look
    let directories := Image.directories ((s.value? "PATH").getD Image.defaultSearchPath)
    let paths := if name.contains '/' then [name] else directories.map (Utility.within · name)
    let isProgram (path : Text) : Bool :=
      ((files.look? directory path.string).map FileEntry.isExecutable).getD false
    match paths.find? isProgram with
    | some path => say path ("is ".toList ++ path)
    | none =>
      if verbose then Run.act (Utility.emitting (name ++ ": not found\n".toList) 127)
      else return 127

def processNumber (s : State) (word : Text) : Text :=
  match word with
  | '%' :: rest =>
    match Utility.number? rest with
    | some n =>
      match s.children.reverse[n - 1]? with
      | some (child, _) => Utility.digitsOf child
      | none => word
    | none => ((s.lastChild.map Utility.digitsOf).getD word)
  | word => word

end Builtin

end LanguageClient.Shell
