import LanguageClient.Posix.Process.Image
import LanguageClient.Posix.Utility.Condition
import LanguageClient.Posix.Utility.Edit
import LanguageClient.Posix.Utility.Expression
import LanguageClient.Posix.Utility.Files

/-!
Running a program of the system. Some programs run others; `launch` says which process another
program is.
-/
namespace LanguageClient.Utility

open Shell (Text)

def findImage (environment : Table Text) (name : Text) (arguments : List Text) :
    Act (Except IoFailure Image) := do
  let (files, directory) ← Act.call .look
  let found := Image.find true files directory (environment.get? "PATH") name arguments
  return found.map fun (program, arguments) => ⟨program, arguments, environment⟩

def failedStatus (failure : IoFailure) : Nat :=
  if [IoFailure.notFound, .notADirectory, .nameTooLong, .filesystemLoop].contains failure then 127
  else 126

def becomeCommand (launch : Image → Process) (environment : Table Text) (name : Text)
    (arguments : List Text) : Act Nat := do
  match ← findImage environment name arguments with
  | .ok image => Act.become (launch image)
  | .error failure =>
    complain (name.string ++ ": " ++ failureText failure)
    return failedStatus failure

def runCommand (launch : Image → Process) (environment : Table Text) (words : List Text) :
    Act Nat := do
  match words with
  | [] => return 0
  | name :: arguments =>
    let child ← Act.fork (becomeCommand launch environment name arguments).toProcess
    match ← Act.call (.wait (some child)) with
    | .ended _ status => return status
    | _ => return 1

private def assigned? (word : Text) : Option (String × Text) :=
  match word.dropWhile (· ≠ '=') with
  | _ :: value => some (Text.string (word.takeWhile (· ≠ '=')), value)
  | [] => none

def env (launch : Image → Process) (environment : Table Text) : (fuel : Nat) → List Text → Act Nat
  | 0, _ => return 125
  | _, [] =>
    emitting (ofLines (environment.map fun (key, value) => Text.ofString key ++ '=' :: value)) 0
  | fuel + 1, word :: rest =>
    match word, rest with
    | ['-'], rest => env launch [] fuel rest
    | ['-', 'i'], rest => env launch [] fuel rest
    | ['-', 'u'], key :: rest => env launch (environment.erase key.string) fuel rest
    | ['-', 'S'], text :: rest => env launch environment fuel (words text ++ rest)
    | '-' :: 'S' :: text, rest => env launch environment fuel (words text ++ rest)
    | ['-', '-'], rest => env launch environment fuel rest
    | '-' :: _, _ => return 125
    | word, rest =>
      match assigned? word with
      | some (key, value) => env launch (environment.insert key value) fuel rest
      | none => becomeCommand launch environment word rest
where
  words (text : Text) : List Text := (splitAt ' ' text).filter (!·.isEmpty)

def xargs (launch : Image → Process) (environment : Table Text) (arguments : List Text) :
    Act Nat := do
  match Options.leading? "0rtx" "nIdPLs" arguments with
  | none => return 1
  | some o =>
    let text := Text.ofBytes ((← Act.readAll 0).toOption.getD [])
    let separator := if o.has '0' then some '\x00' else ((o.value? 'd').map expandSet).bind List.head?
    let items := match separator with
      | some c =>
        let pieces := splitAt c text
        if pieces.getLast? = some [] then pieces.dropLast else pieces
      | none =>
        if (o.value? 'I').isSome then (linesOf text).filter (!·.isEmpty)
        else (linesOf text).flatMap wordsOf
    let command := if o.operands.isEmpty then ["echo".toList] else o.operands
    let rec groups (n : Nat) : Nat → List Text → List (List Text)
      | 0, _ => []
      | fuel + 1, items =>
        if items.isEmpty then [] else items.take n :: groups n fuel (items.drop n)
    let commands := match o.value? 'I', (o.value? 'n').bind number? with
      | some mark, _ => items.map fun item => command.map fun word => replaceAll mark item word
      | none, some n => (groups (max n 1) items.length items).map (command ++ ·)
      | none, none => if items.isEmpty && o.has 'r' then [] else [command ++ items]
    let statuses ← commands.mapM (runCommand launch environment)
    return if statuses.any (· = 127) then 127 else if statuses.all (· = 0) then 0 else 123
where
  wordsOf (line : Text) : List Text :=
    let words := splitAt ' ' (line.map fun c => if c = '\t' then ' ' else c)
    (words.filter (!·.isEmpty)).map fun word => word.filter fun c => c ≠ '"' && c ≠ '\''
  replaceAll (mark item word : Text) : Text :=
    if mark.isEmpty then word
    else (List.range (word.length + 1)).foldl (fun (done, left) _ =>
      match left with
      | [] => (done, [])
      | c :: rest => if mark.isPrefixOf left then (done ++ item, left.drop mark.length)
        else (done ++ [c], rest)) (([] : Text), word) |>.1

def signalNames : List (String × Signal) :=
  [("HUP", 1), ("INT", 2), ("QUIT", 3), ("ILL", 4), ("TRAP", 5), ("ABRT", 6), ("BUS", 7), ("FPE", 8),
   ("KILL", 9), ("USR1", 10), ("SEGV", 11), ("USR2", 12), ("PIPE", 13), ("ALRM", 14), ("TERM", 15),
   ("STKFLT", 16), ("CHLD", 17), ("CONT", 18), ("STOP", 19), ("TSTP", 20), ("TTIN", 21),
   ("TTOU", 22), ("URG", 23), ("XCPU", 24), ("XFSZ", 25), ("VTALRM", 26), ("PROF", 27),
   ("WINCH", 28), ("IO", 29), ("PWR", 30), ("SYS", 31)]

def signal? (text : Text) : Option Signal :=
  match number? text with
  | some n => if n ≤ 64 then some n else none
  | none =>
    let name := (String.ofList text).toUpper
    let name := if name.startsWith "SIG" then (name.drop 3).toString else name
    if name = "EXIT" then some 0 else signalNames.lookup name

def timeout (launch : Image → Process) (environment : Table Text) (arguments : List Text) :
    Act Nat := do
  match Options.leading? "fpv" "sk" arguments with
  | none => return 125
  | some o =>
    match o.operands with
    | time :: name :: arguments =>
      match duration? time, ((o.value? 's').map signal?).getD (some .terminate) with
      | some milliseconds, some signal =>
        let child ← Act.fork (becomeCommand launch environment name arguments).toProcess
        let watcher : Act Nat := do
          Act.call (.sleep milliseconds)
          let _ ← Act.call (.send child signal)
          return 0
        let watcher ← Act.fork watcher.toProcess
        let waited ← Act.call (.wait (some child))
        let late ← Act.call (.send watcher .kill)
        let stillThere := late.toOption.isSome
        let last ← Act.call (.wait (some watcher))
        match waited, last with
        | .ended _ status, .ended _ 0 => return if milliseconds = 0 then status else 124
        | .ended _ status, _ => return if stillThere then status else 124
        | _, _ => return 1
      | _, _ => return 125
    | _ => return 125

def signalName (signal : Signal) : String :=
  ((signalNames.find? fun entry => entry.2 = signal).map Prod.fst).getD (toString signal)

def showSignals (words : List Text) : Act Nat :=
  match words with
  | [] => emitting (ofLines ((List.range 65).map fun n => (signalName n).toList)) 0
  | word :: _ =>
    match number? word with
    | none => pure 2
    | some n =>
      let signal := if 128 < n then n - 128 else n
      if signal = 0 || 64 < signal then pure 2
      else emitting ((signalName signal).toList ++ ['\n']) 0

def kill (arguments : List Text) : Act Nat := do
  if arguments.head? = some ['-', 'l'] then return ← showSignals (arguments.drop 1)
  let (signal, processes) := match arguments with
    | ['-', 's'] :: name :: rest => (signal? name, rest)
    | ['-', '-'] :: rest => (some .terminate, rest)
    | ('-' :: name) :: rest => (signal? name, rest)
    | rest => (some .terminate, rest)
  let processes := if processes.head? = some ['-', '-'] then processes.drop 1 else processes
  match signal with
  | none => return 2
  | some signal =>
    if processes.isEmpty then return 2
    else
      processes.foldlM (fun status process => do
        match number? process with
        | none => return 2
        | some n =>
          let sent : Except IoFailure Unit ← Act.call (.send n signal)
          match sent with
          | .ok () => return status
          | .error _ => return 1) 0

def sleep (arguments : List Text) : Act Nat := do
  match arguments.mapM duration? with
  | some (first :: others) =>
    Act.call (.sleep (others.foldl (· + ·) first))
    return 0
  | _ => return 1

def epoch : Nat := 1700000000

/-- Shows the time; of the parts that a format may ask for only the seconds since 1970 and their
fractions are known. -/
def date (arguments : List Text) : Act Nat := do
  let now : Nat ← Act.call .clock
  let rec shown : Text → Text
    | '%' :: 's' :: rest => digitsOf (epoch + now / 1000) ++ shown rest
    | '%' :: 'N' :: rest =>
      (digitsOf (1000 + now % 1000)).drop 1 ++ "000000".toList ++ shown rest
    | c :: rest => c :: shown rest
    | [] => []
  match arguments.find? fun a => a.head? = some '+' with
  | some format => emitting (shown (format.drop 1) ++ ['\n']) 0
  | none => emitting (digitsOf (epoch + now / 1000) ++ ['\n']) 0

def printenv (environment : Table Text) (arguments : List Text) : Act Nat := do
  match arguments with
  | [] => emitting (ofLines (environment.map fun (key, value) => Text.ofString key ++ '=' :: value)) 0
  | keys =>
    let values := keys.filterMap fun key => environment.get? key.string
    emitting (ofLines values) (if values.length = keys.length then 0 else 1)

def which (environment : Table Text) (arguments : List Text) : Act Nat := do
  let (files, directory) ← Act.call .look
  let directories := Image.directories ((environment.get? "PATH").getD Image.defaultSearchPath)
  let found := arguments.map fun name =>
    (if name.contains '/' then [name] else directories.map (within · name)).find? fun path =>
      ((files.look? directory path.string).map FileEntry.isExecutable).getD false
  emitting (ofLines (found.filterMap id)) (if found.all Option.isSome then 0 else 1)

def run (launch : Image → Process) (image : Image) : Process :=
  let arguments := image.arguments.drop 1
  let environment := image.environment
  Act.toProcess <| match image.program with
  | "true" => pure 0
  | "false" => pure 1
  | "echo" => plainEcho arguments
  | "printf" => printf arguments
  | "test" => test arguments
  | "[" => bracket arguments
  | "expr" => expr arguments
  | "cat" => cat arguments
  | "tee" => tee arguments
  | "head" => head arguments
  | "tail" => tail arguments
  | "dd" => dd arguments
  | "wc" => wc arguments
  | "tr" => tr arguments
  | "cut" => cut arguments
  | "sort" => sort arguments
  | "uniq" => uniq arguments
  | "rev" => rev arguments
  | "tac" => tac arguments
  | "nl" => nl arguments
  | "paste" => paste arguments
  | "fold" => fold arguments
  | "seq" => seq arguments
  | "od" => od arguments
  | "yes" => yes arguments
  | "sed" => sed arguments
  | "grep" => grep arguments
  | "egrep" => grep (['-', 'E'] :: arguments)
  | "fgrep" => grep (['-', 'F'] :: arguments)
  | "mkdir" => mkdir arguments
  | "rmdir" => rmdir arguments
  | "rm" => rm arguments
  | "unlink" => rm arguments
  | "mv" => mv arguments
  | "cp" => cp arguments
  | "ln" => ln arguments
  | "touch" => touch arguments
  | "chmod" => chmod arguments
  | "mktemp" => mktemp arguments
  | "basename" => basename arguments
  | "dirname" => dirname arguments
  | "readlink" => readlink arguments
  | "realpath" => realpath arguments
  | "cmp" => cmp arguments
  | "pwd" => pwd
  | "ls" => ls arguments
  | "which" => which environment arguments
  | "env" => env launch environment (arguments.length + 20) arguments
  | "printenv" => printenv environment arguments
  | "nohup" => through 0 arguments
  | "setsid" => through 0 arguments
  | "nice" => through 0 (if arguments.head? = some ['-', 'n'] then arguments.drop 2 else arguments)
  | "stdbuf" => through 0 (arguments.dropWhile fun a => a.head? = some '-')
  | "xargs" => xargs launch environment arguments
  | "timeout" => timeout launch environment arguments
  | "kill" => kill arguments
  | "sleep" => sleep arguments
  | "date" => date arguments
  | "sync" => pure 0
  | "whoami" => emitting "root\n".toList 0
  | "uname" => emitting "Linux\n".toList 0
  | "nproc" => emitting "1\n".toList 0
  | "tty" => emitting "not a tty\n".toList 1
  | "id" => emitting (if arguments = [['-', 'u']] then "0\n" else "uid=0(root) gid=0(root) groups=0(root)\n").toList 0
  | _ => pure 1
where
  through (status : Nat) (arguments : List Text) : Act Nat :=
    match arguments with
    | [] => pure status
    | name :: rest => becomeCommand launch image.environment name rest

end LanguageClient.Utility
