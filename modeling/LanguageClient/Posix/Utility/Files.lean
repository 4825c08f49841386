import LanguageClient.Posix.Utility.Basic

/-!
Commands that make, move, remove and list files.
-/
namespace LanguageClient.Utility

open Shell (Text)

def withoutLastSlashes (path : Text) : Text :=
  let kept := (path.reverse.dropWhile (· = '/')).reverse
  if kept.isEmpty && !path.isEmpty then ['/'] else kept

def lastName (path : Text) : Text :=
  let path := withoutLastSlashes path
  if path = ['/'] then path else (path.reverse.takeWhile (· ≠ '/')).reverse

def directoryName (path : Text) : Text :=
  let path := withoutLastSlashes path
  if path = ['/'] then path
  else
    let before := (path.reverse.dropWhile (· ≠ '/')).reverse
    if before.isEmpty then ['.'] else withoutLastSlashes before

def within (directory name : Text) : Text :=
  if directory.getLast? = some '/' then directory ++ name else directory ++ '/' :: name

def basename (arguments : List Text) : Act Nat :=
  match Options.of? "az" "s" [] arguments with
  | none => return 1
  | some o =>
    let strip (name ending : Text) : Text :=
      if name ≠ ending && ending.isSuffixOf name then name.take (name.length - ending.length)
      else name
    match o.operands with
    | [] => return 1
    | path :: rest =>
      if o.has 'a' || (o.value? 's').isSome then
        emitting (ofLines (o.operands.map fun p => strip (lastName p) ((o.value? 's').getD []))) 0
      else if rest.length > 1 then return 1
      else emitting (strip (lastName path) (rest.headD []) ++ ['\n']) 0

def dirname (arguments : List Text) : Act Nat :=
  match Options.of? "z" "" [] arguments with
  | none => return 1
  | some o =>
    if o.operands.isEmpty then return 1
    else emitting (ofLines (o.operands.map directoryName)) 0

def edit (command : String) (path : Text) (change : Edit) : Act Nat := do
  let done : Except IoFailure Unit ← Act.call (.edit change)
  match done with
  | .ok () => return 0
  | .error failure =>
    complain (command ++ ": " ++ path.string ++ ": " ++ failureText failure)
    return 1

def forEach (operands : List Text) (act : Text → Act Nat) : Act Nat :=
  operands.foldlM (fun status operand => do return max status (← act operand)) 0

private def isDirectory (path : Text) : Act Bool := do
  let (files, directory) ← Act.call .look
  return files.isDirectory directory path.string

private def entryAt (path : Text) : Act (Option (List String × FileEntry)) := do
  let (files, directory) ← Act.call .look
  match files.locate false directory path.string with
  | .ok ⟨names, some entry⟩ => return some (names, entry)
  | _ => return none

def leading (path : Text) : List Text :=
  ((List.range path.length).filter fun i =>
    0 < i && path[i]? = some '/' && path[i - 1]? ≠ some '/').map (path.take ·) ++ [path]

def mkdir (arguments : List Text) : Act Nat := do
  match Options.of? "pv" "m" [("parents", 'p'), ("mode", 'm'), ("verbose", 'v')] arguments with
  | none => return 1
  | some o =>
    if o.operands.isEmpty then return 1
    else
      forEach o.operands fun path => do
        if o.has 'p' then
          let statuses ← (leading (withoutLastSlashes path)).mapM fun path => do
            if ← isDirectory path then return 0
            else edit "mkdir" path (.makeDirectory path.string)
          return (statuses.getLast?).getD 0
        else edit "mkdir" path (.makeDirectory (withoutLastSlashes path).string)

def rmdir (arguments : List Text) : Act Nat := do
  match Options.of? "pv" "" [("parents", 'p')] arguments with
  | none => return 1
  | some o =>
    if o.operands.isEmpty then return 1
    else
      forEach o.operands fun path => do
        let paths := if o.has 'p' then (leading (withoutLastSlashes path)).reverse else [path]
        forEach paths fun path => edit "rmdir" path (.removeDirectory path.string)

private def removeAll : (depth : Nat) → Text → Act Nat
  | 0, _ => return 1
  | depth + 1, path => do
    match ← entryAt path with
    | none => return 0
    | some (names, .directory) =>
      let (files, _) ← Act.call .look
      let status ← forEach ((files.children names).keys.map Text.ofString) fun name =>
        removeAll depth (within path name)
      return max status (← edit "rm" path (.removeDirectory path.string))
    | some _ => edit "rm" path (.removeFile path.string)

private def depthLimit : Nat := 100

def rm (arguments : List Text) : Act Nat := do
  match Options.of? "rRfivd" "" [("recursive", 'r'), ("force", 'f')] arguments with
  | none => return 1
  | some o =>
    let force := o.has 'f'
    if o.operands.isEmpty then return if force then 0 else 1
    else
      forEach o.operands fun path => do
        match ← entryAt path with
        | none =>
          if force then return 0
          else
            complain ("rm: cannot remove '" ++ path.string ++ "': No such file or directory")
            return 1
        | some (_, .directory) =>
          if o.has 'r' || o.has 'R' then removeAll depthLimit path
          else if o.has 'd' then edit "rm" path (.removeDirectory path.string)
          else
            complain ("rm: cannot remove '" ++ path.string ++ "': Is a directory")
            return 1
        | some _ => edit "rm" path (.removeFile path.string)

private def destination (target source : Text) : Act Text := do
  return if ← isDirectory target then within (withoutLastSlashes target) (lastName source) else target

def mv (arguments : List Text) : Act Nat := do
  match Options.of? "finvuT" "t" [("force", 'f'), ("no-clobber", 'n')] arguments with
  | none => return 1
  | some o =>
    match o.operands.reverse with
    | target :: source :: sources =>
      if !sources.isEmpty && !(← isDirectory target) then return 1
      else
        forEach (source :: sources).reverse fun source => do
          let place ← destination target source
          if o.has 'n' && (← entryAt place).isSome then return 0
          else edit "mv" source (.move source.string place.string)
    | _ => return 1

def writeNew (command : String) (path : Text) (opening : Opening) (content : Frame.Bytes) :
    Act Nat := do
  let opened : Except IoFailure Nat ← Act.call (.openFile path.string opening)
  match opened with
  | .error failure =>
    complain (command ++ ": " ++ path.string ++ ": " ++ failureText failure)
    return 1
  | .ok descriptor =>
    let written ← Act.writeAll descriptor content
    let _ ← Act.call (.close descriptor)
    return if written then 0 else 1

private def copyTo (deep : Bool) : (depth : Nat) → (source target : Text) → Act Nat
  | 0, _, _ => return 1
  | depth + 1, source, target => do
    let (files, directory) ← Act.call .look
    match files.locate (!deep) directory source.string with
    | .ok ⟨names, some .directory⟩ =>
      if !deep then
        complain ("cp: -r not specified; omitting directory '" ++ source.string ++ "'")
        return 1
      else
        if !(← isDirectory target) then
          let _ ← edit "cp" target (.makeDirectory target.string)
        forEach ((files.children names).keys.map Text.ofString) fun name =>
          copyTo deep depth (within source name) (within target name)
    | .ok ⟨_, some (.link path)⟩ => edit "cp" target (.makeLink target.string path)
    | .ok ⟨_, some entry⟩ =>
      let content ← readNamed (if source = ['-'] then ['.', '/', '-'] else source)
      match content with
      | .error _ => return 1
      | .ok content =>
        let missing := (files.look? directory target.string).isNone
        let status ← writeNew "cp" target .toWrite content.toBytes
        if missing && entry.isExecutable then edit "cp" target (.setExecutable target.string true)
        else return status
    | _ =>
      complain ("cp: cannot stat '" ++ source.string ++ "': No such file or directory")
      return 1

def cp (arguments : List Text) : Act Nat := do
  match Options.of? "rRafpdinuvTL" "" [("recursive", 'r'), ("archive", 'a')] arguments with
  | none => return 1
  | some o =>
    match o.operands.reverse with
    | target :: source :: sources =>
      if !sources.isEmpty && !(← isDirectory target) then return 1
      else
        let deep := o.has 'r' || o.has 'R' || o.has 'a'
        forEach (source :: sources).reverse fun source => do
          let place ← destination target source
          if o.has 'n' && (← entryAt place).isSome then return 0
          else copyTo deep depthLimit source place
    | _ => return 1

def ln (arguments : List Text) : Act Nat := do
  match Options.of? "sfnvrT" "" [("symbolic", 's'), ("force", 'f')] arguments with
  | none => return 1
  | some o =>
    let link (source target : Text) : Act Nat := do
      let place ← if o.has 'n' || o.has 'T' then pure target else destination target source
      if o.has 'f' && (← entryAt place).isSome then
        let _ ← edit "ln" place (.removeFile place.string)
      if o.has 's' then edit "ln" place (.makeLink place.string source.string)
      else if (← entryAt place).isSome then return 1
      else copyTo false 1 source place
    match o.operands.reverse with
    | [source] => link source (lastName source)
    | target :: source :: sources => forEach (source :: sources).reverse fun source => link source target
    | [] => return 1

def touch (arguments : List Text) : Act Nat := do
  match Options.of? "acmhf" "drt" [("no-create", 'c'), ("date", 'd'), ("reference", 'r')] arguments with
  | none => return 1
  | some o =>
    if o.operands.isEmpty then return 1
    else
      forEach o.operands fun path => do
        if o.has 'c' || (← isDirectory path) then return 0
        else writeNew "touch" path .toAppend []

def modeExecutes? (mode : Text) (now : Bool) : Option Bool :=
  if !mode.isEmpty && mode.all fun c => '0' ≤ c && c ≤ '7' then
    let bits := mode.foldl (fun n c => n * 8 + (c.toNat - '0'.toNat)) 0
    some (bits &&& 0o111 ≠ 0)
  else
    (clauses [] mode).foldlM clause now
where
  clauses : Text → Text → List Text
    | c, [] => [c.reverse]
    | c, d :: rest => if d = ',' then c.reverse :: clauses [] rest else clauses (d :: c) rest
  clause (now : Bool) (text : Text) : Option Bool :=
    let rest := text.dropWhile fun c => ['u', 'g', 'o', 'a'].contains c
    match rest with
    | '+' :: letters => if letters.all isLetter then some (now || letters.contains 'x') else none
    | '-' :: letters => if letters.all isLetter then some (now && !letters.contains 'x') else none
    | '=' :: letters => if letters.all isLetter then some (letters.contains 'x') else none
    | _ => none
  isLetter (c : Char) : Bool := ['r', 'w', 'x', 'X', 's', 't'].contains c

def chmod (arguments : List Text) : Act Nat := do
  let arguments := arguments.filter fun a => !([['-', 'R'], ['-', 'f'], ['-', 'v']].contains a)
  match arguments with
  | mode :: path :: paths =>
    forEach (path :: paths) fun path => do
      match ← entryAt path with
      | none =>
        complain ("chmod: cannot access '" ++ path.string ++ "': No such file or directory")
        return 1
      | some (_, entry) =>
        match modeExecutes? mode entry.isExecutable with
        | some executable => edit "chmod" path (.setExecutable path.string executable)
        | none => return 1
  | _ => return 1

def mktemp (arguments : List Text) : Act Nat := do
  match Options.of? "dqut" "p" [("directory", 'd'), ("quiet", 'q'), ("tmpdir", 't')] arguments with
  | none => return 1
  | some o =>
    let (number, _) ← Act.call .self
    let template := o.operands.headD "/tmp/tmp.XXXXXXXXXX".toList
    let start := (template.reverse.dropWhile (· = 'X')).reverse
    let fill := digitsOf (Nat.pow 10 (template.length - start.length) + number)
    let path := start ++ fill.drop 1
    let status ← if o.has 'd' then edit "mktemp" path (.makeDirectory (Text.string path))
      else writeNew "mktemp" path .toWrite []
    if status = 0 then emitting (path ++ ['\n']) 0 else return status

def pwd : Act Nat := do
  let (_, directory) ← Act.call .look
  emitting (Text.ofString directory ++ ['\n']) 0

def readlink (arguments : List Text) : Act Nat := do
  match Options.of? "femnqsvz" "" [("canonicalize", 'f')] arguments with
  | none => return 1
  | some o =>
    let (files, directory) ← Act.call .look
    let found : List (Option String) := o.operands.map fun path =>
      if o.has 'f' || o.has 'e' || o.has 'm' then
        match files.locate true directory path.string with
        | .ok ⟨names, _⟩ => some (FileTree.pathOf names)
        | .error _ => none
      else
        match files.locate false directory path.string with
        | .ok ⟨_, some (.link target)⟩ => some target
        | _ => none
    let paths := (found.filterMap id).map Text.ofString
    let text := if o.has 'n' then paths.flatten else ofLines paths
    emitting text (if found.all Option.isSome && !found.isEmpty then 0 else 1)

def realpath (arguments : List Text) : Act Nat := do
  match Options.of? "emqsz" "" [] arguments with
  | none => return 1
  | some o => readlink (['-', 'f'] :: ['-', '-'] :: o.operands)

def ls (arguments : List Text) : Act Nat := do
  match Options.of? "1aAdlrtFhRCxpSUXcfginosquvLGHkNmQ" "wIT" [("all", 'a'), ("almost-all", 'A')] arguments with
  | none => return 2
  | some o =>
    let (files, directory) ← Act.call .look
    let listed (names : List String) : List Text :=
      let inside := (files.children names).keys.map Text.ofString
      let inside := if o.has 'a' then ['.'] :: ['.', '.'] :: inside
        else if o.has 'A' then inside
        else inside.filter fun name => name.head? ≠ some '.'
      if o.has 'r' then inside.reverse else inside
    let operands := if o.operands.isEmpty then [['.']] else o.operands
    let entries := operands.map fun path => (path, files.locate true directory (Text.string path))
    let plain := entries.filterMap fun (path, place) => match place with
      | .ok ⟨_, some .directory⟩ => if o.has 'd' then some path else none
      | .ok ⟨_, some _⟩ => some path
      | _ => none
    let directories := entries.filterMap fun (path, place) => match place with
      | .ok ⟨names, some .directory⟩ => if o.has 'd' then none else some (path, listed names)
      | _ => none
    let missing := entries.filterMap fun (path, place) => match place with
      | .ok ⟨_, some _⟩ => none
      | _ => some path
    missing.forM fun path =>
      complain ("ls: cannot access '" ++ Text.string path ++ "': No such file or directory")
    let headed := operands.length > 1
    let blocks := directories.map fun (path, names) =>
      (if headed then path ++ [':', '\n'] else []) ++ ofLines names
    let blocks := if plain.isEmpty then blocks else ofLines plain :: blocks
    emitting (['\n'].intercalate blocks) (if missing.isEmpty then 0 else 2)

/-- Where two texts differ first, counted from one, as a byte and a line; nothing if one of them is
the start of the other. -/
private def difference? : (byte line : Nat) → Text → Text → Option (Nat × Nat)
  | byte, line, a :: first, b :: second =>
    if a = b then difference? (byte + 1) (if a = '\n' then line + 1 else line) first second
    else some (byte, line)
  | _, _, _, _ => none

def cmp (arguments : List Text) : Act Nat := do
  match Options.of? "sbl" "" [("silent", 's'), ("quiet", 's')] arguments with
  | some ⟨letters, [one, other]⟩ =>
    match ← readNamed one, ← readNamed other with
    | .ok first, .ok second =>
      if first = second then return 0
      else
        match difference? 1 1 first second with
        | some (byte, line) =>
          if letters.any fun l => l.1 = 's' then return 1
          else
            emitting (one ++ ' ' :: other ++ " differ: byte ".toList ++ digitsOf byte ++
              ", line ".toList ++ digitsOf line ++ ['\n']) 1
        | none => return 1
    | _, _ => return 2
  | _ => return 2

end LanguageClient.Utility
