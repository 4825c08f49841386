import LanguageClient.Posix.Process.System
import LanguageClient.Posix.Shell.Builtin
import LanguageClient.Posix.Shell.Sum

/-!
Running scripts. Words are expanded, redirections are made for the time of a command, and commands
are run in the shell itself or in children. `launch` says which process a program is that takes the
place of a child.
-/
namespace LanguageClient.Shell

structure Mode where
  final : Bool
  tested : Bool

namespace Mode

def plain : Mode := ⟨false, false⟩

def inner (m : Mode) : Mode := ⟨false, m.tested⟩

def condition : Mode := ⟨false, true⟩

end Mode

private def withoutLastBreaks (text : Text) : Text :=
  (text.reverse.dropWhile (· = '\n')).reverse

abbrev Undo := List (Nat × Option Nat)

namespace Run

def putBack (undo : Undo) : Run Unit := undo.forM fun (descriptor, place) => restore descriptor place

def place (saving : Bool) (opened target : Nat) : Run Undo := do
  if opened = target then return if saving then [(target, none)] else []
  else
    let undo : Undo ← if saving then do pure [(target, ← keep target)] else pure []
    move opened target
    return undo

def withVariables (values : List (String × Run Text)) (body : Run Unit) : Run Unit := do
  let before := (← get).bindings
  let stop ← outcome do
    values.forM fun (name, value) => do
      setVariable name (← value)
      modify fun s =>
        match s.bindings.get? name with
        | some v => { s with bindings := s.bindings.insert name { v with exported := true } }
        | none => s
    body
  modify fun s => { s with
    bindings := values.foldl (fun bindings (name, _) =>
      match before.get? name with
      | some v => bindings.insert name v
      | none => bindings.erase name) s.bindings }
  resume stop

def check (mode : Mode) : Run Unit := do
  let s ← get
  if s.status ≠ 0 && s.has 'e' && !mode.tested then throw (.exited s.status)

def goesOn : Option Stop → Run Bool
  | none => return true
  | some (.left 0) => return false
  | some (.left 1) => return false
  | some (.left (n + 1)) => throw (.left n)
  | some (.skipped 0) => return true
  | some (.skipped 1) => return true
  | some (.skipped (n + 1)) => throw (.skipped n)
  | some stop => throw stop

def inLoop (body : Run Unit) : Run Unit := do
  modify fun s => { s with loops := s.loops + 1 }
  let stop ← outcome body
  modify fun s => { s with loops := s.loops - 1 }
  resume stop

def takeHeard : Run (List Text) := do
  if !(caughtSignals (← get)).isEmpty then hear
  let s ← get
  set { s with heard := [] }
  return s.heard.filterMap s.trap?

end Run

private def dropsQuotes (s : State) (word : Word) : Bool :=
  s.arguments.isEmpty && word.any fun piece => match piece with
    | .parameter true "@" .plain => true
    | _ => false

private def expandArguments (quoted : Bool) (arguments : List Text) : Expanded :=
  let each := arguments.map fun a =>
    if quoted then .quote :: Expanded.ofText .quoted a else Expanded.ofText .loose a
  [Mark.split].intercalate each

private def takesAssignments (words : List Word) : Bool :=
  match words with
  | [] => false
  | word :: _ =>
    ["export", "readonly", "local", "alias"].contains (String.ofList word.delimiter.1) && !word.delimiter.2

private def isAssignment (word : Word) : Bool :=
  let start := word.takeWhile fun piece => match piece with
    | .text false _ => true
    | _ => false
  match (start.flatMap fun piece => match piece with
    | .text _ chars => chars
    | _ => []) with
  | chars => isName (chars.takeWhile (· ≠ '=')) && chars.contains '='

def setTraps (words : List Text) : Run Nat := do
  let words := if words.head? = some ['-', '-'] then words.drop 1 else words
  match words with
  | [] =>
    let lines := (← get).traps.map fun (signal, action) =>
      let name := if signal = 0 then "EXIT" else Utility.signalName signal
      "trap -- ".toList ++ Builtin.quoted action ++ (" " ++ name).toList
    Run.act (Utility.emitting (Utility.ofLines lines) 0)
  | first :: rest =>
    let (action, signals) := match rest with
      | [] => (none, [first])
      | rest => (if first = ['-'] then none else some first, rest)
    signals.foldlM (fun status word => do
      match Utility.signal? word with
      | none => return 1
      | some signal =>
        let added := (action.map fun action => (signal, action)).toList
        modify fun s => { s with traps := added ++ s.traps.filter fun t => t.1 ≠ signal }
        if signal ≠ 0 then
          Run.call (.heed signal (match action with
            | none => .byDefault
            | some [] => .ignored
            | some _ => .noticed))
        return status) 0

def waitForChild (child : Nat) : Run (Option Nat) := do
  match (← get).children.lookup child with
  | none => return some 127
  | some (some status) => return some status
  | some none =>
    match ← Run.call (.wait (some child)) with
    | .ended _ status =>
      modify fun s => { s with children := s.children.map fun c =>
        if c.1 = child then (child, some status) else c }
      return some status
    | .nobody =>
      modify fun s => { s with children := s.children.filter fun c => c.1 ≠ child }
      return some 127
    | .interrupted => return none

variable (launch : Image → Process)

mutual

def expand : (fuel : Nat) → Word → Run Expanded
  | 0, _ => Run.fail
  | _, [] => return []
  | fuel + 1, piece :: rest => do
    let first ← expandPiece fuel piece
    return first ++ (← expand fuel rest)

def expandPiece : (fuel : Nat) → Piece → Run Expanded
  | 0, _ => Run.fail
  | fuel + 1, piece => do
    match piece with
    | .text true [] => return [.quote]
    | .text true chars => return Expanded.ofText .quoted chars
    | .text false chars => return Expanded.ofText .plain chars
    | .home => return Expanded.ofText .quoted (((← get).value? "HOME").getD ['~'])
    | .parameter quoted name use => expandParameter fuel quoted name use
    | .output quoted command =>
      let text ← capture fuel command
      return Expanded.ofText (if quoted then .quoted else .loose) text
    | .sum quoted expression =>
      let text := (← expand fuel expression).toText
      let s ← get
      match (Sum.read? text).bind fun sum => sum.evaluate (fun name => (s.value? name).getD []) [] with
      | none => Run.fail
      | some (value, assigned) =>
        assigned.forM fun (name, value) => Run.setVariable name value
        return Expanded.ofText (if quoted then .quoted else .loose) (toString value).toList

def expandParameter : (fuel : Nat) → (quoted : Bool) → (name : String) → Use → Run Expanded
  | 0, _, _, _ => Run.fail
  | fuel + 1, quoted, name, use => do
    let s ← get
    let value := s.parameter? name
    let origin : Origin := if quoted then .quoted else .loose
    let many := name = "@" || name = "*"
    let whole : Expanded :=
      if name = "@" || (name = "*" && !quoted) then expandArguments quoted s.arguments
      else Expanded.ofText origin (value.getD [])
    let loosened (e : Expanded) : Expanded :=
      if quoted then e
      else e.map fun mark => match mark with
        | .letter c .plain => .letter c .loose
        | mark => mark
    match use with
    | .plain =>
      if value.isNone && s.has 'u' && !many then Run.fail else return whole
    | .length =>
      if value.isNone && s.has 'u' && !many then Run.fail
      else
        let length := if many then s.arguments.length else (value.getD []).length
        return Expanded.ofText origin (Utility.digitsOf length)
    | .fallback kind emptyCounts word =>
      let present := match value with
        | none => false
        | some value => emptyCounts || !value.isEmpty
      match kind, present with
      | .alternative, true => return loosened (← expand fuel word)
      | .alternative, false => return []
      | _, true => return whole
      | .use, false => return loosened (← expand fuel word)
      | .assign, false =>
        let value := (← expand fuel word).toText
        if isName name.toList then
          Run.setVariable name value
          return Expanded.ofText origin value
        else Run.fail
      | .fail, false => Run.fail
    | .without atEnd longest pattern =>
      if value.isNone && s.has 'u' && !many then Run.fail
      else
        let pattern := (← expand fuel pattern).toPattern
        if many then
          let arguments := s.arguments.map (withoutMatch atEnd longest pattern)
          return expandArguments quoted arguments
        else return Expanded.ofText origin (withoutMatch atEnd longest pattern (value.getD []))

def expandWords : (fuel : Nat) → (keeping : Bool) → List Word → Run (List Text)
  | 0, _, _ => Run.fail
  | _, _, [] => return []
  | fuel + 1, keeping, word :: rest => do
    let expanded ← expand fuel word
    let s ← get
    let here : List Text ←
      if keeping && isAssignment word then pure [expanded.toText]
      else do
        let expanded : Expanded := if dropsQuotes s word then expanded.filter (· ≠ .quote) else expanded
        let fields := expanded.fields s.separators
        if s.has 'f' || !fields.any Field.isPattern then pure (fields.map Field.toText)
        else do
          let (files, directory) ← Run.call .look
          pure (fields.flatMap (Field.paths files directory))
    return here ++ (← expandWords fuel keeping rest)

def capture : (fuel : Nat) → Command → Run Text
  | 0, _ => Run.fail
  | fuel + 1, command => do
    let (reading, writing) ← Run.call .pipe
    let child ← Run.fork (do
      let _ ← Run.call (.close reading)
      Run.move writing 1
      exec fuel ⟨true, false⟩ command) (finish fuel)
    let _ ← Run.call (.close writing)
    let found ← Run.act (Act.readAll reading)
    let _ ← Run.call (.close reading)
    let status ← Run.await child
    modify fun s => { s with outputStatus := some status }
    let text := Text.ofBytes (found.toOption.getD [])
    return withoutLastBreaks (text.filter fun c => c.toNat ≠ 0)

def redirectOne : (fuel : Nat) → (saving : Bool) → Redirection → Run (Option Undo)
  | 0, _, _ => Run.fail
  | fuel + 1, saving, .mk descriptor direction target => do
    let target := (← expand fuel target).toText
    let openWith (opening : Opening) : Run (Option Undo) := do
      let opened : Except IoFailure Nat ← Run.call (.openFile target.string opening)
      match opened with
      | .error _ => return none
      | .ok opened => return some (← Run.place saving opened descriptor)
    match direction with
    | .fromFile => openWith .toRead
    | .toFile =>
      openWith (if (← get).has 'C' then { Opening.toWrite with fresh := true } else .toWrite)
    | .overFile => openWith .toWrite
    | .toEnd => openWith .toAppend
    | .fromAndToFile => openWith .toChange
    | .duplicate =>
      if target = ['-'] then
        let undo : Undo ← if saving then do pure [(descriptor, ← Run.keep descriptor)] else pure []
        let _ ← Run.call (.close descriptor)
        return some undo
      else
        match Utility.number? target with
        | none => Run.fail
        | some source =>
          if source = descriptor then return some []
          else
            let undo : Undo ← if saving then do pure [(descriptor, ← Run.keep descriptor)] else pure []
            let copied : Except IoFailure Unit ← Run.call (.copy source descriptor)
            match copied with
            | .ok () => return some undo
            | .error _ =>
              Run.putBack undo
              return none
    | .fromText =>
      let (reading, writing) ← Run.call .pipe
      if target.length ≤ System.pieceLimit then
        let _ ← Run.act (Act.writeAll writing target.toBytes)
      else
        let writer : Act Nat := do
          let _ ← Act.call (.close reading)
          let _ ← Act.writeAll writing target.toBytes
          return 0
        let _ ← Run.act (Act.fork writer.toProcess)
      let _ ← Run.call (.close writing)
      return some (← Run.place saving reading descriptor)

def redirect : (fuel : Nat) → (saving : Bool) → List Redirection → Run (Option Undo)
  | 0, _, _ => Run.fail
  | _, _, [] => return some []
  | fuel + 1, saving, first :: rest => do
    match ← redirectOne fuel saving first with
    | none => return none
    | some undo =>
      match ← redirect fuel saving rest with
      | some others => return some (others ++ undo)
      | none =>
        Run.putBack undo
        return none

def exec : (fuel : Nat) → Mode → Command → Run Unit
  | 0, _, _ => Run.fail
  | fuel + 1, mode, command => do
    match command with
    | .nothing => pure ()
    | .simple assignments words redirections =>
      execSimple fuel mode assignments words redirections
      attend fuel
      Run.check mode
    | .redirected command redirections =>
      match ← redirect fuel true redirections with
      | none =>
        Run.setStatus 2
        Run.check mode
      | some undo =>
        let stop ← Run.outcome (exec fuel mode.inner command)
        Run.putBack undo
        Run.resume stop
    | .sequence first second =>
      exec fuel mode.inner first
      match second with
      | .nothing => pure ()
      | second => exec fuel mode second
    | .background command =>
      let child ← Run.fork (do
        let _ ← Run.call (.close 0)
        let _ ← Run.call (.openFile "/dev/null" .toRead)
        Run.call (.heed .interrupt .ignored)
        Run.call (.heed .quit .ignored)
        exec fuel ⟨true, false⟩ command) (finish fuel)
      modify fun s => { s with
        lastChild := some child, children := (child, none) :: s.children, status := 0 }
    | .conditional ifSuccess first second =>
      exec fuel .condition first
      if ((← get).status = 0) = ifSuccess then exec fuel mode second
    | .negated command =>
      exec fuel .condition command
      Run.setStatus (if (← get).status = 0 then 1 else 0)
    | .pipeline commands =>
      runPipeline fuel mode commands none []
      attend fuel
      Run.check mode
    | .loop whileSuccess condition body =>
      Run.inLoop (loop fuel mode whileSuccess 0 condition body)
    | .each name words body =>
      let items ← match words with
        | some words => expandWords fuel false words
        | none => do pure (← get).arguments
      if items.isEmpty then Run.setStatus 0
      else Run.inLoop (runEach fuel mode name items body)
    | .choice condition whenTrue whenFalse =>
      exec fuel .condition condition
      if (← get).status = 0 then exec fuel mode whenTrue
      else
        match whenFalse with
        | .nothing => Run.setStatus 0
        | whenFalse => exec fuel mode whenFalse
    | .select subject arms =>
      let subject := (← expand fuel subject).toText
      choose fuel mode subject arms
    | .define name body =>
      modify fun s => { s with functions := s.functions.insert name body }
      Run.setStatus 0
    | .subshell body =>
      if mode.final && (Run.caughtSignals (← get)).isEmpty && ((← get).trap? 0).isNone then
        exec fuel mode body
      else
        let child ← Run.fork (exec fuel ⟨true, mode.tested⟩ body) (finish fuel)
        Run.setStatus (← Run.await child)
        attend fuel
        Run.check mode

def runPipeline : (fuel : Nat) → Mode → List Command → (input : Option Nat) →
    (children : List Nat) → Run Unit
  | 0, _, _, _, _ => Run.fail
  | _, _, [], _, children => do
    for child in children.reverse do
      Run.setStatus (← Run.await child)
  | fuel + 1, mode, command :: rest, input, children => do
    let takeInput : Run Unit := match input with
      | some descriptor => Run.move descriptor 0
      | none => pure ()
    let dropInput : Run Unit := match input with
      | some descriptor => do
        let _ ← Run.call (.close descriptor)
      | none => pure ()
    match rest with
    | [] =>
      let child ← Run.fork (do
        takeInput
        exec fuel ⟨true, mode.tested⟩ command) (finish fuel)
      dropInput
      runPipeline fuel mode [] none (child :: children)
    | rest =>
      let (reading, writing) ← Run.call .pipe
      let child ← Run.fork (do
        takeInput
        let _ ← Run.call (.close reading)
        Run.move writing 1
        exec fuel ⟨true, mode.tested⟩ command) (finish fuel)
      dropInput
      let _ ← Run.call (.close writing)
      runPipeline fuel mode rest (some reading) (child :: children)

def loop : (fuel : Nat) → Mode → (whileSuccess : Bool) → (status : Nat) → (condition : Command) →
    (body : Command) → Run Unit
  | 0, _, _, _, _, _ => Run.fail
  | fuel + 1, mode, whileSuccess, status, condition, body => do
    Run.call .yieldTurn
    let stop ← Run.outcome (exec fuel .condition condition)
    if stop.isSome then
      if ← Run.goesOn stop then loop fuel mode whileSuccess status condition body
    else if ((← get).status = 0) = whileSuccess then
      let stop ← Run.outcome (exec fuel mode.inner body)
      let goesOn ← Run.goesOn stop
      if goesOn then loop fuel mode whileSuccess (← get).status condition body
    else Run.setStatus status

def runEach : (fuel : Nat) → Mode → (name : String) → List Text → (body : Command) → Run Unit
  | 0, _, _, _, _ => Run.fail
  | _, _, _, [], _ => pure ()
  | fuel + 1, mode, name, item :: rest, body => do
    Run.call .yieldTurn
    Run.setVariable name item
    let stop ← Run.outcome (exec fuel mode.inner body)
    if ← Run.goesOn stop then runEach fuel mode name rest body

def choose : (fuel : Nat) → Mode → Text → List (List Word × Command) → Run Unit
  | 0, _, _, _ => Run.fail
  | _, _, _, [] => Run.setStatus 0
  | fuel + 1, mode, subject, (patterns, body) :: rest => do
    if ← matchesAny fuel subject patterns then
      match body with
      | .nothing => Run.setStatus 0
      | body => exec fuel mode body
    else choose fuel mode subject rest

def matchesAny : (fuel : Nat) → Text → List Word → Run Bool
  | 0, _, _ => Run.fail
  | _, _, [] => return false
  | fuel + 1, subject, pattern :: rest => do
    let pattern := (← expand fuel pattern).toPattern
    if matchesWhole pattern subject then return true else matchesAny fuel subject rest

def execSimple : (fuel : Nat) → Mode → List (String × Word) → List Word → List Redirection → Run Unit
  | 0, _, _, _, _ => Run.fail
  | fuel + 1, mode, assignments, words, redirections => do
    modify fun s => { s with outputStatus := none }
    let words ← expandWords fuel (takesAssignments words) words
    let values : List (String × Run Text) := assignments.map fun (name, word) =>
      (name, do return (← expand fuel word).toText)
    let setAll : Run Unit := values.forM fun (name, value) => do Run.setVariable name (← value)
    match words with
    | [] =>
      match ← redirect fuel true redirections with
      | none => Run.setStatus 2
      | some undo =>
        let stop ← Run.outcome setAll
        Run.putBack undo
        Run.resume stop
        Run.setStatus ((← get).outputStatus.getD 0)
    | name :: arguments =>
      let key := String.ofList name
      let special := Builtin.special.contains key
      match ← redirect fuel (key ≠ "exec") redirections with
      | none => if special then Run.fail else Run.setStatus 2
      | some undo =>
        let stop ← Run.outcome do
          if special then
            setAll
            callNamed fuel mode true name arguments
          else Run.withVariables values (callNamed fuel mode true name arguments)
        Run.putBack undo
        Run.resume stop

def callNamed : (fuel : Nat) → Mode → (functions : Bool) → Text → List Text → Run Unit
  | 0, _, _, _, _ => Run.fail
  | fuel + 1, mode, functions, name, arguments => do
    let s ← get
    let key := String.ofList name
    match if functions then s.functions.get? key else none with
    | some body => callFunction fuel mode body arguments
    | none =>
      if Builtin.special.contains key || Builtin.regular.contains key then
        Run.setStatus (← builtin fuel mode key arguments)
      else runProgram fuel mode name arguments

def callFunction : (fuel : Nat) → Mode → Command → List Text → Run Unit
  | 0, _, _, _ => Run.fail
  | fuel + 1, mode, body, arguments => do
    let before ← get
    set { before with arguments := arguments, locals := [] :: before.locals, loops := 0 }
    let stop ← Run.outcome (exec fuel mode.inner body)
    modify fun s =>
      let own := s.locals.headD []
      { s with
        arguments := before.arguments, loops := before.loops, locals := s.locals.drop 1
        bindings := own.foldl (fun bindings (name, v) =>
          match v with
          | some v => bindings.insert name v
          | none => bindings.erase name) s.bindings }
    match stop with
    | some .returned => pure ()
    | stop => Run.resume stop

def runProgram : (fuel : Nat) → Mode → Text → List Text → Run Unit
  | 0, _, _, _ => Run.fail
  | _ + 1, mode, name, arguments => do
    let s ← get
    let environment := s.environment.insert "PATH" ((s.value? "PATH").getD Image.defaultSearchPath)
    match ← Run.act (Utility.findImage environment name arguments) with
    | .error .notFound =>
      Run.act (Utility.complain (name.string ++ ": not found"))
      Run.setStatus 127
    | _ =>
      let body : Run Unit := do
        s.kept.forM fun descriptor => do
          let _ ← Run.call (.close descriptor)
        let status ← Run.act (Utility.becomeCommand launch environment name arguments)
        throw (.exited status)
      if mode.final && s.traps.all fun t => t.2.isEmpty then body
      else
        let child ← Run.fork body (pure ())
        Run.setStatus (← Run.await child)

def builtin : (fuel : Nat) → Mode → (name : String) → List Text → Run Nat
  | 0, _, _, _ => Run.fail
  | fuel + 1, mode, name, arguments => do
    let s ← get
    let count (least : Nat) : Run Nat := match arguments with
      | [] => return least
      | word :: _ => match Utility.number? word with
        | some n => return n
        | none => Run.fail
    match name with
    | ":" => return 0
    | "true" => return 0
    | "false" => return 1
    | "echo" => Run.act (Utility.echo arguments)
    | "printf" => Run.act (Utility.printf arguments)
    | "test" => Run.act (Utility.test arguments)
    | "[" => Run.act (Utility.bracket arguments)
    | "kill" => Run.act (Utility.kill (arguments.map (Builtin.processNumber s)))
    | "cd" => Builtin.cd arguments
    | "chdir" => Builtin.cd arguments
    | "pwd" => Builtin.pwd arguments
    | "export" => Builtin.share arguments
    | "readonly" => Builtin.readOnly arguments
    | "local" => Builtin.makeLocal arguments
    | "unset" => Builtin.unset arguments
    | "set" => Builtin.configure arguments
    | "shift" => Builtin.shift arguments
    | "getopts" => Builtin.getOptions arguments
    | "read" => Builtin.read arguments
    | "exit" => throw (.exited ((← count s.status) % 256))
    | "return" =>
      Run.setStatus ((← count s.status) % 256)
      throw .returned
    | "break" =>
      let n ← count 1
      if s.loops = 0 then return 0
      else
        Run.setStatus 0
        throw (.left (min n s.loops))
    | "continue" =>
      let n ← count 1
      if s.loops = 0 then return 0
      else
        Run.setStatus 0
        throw (.skipped (min n s.loops))
    | "eval" =>
      Run.setStatus 0
      runLines fuel mode.inner ([' '].intercalate arguments)
      return (← get).status
    | "." => readIn fuel arguments
    | "exec" =>
      match arguments with
      | [] => return 0
      | name :: arguments =>
        let environment :=
          s.environment.insert "PATH" ((s.value? "PATH").getD Image.defaultSearchPath)
        s.kept.forM fun descriptor => do
          let _ ← Run.call (.close descriptor)
        (Run.caughtSignals s).forM fun signal => Run.call (.heed signal .byDefault)
        throw (.exited (← Run.act (Utility.becomeCommand launch environment name arguments)))
    | "command" => runPlain fuel mode arguments
    | "type" =>
      arguments.foldlM (fun status name => do
        return max status (← Builtin.whereIs true name)) 0
    | "trap" => setTraps arguments
    | "wait" => waitForChildren fuel arguments
    | "umask" => if arguments.isEmpty then Run.act (Utility.emitting "0022\n".toList 0) else return 0
    | "times" => Run.act (Utility.emitting "0m0.00s 0m0.00s\n0m0.00s 0m0.00s\n".toList 0)
    | "fg" => return 2
    | "bg" => return 2
    | _ => return 0

def runPlain : (fuel : Nat) → Mode → List Text → Run Nat
  | 0, _, _ => Run.fail
  | fuel + 1, mode, words => do
    match words with
    | ['-', 'v'] :: names => names.foldlM (fun status name => do
        return max status (← Builtin.whereIs false name)) 0
    | ['-', 'V'] :: names => names.foldlM (fun status name => do
        return max status (← Builtin.whereIs true name)) 0
    | ['-', 'p'] :: words => runPlain fuel mode words
    | ['-', '-'] :: words => runPlain fuel mode words
    | [] => return 0
    | name :: arguments =>
      match ← Run.outcome (callNamed fuel mode false name arguments) with
      | some .failed => return 2
      | stop =>
        Run.resume stop
        return (← get).status

def readIn : (fuel : Nat) → List Text → Run Nat
  | 0, _ => Run.fail
  | fuel + 1, words => do
    match words with
    | [] => return 0
    | name :: _ =>
      let s ← get
      let (files, directory) ← Run.call .look
      let directories := Image.directories ((s.value? "PATH").getD Image.defaultSearchPath)
      let paths := if name.contains '/' then [name]
        else directories.map fun d => if d.isEmpty then name else Utility.within d name
      let content? (path : Text) : Option Text :=
        ((files.readBytes directory path.string).toOption).map Text.ofBytes
      match paths.findSome? content? with
      | none => Run.fail
      | some text =>
        Run.setStatus 0
        match ← Run.outcome (runLines fuel .plain text) with
        | some .returned => pure ()
        | stop => Run.resume stop
        return (← get).status

def waitForChildren : (fuel : Nat) → List Text → Run Nat
  | 0, _ => Run.fail
  | fuel + 1, words => do
    let s ← get
    match words with
    | [] =>
      match s.children.find? fun c => c.2.isNone with
      | none =>
        modify fun s => { s with children := [] }
        return 0
      | some (child, _) =>
        match ← waitForChild child with
        | some _ => waitForChildren fuel []
        | none => interrupted fuel
    | words =>
      let step : Option Nat → Text → Run (Option Nat) := fun status word => do
        match status, Utility.number? (Builtin.processNumber s word) with
        | none, _ => return none
        | some _, none => return some 2
        | some _, some child => waitForChild child
      match ← words.foldlM step (some 0) with
      | some status => return status
      | none => interrupted fuel

def interrupted : (fuel : Nat) → Run Nat
  | 0 => Run.fail
  | fuel + 1 => do
    Run.hear
    let signal := (← get).heard.headD 0
    attend fuel
    return System.signalStatus signal

def attend : (fuel : Nat) → Run Unit
  | 0 => Run.fail
  | fuel + 1 => do
    if !(← get).traps.isEmpty then
      let status := (← get).status
      for action in ← Run.takeHeard do
        runLines fuel .plain action
        Run.setStatus status

def finish : (fuel : Nat) → Run Unit
  | 0 => Run.fail
  | fuel + 1 => do
    let s ← get
    match s.trap? 0 with
    | none => pure ()
    | some action =>
      set { s with traps := s.traps.filter fun t => t.1 ≠ 0 }
      match ← Run.outcome (runLines fuel .plain action) with
      | some (.exited status) => Run.setStatus status
      | _ => Run.setStatus s.status

def runLines : (fuel : Nat) → Mode → Text → Run Unit
  | 0, _, _ => Run.fail
  | fuel + 1, mode, text => do
    match nextLine text with
    | .atEnd => pure ()
    | .malformed => Run.fail
    | .command command rest =>
      let isLast := (skipLines rest).isEmpty
      exec fuel ⟨mode.final && isLast, mode.tested⟩ command
      runLines fuel mode rest

end

end LanguageClient.Shell
