import LanguageClient.Posix.Utility.Regex
import LanguageClient.Posix.Utility.Streams

/-!
The command that edits a stream line by line. A script of it is a list of instructions, each with
the lines it is for; the lines go through the script one after the other.
-/
namespace LanguageClient.Utility

open Shell (Text)

namespace Editor

inductive Address where
  | line (number : Nat)
  | last
  | matching (regex : Regex)
  | every (first step : Nat)

inductive Limit where
  | at (address : Address)
  | after (count : Nat)

structure Substitution where
  regex : Regex
  replacement : Text
  first : Nat
  everywhere : Bool
  prints : Bool

inductive Action where
  | substitute (substitution : Substitution)
  | translate (source target : List Char)
  | delete
  | deleteFirstLine
  | print
  | printFirstLine
  | next
  | addNext
  | quit (status : Nat) (silent : Bool)
  | append (text : Text)
  | insert (text : Text)
  | change (text : Text)
  | hold
  | addToHold
  | fetch
  | addFetched
  | exchange
  | number
  | label (name : Text)
  | jump (name : Text)
  | jumpIfChanged (name : Text)
  | jumpUnlessChanged (name : Text)
  | opening
  | closing
  | nothing

structure Instruction where
  start : Option Address
  limit : Option Limit
  negated : Bool
  action : Action

/-- Cuts a text at an unescaped mark; in an expression the mark has no meaning in brackets, and
escaped it is an ordinary character. -/
def cutAt (mark : Char) (expression : Bool) : (fuel : Nat) → Text → Option (Text × Text)
  | 0, _ => none
  | _, [] => none
  | fuel + 1, '\\' :: c :: rest =>
    (cutAt mark expression fuel rest).map fun (text, after) =>
      if c = mark then (c :: text, after) else ('\\' :: c :: text, after)
  | fuel + 1, c :: rest =>
    if c = mark then some ([], rest)
    else if c = '[' && expression then
      let (negation, inner) := match rest with
        | '^' :: inner => (['^'], inner)
        | inner => ([], inner)
      let inside := match inner with
        | ']' :: more => ']' :: more.takeWhile (· ≠ ']')
        | inner => inner.takeWhile (· ≠ ']')
      match inner.drop inside.length with
      | ']' :: after =>
        if inside.contains '\n' then
          (cutAt mark expression fuel rest).map fun (text, after) => (c :: text, after)
        else
          (cutAt mark expression fuel after).map fun (text, rest) =>
            ('[' :: negation ++ inside ++ ']' :: text, rest)
      | _ => (cutAt mark expression fuel rest).map fun (text, after) => (c :: text, after)
    else (cutAt mark expression fuel rest).map fun (text, after) => (c :: text, after)

private def isSpace (c : Char) : Bool := c = ' ' || c = '\t'

private def skipSpace (cs : Text) : Text := cs.dropWhile isSpace

private def readExpression (extended : Bool) (mark : Char) (cs : Text) : Option (Regex × Text) := do
  let (text, rest) ← cutAt mark true (cs.length + 1) cs
  let regex ← Regex.read? extended true text
  match rest with
  | 'I' :: rest => pure (regex.withBothCases, rest)
  | rest => pure (regex, rest)

private def readAddress (extended : Bool) (cs : Text) : Option (Option Address × Text) :=
  match cs with
  | '$' :: rest => some (some .last, rest)
  | '/' :: rest => (readExpression extended '/' rest).map fun (r, rest) => (some (.matching r), rest)
  | '\\' :: mark :: rest =>
    (readExpression extended mark rest).map fun (r, rest) => (some (.matching r), rest)
  | cs =>
    let digits := cs.takeWhile Char.isDigit
    if digits.isEmpty then some (none, cs)
    else
      match cs.drop digits.length with
      | '~' :: rest =>
        let step := rest.takeWhile Char.isDigit
        some (some (.every (numberOf digits) (numberOf step)), rest.drop step.length)
      | rest => some (some (.line (numberOf digits)), rest)

private def readLimit (extended : Bool) (cs : Text) : Option (Option Limit × Text) :=
  match skipSpace cs with
  | ',' :: rest =>
    match skipSpace rest with
    | '+' :: rest =>
      let digits := rest.takeWhile Char.isDigit
      some (some (.after (numberOf digits)), rest.drop digits.length)
    | rest => do
      let (address, rest) ← readAddress extended rest
      pure (some (.at (← address)), rest)
  | rest => some (none, rest)

private def readFlags : (fuel : Nat) → Substitution → Text → Substitution × Text
  | 0, s, cs => (s, cs)
  | fuel + 1, s, cs =>
    match cs with
    | 'g' :: rest => readFlags fuel { s with everywhere := true } rest
    | 'p' :: rest => readFlags fuel { s with prints := true } rest
    | 'I' :: rest => readFlags fuel { s with regex := s.regex.withBothCases } rest
    | 'i' :: rest => readFlags fuel { s with regex := s.regex.withBothCases } rest
    | cs =>
      let digits := cs.takeWhile Char.isDigit
      if digits.isEmpty then (s, cs)
      else readFlags fuel { s with first := numberOf digits } (cs.drop digits.length)

private def readTextLine : Text → Text × Text
  | [] => ([], [])
  | '\\' :: c :: rest =>
    let (text, after) := readTextLine rest
    (c :: text, after)
  | '\n' :: rest => ([], rest)
  | c :: rest =>
    let (text, after) := readTextLine rest
    (c :: text, after)

private def readAdded (cs : Text) : Text × Text :=
  match skipSpace cs with
  | '\\' :: rest =>
    match skipSpace rest with
    | '\n' :: rest => readTextLine rest
    | rest => readTextLine rest
  | rest => readTextLine rest

private def readLabel (cs : Text) : Text × Text :=
  let cs := skipSpace cs
  let name := cs.takeWhile fun c => c ≠ '\n' && c ≠ ';' && !isSpace c && c ≠ '\x7d'
  (name, cs.drop name.length)

private def unescapeSet : Text → Text
  | '\\' :: 'n' :: rest => '\n' :: unescapeSet rest
  | '\\' :: 't' :: rest => '\t' :: unescapeSet rest
  | '\\' :: '\\' :: rest => '\\' :: unescapeSet rest
  | c :: rest => c :: unescapeSet rest
  | [] => []

private def readAction (extended : Bool) (cs : Text) : Option (Action × Text) :=
  match cs with
  | [] => none
  | c :: rest =>
    match c with
    | 's' => do
      let mark ← rest.head?
      let (regex, rest) ← readExpressionPlain mark (rest.drop 1)
      let (replacement, rest) ← cutAt mark false (rest.length + 1) rest
      let (s, rest) := readFlags (rest.length + 1) ⟨regex, replacement, 1, false, false⟩ rest
      pure (.substitute s, rest)
    | 'y' => do
      let mark ← rest.head?
      let (source, rest) ← cutAt mark false (rest.length + 1) (rest.drop 1)
      let (target, rest) ← cutAt mark false (rest.length + 1) rest
      let source := unescapeSet source
      let target := unescapeSet target
      if source.length = target.length then pure (.translate source target, rest) else none
    | 'd' => some (.delete, rest)
    | 'D' => some (.deleteFirstLine, rest)
    | 'p' => some (.print, rest)
    | 'P' => some (.printFirstLine, rest)
    | 'n' => some (.next, rest)
    | 'N' => some (.addNext, rest)
    | 'q' => quitting false rest
    | 'Q' => quitting true rest
    | 'a' => adding .append rest
    | 'i' => adding .insert rest
    | 'c' => adding .change rest
    | 'h' => some (.hold, rest)
    | 'H' => some (.addToHold, rest)
    | 'g' => some (.fetch, rest)
    | 'G' => some (.addFetched, rest)
    | 'x' => some (.exchange, rest)
    | '=' => some (.number, rest)
    | ':' =>
      let (name, rest) := readLabel rest
      some (.label name, rest)
    | 'b' =>
      let (name, rest) := readLabel rest
      some (.jump name, rest)
    | 't' =>
      let (name, rest) := readLabel rest
      some (.jumpIfChanged name, rest)
    | 'T' =>
      let (name, rest) := readLabel rest
      some (.jumpUnlessChanged name, rest)
    | '\x7b' => some (.opening, rest)
    | '\x7d' => some (.closing, rest)
    | '#' => some (.nothing, rest.dropWhile (· ≠ '\n'))
    | _ => none
where
  readExpressionPlain (mark : Char) (cs : Text) : Option (Regex × Text) := do
    let (text, rest) ← cutAt mark true (cs.length + 1) cs
    pure (← Regex.read? extended true text, rest)
  quitting (silent : Bool) (cs : Text) : Option (Action × Text) :=
    let digits := (skipSpace cs).takeWhile Char.isDigit
    some (.quit (numberOf digits) silent, (skipSpace cs).drop digits.length)
  adding (action : Text → Action) (cs : Text) : Option (Action × Text) :=
    let (text, rest) := readAdded cs
    some (action (text ++ ['\n']), '\n' :: rest)

def readScript (extended : Bool) : (fuel : Nat) → Text → Option (List Instruction)
  | 0, _ => none
  | fuel + 1, cs =>
    let cs := cs.dropWhile fun c => isSpace c || c = '\n' || c = ';'
    if cs.isEmpty then some []
    else do
      let (start, rest) ← readAddress extended cs
      let (limit, rest) ← if start.isSome then readLimit extended rest else some (none, rest)
      let rest := skipSpace rest
      let (negated, rest) := match rest with
        | '!' :: rest => (true, skipSpace rest)
        | rest => (false, rest)
      let (action, rest) ← readAction extended rest
      let rest := skipSpace rest
      let ended := match action, rest with
        | .opening, _ => true
        | _, [] => true
        | _, c :: _ => c = ';' || c = '\n' || c = '\x7d' || c = '#'
      if ended then
        pure (⟨start, limit, negated, action⟩ :: (← readScript extended fuel rest))
      else none

inductive Casing where
  | kept
  | upper
  | lower
  deriving DecidableEq

private def recase (casing once : Casing) (text : Text) : Text :=
  let whole := match casing with
    | .kept => text
    | .upper => text.map Char.toUpper
    | .lower => text.map Char.toLower
  match once, whole with
  | .upper, c :: rest => c.toUpper :: rest
  | .lower, c :: rest => c.toLower :: rest
  | _, whole => whole

def fillIn (groups : List (Nat × Text)) : (casing once : Casing) → Text → Text
  | casing, once, '\\' :: c :: rest =>
    match c with
    | 'U' => fillIn groups .upper once rest
    | 'L' => fillIn groups .lower once rest
    | 'E' => fillIn groups .kept once rest
    | 'u' => fillIn groups casing .upper rest
    | 'l' => fillIn groups casing .lower rest
    | 'n' => '\n' :: fillIn groups casing .kept rest
    | 't' => '\t' :: fillIn groups casing .kept rest
    | 'r' => '\r' :: fillIn groups casing .kept rest
    | c =>
      if c.isDigit then
        let text := (groups.lookup (c.toNat - '0'.toNat)).getD []
        recase casing once text ++ fillIn groups casing (if text.isEmpty then once else .kept) rest
      else recase casing once [c] ++ fillIn groups casing .kept rest
  | casing, once, '&' :: rest =>
    let text := (groups.lookup 0).getD []
    recase casing once text ++ fillIn groups casing (if text.isEmpty then once else .kept) rest
  | casing, once, c :: rest => recase casing once [c] ++ fillIn groups casing .kept rest
  | _, _, [] => []

/-- Replaces matches in a text; `before` is what was gone through already, reversed, and `count` how
many matches there were. -/
def replace (s : Substitution) : (fuel : Nat) → (before : Text) → (afterMatch : Bool) →
    (count : Nat) → Text → Text × Bool
  | 0, _, _, _, cs => (cs, false)
  | fuel + 1, before, afterMatch, count, cs =>
    match s.regex.find before cs with
    | none => (cs, false)
    | some (seen, after, groups) =>
      let skipped := seen.drop before.length
      let text := (groups.lookup 0).getD []
      let passed := text.reverse ++ seen.reverse
      if text.isEmpty && afterMatch && skipped.isEmpty then
        match cs with
        | [] => ([], false)
        | c :: rest =>
          let (rest, changed) := replace s fuel (c :: before) false count rest
          (c :: rest, changed)
      else
        let counts := s.first ≤ count + 1
        let shown := if counts then fillIn groups .kept .kept s.replacement else text
        if counts && !s.everywhere then (skipped ++ shown ++ after, true)
        else
          match text, after with
          | [], [] => (skipped ++ shown, counts)
          | [], c :: rest =>
            let (rest, changed) := replace s fuel (c :: passed) false (count + 1) rest
            (skipped ++ shown ++ c :: rest, changed || counts)
          | _, after =>
            let (rest, changed) := replace s fuel passed true (count + 1) after
            (skipped ++ shown ++ rest, changed || counts)

structure State where
  space : Text
  held : Text
  number : Nat
  left : List Text
  output : List (Text × Bool)
  appended : List Text
  changed : Bool
  /-- The line up to which each instruction is active that has a start and a limit; none stands for
  a limit that is not yet known. -/
  active : List (Nat × Option Nat)
  status : Nat

structure Settings where
  quiet : Bool
  endsWithBreak : Bool

namespace State

private def lineEnds (settings : Settings) (s : State) : Bool :=
  settings.endsWithBreak || !s.left.isEmpty

private def write (s : State) (text : Text) (ends : Bool) : State :=
  { s with output := (text, ends) :: s.output }

private def print (settings : Settings) (s : State) : State :=
  s.write s.space (s.lineEnds settings)

private def flush (s : State) : State :=
  { s with
    output := (s.appended.map fun text => (text.dropLast, true)).reverse ++ s.output
    appended := [] }

private def selects (s : State) : Address → Bool
  | .line n => s.number = n
  | .last => s.left.isEmpty
  | .matching r => r.occursIn s.space
  | .every first step =>
    if step = 0 then s.number = first else first ≤ s.number && (s.number - first) % step = 0

private def isFor (s : State) (place : Nat) (i : Instruction) : Bool × State :=
  let without : State := { s with active := s.active.filter fun a => a.1 ≠ place }
  match i.start, i.limit with
  | none, _ => (true, s)
  | some start, none => (s.selects start, s)
  | some start, some limit =>
    match s.active.lookup place with
    | some (some until') => if until' ≤ s.number then (true, without) else (true, s)
    | some none =>
      match limit with
      | .at address => if s.selects address then (true, without) else (true, s)
      | .after _ => (true, without)
    | none =>
      let begins := match start with
        | .line 0 => true
        | start => s.selects start
      if !begins then (false, s)
      else
        match limit with
        | .at (.line n) =>
          if n ≤ s.number then (true, s)
          else (true, { s with active := (place, some n) :: s.active })
        | .after count =>
          if count = 0 then (true, s)
          else (true, { s with active := (place, some (s.number + count)) :: s.active })
        | .at address =>
          match start with
          | .line 0 =>
            if s.number ≤ 1 && s.selects address then (true, s)
            else if s.number ≤ 1 then (true, { s with active := (place, none) :: s.active })
            else (false, s)
          | _ => (true, { s with active := (place, none) :: s.active })

end State

inductive After where
  | goOn (place : Nat)
  | endCycle (prints : Bool)
  | restart
  | stop (prints : Bool)

private def findLabel (program : Array Instruction) (name : Text) : Nat :=
  if name.isEmpty then program.size
  else (program.findIdx? fun i => match i.action with
    | .label label => label = name
    | _ => false).getD program.size

private def blockEnd (program : Array Instruction) : (fuel : Nat) → (depth place : Nat) → Nat
  | 0, _, place => place
  | fuel + 1, depth, place =>
    match program[place]?.map Instruction.action with
    | none => place
    | some .opening => blockEnd program fuel (depth + 1) (place + 1)
    | some .closing => if depth = 0 then place + 1 else blockEnd program fuel (depth - 1) (place + 1)
    | some _ => blockEnd program fuel depth (place + 1)

private def act (settings : Settings) (program : Array Instruction) (place : Nat) (i : Instruction)
    (s : State) : After × State :=
  match i.action with
  | .substitute sub =>
    let (space, changed) := replace sub (2 * s.space.length + 4) [] false 0 s.space
    let s := { s with space := space, changed := s.changed || changed }
    (.goOn (place + 1), if changed && sub.prints then s.print settings else s)
  | .translate source target =>
    (.goOn (place + 1), { s with
      space := s.space.map fun c => ((source.zip target).lookup c).getD c })
  | .delete => (.endCycle false, s)
  | .deleteFirstLine =>
    match s.space.dropWhile (· ≠ '\n') with
    | _ :: rest => (.restart, { s with space := rest })
    | [] => (.endCycle false, s)
  | .print => (.goOn (place + 1), s.print settings)
  | .printFirstLine => (.goOn (place + 1), s.write (s.space.takeWhile (· ≠ '\n')) true)
  | .next =>
    match s.left with
    | [] => (.stop true, s)
    | line :: left =>
      let s := (if settings.quiet then s else s.print settings).flush
      (.goOn (place + 1), { s with space := line, left := left, number := s.number + 1 })
  | .addNext =>
    match s.left with
    | [] => (.stop true, s)
    | line :: left =>
      let s := s.flush
      (.goOn (place + 1), { s with
        space := s.space ++ '\n' :: line, left := left, number := s.number + 1 })
  | .quit status silent => (.stop (!silent), { s with status := status })
  | .append text => (.goOn (place + 1), { s with appended := s.appended ++ [text] })
  | .insert text => (.goOn (place + 1), s.write text.dropLast true)
  | .change text =>
    let atEnd := i.limit.isNone || i.negated || (s.active.lookup place).isNone
    (.endCycle false, if atEnd then s.write text.dropLast true else s)
  | .hold => (.goOn (place + 1), { s with held := s.space })
  | .addToHold => (.goOn (place + 1), { s with held := s.held ++ '\n' :: s.space })
  | .fetch => (.goOn (place + 1), { s with space := s.held })
  | .addFetched => (.goOn (place + 1), { s with space := s.space ++ '\n' :: s.held })
  | .exchange => (.goOn (place + 1), { s with space := s.held, held := s.space })
  | .number => (.goOn (place + 1), s.write (digitsOf s.number) true)
  | .label _ => (.goOn (place + 1), s)
  | .jump name => (.goOn (findLabel program name), s)
  | .jumpIfChanged name =>
    if s.changed then (.goOn (findLabel program name), { s with changed := false })
    else (.goOn (place + 1), s)
  | .jumpUnlessChanged name =>
    if s.changed then (.goOn (place + 1), { s with changed := false })
    else (.goOn (findLabel program name), s)
  | .opening => (.goOn (place + 1), s)
  | .closing => (.goOn (place + 1), s)
  | .nothing => (.goOn (place + 1), s)

private def run (settings : Settings) (program : Array Instruction) :
    (fuel : Nat) → (place : Nat) → State → State
  | 0, _, s => s
  | fuel + 1, place, s =>
    let closeCycle (prints : Bool) (s : State) : State :=
      (if prints && !settings.quiet then s.print settings else s).flush
    let nextCycle (s : State) : State :=
      match s.left with
      | [] => s
      | line :: left =>
        run settings program fuel 0
          { s with space := line, left := left, number := s.number + 1, changed := false }
    match program[place]? with
    | none => nextCycle (closeCycle true s)
    | some i =>
      let (selected, s) := s.isFor place i
      if selected = i.negated then
        let after := match i.action with
          | .opening => blockEnd program (program.size + 1) 0 (place + 1)
          | _ => place + 1
        run settings program fuel after s
      else
        match act settings program place i s with
        | (.goOn place, s) => run settings program fuel place s
        | (.endCycle prints, s) => nextCycle (closeCycle prints s)
        | (.restart, s) => run settings program fuel 0 s.flush
        | (.stop prints, s) => closeCycle prints s

private def textOf : List (Text × Bool) → Text
  | [] => []
  | [(text, ends)] => if ends then text ++ ['\n'] else text
  | (text, _) :: rest => text ++ '\n' :: textOf rest

def edit (quiet : Bool) (script : List Instruction) (text : Text) : Text × Nat :=
  match linesOf text with
  | [] => ([], 0)
  | line :: left =>
    let settings : Settings := ⟨quiet, text.getLast? = some '\n'⟩
    let start : State := ⟨line, [], 1, left, [], [], false, [], 0⟩
    let s := run settings script.toArray Act.stepLimit 0 start
    (textOf s.output.reverse, s.status)

end Editor

def sed (arguments : List Text) : Act Nat := do
  match Options.of? "nrEsuz" "ef"
      [("quiet", 'n'), ("silent", 'n'), ("regexp-extended", 'E'), ("expression", 'e'),
        ("unbuffered", 'u'), ("in-place", 'i'), ("file", 'f')]
      (arguments.filter fun a => a ≠ ['-', 'i']) with
  | none => return 1
  | some o =>
    let files ← (o.letters.filter fun l => l.1 = 'f').mapM fun l => do
      return ((← readNamed l.2).toOption.getD [])
    let given := (o.letters.filter fun l => l.1 = 'e').map Prod.snd ++ files
    let (scripts, names) := if given.isEmpty then (o.operands.take 1, o.operands.drop 1)
      else (given, o.operands)
    let script := ['\n'].intercalate scripts
    match if scripts.isEmpty then none
      else Editor.readScript (o.has 'r' || o.has 'E') (script.length + 1) script with
    | none =>
      complain "sed: -e expression #1: unknown command"
      return 1
    | some script =>
      if arguments.contains ['-', 'i'] then
        names.foldlM (fun status name => do
          match ← readNamed name with
          | .error _ => return 4
          | .ok text =>
            let (edited, _) := Editor.edit (o.has 'n') script text
            let opened : Except IoFailure Nat ← Act.call (.openFile name.string .toWrite)
            match opened with
            | .error _ => return 4
            | .ok descriptor =>
              let _ ← Act.writeAll descriptor edited.toBytes
              let _ ← Act.call (.close descriptor)
              return status) 0
      else
        let (texts, status) ← readInputs "sed" names
        let (edited, code) := Editor.edit (o.has 'n') script texts.flatten
        emitting edited (if code ≠ 0 then code else if status = 0 then 0 else 2)

def grep (arguments : List Text) : Act Nat := do
  match Options.of? "EFGvicnqslLhHowxaU" "emABCf"
      [("quiet", 'q'), ("silent", 'q'), ("invert-match", 'v'), ("ignore-case", 'i'), ("count", 'c'),
        ("line-number", 'n'), ("only-matching", 'o'), ("max-count", 'm'), ("line-buffered", 'U'),
        ("extended-regexp", 'E'), ("fixed-strings", 'F'), ("regexp", 'e'), ("text", 'a')]
      arguments with
  | none => return 2
  | some o =>
    let given := (o.letters.filter fun l => l.1 = 'e').map Prod.snd
    let (patterns, names) := if given.isEmpty then (o.operands.take 1, o.operands.drop 1)
      else (given, o.operands)
    let patterns := patterns.flatMap (splitAt '\n')
    let regexes := patterns.mapM fun pattern => do
      let regex ← if o.has 'F' then
          some (pattern.foldr (fun c r => Regex.sequence (.this c) r) .nothing)
        else Regex.read? (o.has 'E') false pattern
      let regex := if o.has 'x' then Regex.sequence .atStart (.sequence regex .atEnd) else regex
      let regex := if o.has 'w' then
          Regex.sequence (.atWordEdge true false) (.sequence regex (.atWordEdge false true)) else regex
      pure (if o.has 'i' then regex.withBothCases else regex)
    match regexes with
    | none => return 2
    | some [] => return 2
    | some regexes =>
      let names := if names.isEmpty then [['-']] else names
      let named := (names.length > 1 || o.has 'H') && !o.has 'h'
      let most := (o.value? 'm').bind number?
      let matchesIn (line : Text) : List Text :=
        regexes.flatMap fun r => go r (line.length + 1) [] line
      let (output, found, failed) ← names.foldlM (fun (output, found, failed) name => do
        match ← readNamed name with
        | .error failure =>
          if !o.has 's' then
            complain ("grep: " ++ Text.string name ++ ": " ++ failureText failure)
          return (output, found, true)
        | .ok text =>
          let kept := (linesOf text).zipIdx.filter fun (line, _) =>
            (regexes.any fun r => r.occursIn line) != o.has 'v'
          let kept := match most with
            | some n => kept.take n
            | none => kept
          let mark := if named then
              (if name = ['-'] then "(standard input)".toList else name) ++ [':'] else []
          let shown (line : Text) (i : Nat) : List Text :=
            let start := mark ++ (if o.has 'n' then digitsOf (i + 1) ++ [':'] else [])
            if o.has 'o' then if o.has 'v' then [] else (matchesIn line).map (start ++ ·)
            else [start ++ line]
          let here : List Text :=
            if o.has 'q' then []
            else if o.has 'l' then if kept.isEmpty then [] else [name]
            else if o.has 'L' then if kept.isEmpty then [name] else []
            else if o.has 'c' then [mark ++ digitsOf kept.length]
            else kept.flatMap fun (line, i) => shown line i
          return (output ++ here, found || !kept.isEmpty, failed))
        (([] : List Text), false, false)
      let status := if failed && !(found && o.has 'q') then 2 else if found then 0 else 1
      if output.isEmpty then return status else emitting (ofLines output) status
where
  go (r : Regex) : Nat → Text → Text → List Text
    | 0, _, _ => []
    | fuel + 1, before, cs =>
      match r.find before cs with
      | none => []
      | some (seen, after, groups) =>
        let text := (groups.lookup 0).getD []
        if text.isEmpty then
          match after with
          | [] => []
          | c :: rest => go r fuel (c :: seen.reverse) rest
        else text :: go r fuel (text.reverse ++ seen.reverse) after

end LanguageClient.Utility
