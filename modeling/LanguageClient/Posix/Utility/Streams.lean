import LanguageClient.Posix.Shell.Pattern
import LanguageClient.Posix.Utility.Format

/-!
Commands that pass on what they read, as it is or by bytes, characters and lines.
-/
namespace LanguageClient.Utility

open Shell (Text Ranges)

def passOn (descriptor : Nat) (targets : List Nat) : Act Nat := do
  let step (_ : Unit) : Act (Except Nat Unit) := do
    let found : Except IoFailure Frame.Bytes ← Act.call (.read descriptor Act.chunkSize)
    match found with
    | .error .interrupted => return .ok ()
    | .error _ => return .error 1
    | .ok [] => return .error 0
    | .ok bytes =>
      let written ← targets.mapM fun target => Act.writeAll target bytes
      if written.all (!·) then return .error 1 else return .ok ()
  return (← Act.repeatUntil step Act.stepLimit ()).getD 1

private def catNamed (name : Text) : Act Nat := do
  if name = ['-'] then passOn 0 [1]
  else
    let opened : Except IoFailure Nat ← Act.call (.openFile name.string .toRead)
    match opened with
    | .error failure =>
      complain ("cat: " ++ name.string ++ ": " ++ failureText failure)
      return 1
    | .ok descriptor =>
      let status ← passOn descriptor [1]
      if status ≠ 0 then complain ("cat: " ++ name.string ++ ": Is a directory")
      let _ ← Act.call (.close descriptor)
      return status

private def shownLines (o : Options) (lines : List Text) : Text :=
  let number (n : Nat) : Text :=
    let digits := digitsOf n
    List.replicate (6 - digits.length) ' ' ++ digits ++ ['\t']
  let step : List Text × Nat → Text → List Text × Nat := fun (shown, n) line =>
    let line' := if o.has 'E' || o.has 'A' || o.has 'e' then line ++ ['$'] else line
    if o.has 'b' && line.isEmpty then (line' :: shown, n)
    else if o.has 'n' || o.has 'b' then ((number n ++ line') :: shown, n + 1)
    else (line' :: shown, n)
  ofLines (lines.foldl step ([], 1)).1.reverse

def cat (arguments : List Text) : Act Nat := do
  match Options.of? "unbEAevTts" "" [("number", 'n')] arguments with
  | none => return 1
  | some o =>
    let names := if o.operands.isEmpty then [['-']] else o.operands
    if o.letters.all fun l => l.1 = 'u' then
      names.foldlM (fun status name => do return max status (← catNamed name)) 0
    else
      let (texts, status) ← readInputs "cat" names
      emitting (shownLines o (linesOf texts.flatten)) status

def tee (arguments : List Text) : Act Nat := do
  match Options.of? "aip" "" [("append", 'a')] arguments with
  | none => return 1
  | some o =>
    let opening : Opening := if o.has 'a' then .toAppend else .toWrite
    let (targets, status) ← o.operands.foldlM (fun (targets, status) name => do
      let opened : Except IoFailure Nat ← Act.call (.openFile name.string opening)
      match opened with
      | .ok descriptor => return (targets ++ [descriptor], status)
      | .error failure =>
        complain ("tee: " ++ name.string ++ ": " ++ failureText failure)
        return (targets, 1)) (([1] : List Nat), 0)
    return max status (← passOn 0 targets)

def yes (arguments : List Text) : Act Nat := do
  if (arguments.head?.map fun a => a.length > 2 && a.take 2 = ['-', '-']).getD false then return 1
  else
    let line := (if arguments.isEmpty then ['y'] else [' '].intercalate arguments) ++ ['\n']
    let chunk := (List.replicate (4096 / line.length + 1) line).flatten
    let step (_ : Unit) : Act (Except Nat Unit) := do
      if ← emit chunk then return .ok () else return .error 1
    return (← Act.repeatUntil step Act.stepLimit ()).getD 1

def bufferSize : Nat := 8192

def readBytes (descriptor count : Nat) : Act Frame.Bytes := do
  let step (state : List Frame.Bytes × Nat) :
      Act (Except (List Frame.Bytes) (List Frame.Bytes × Nat)) := do
    let (chunks, left) := state
    if left = 0 then return .error chunks
    else
      let found : Except IoFailure Frame.Bytes ← Act.call (.read descriptor (min left bufferSize))
      match found with
      | .error .interrupted => return .ok (chunks, left)
      | .error _ => return .error chunks
      | .ok [] => return .error chunks
      | .ok bytes => return .ok (bytes :: chunks, left - bytes.length)
  let chunks ← Act.repeatUntil step Act.stepLimit ([], count)
  return (chunks.getD []).reverse.flatten

private def readLines (descriptor count : Nat) : Act Text := do
  let step (state : List Text × Nat) : Act (Except (List Text) (List Text × Nat)) := do
    let (chunks, left) := state
    if left = 0 then return .error chunks
    else
      let found : Except IoFailure Frame.Bytes ← Act.call (.read descriptor bufferSize)
      match found with
      | .error .interrupted => return .ok (chunks, left)
      | .error _ => return .error chunks
      | .ok [] => return .error chunks
      | .ok bytes =>
        let text := Text.ofBytes bytes
        return .ok (text :: chunks, left - text.count '\n')
  let chunks ← Act.repeatUntil step Act.stepLimit ([], count)
  return (chunks.getD []).reverse.flatten

def firstLines : (count : Nat) → Text → Text
  | 0, _ => []
  | _, [] => []
  | count + 1, c :: rest => c :: firstLines (if c = '\n' then count else count + 1) rest

def lastLines (count : Nat) (text : Text) : Text :=
  let reversed := text.reverse
  match reversed with
  | '\n' :: rest => ('\n' :: takeLines count rest).reverse
  | rest => (takeLines count rest).reverse
where
  takeLines : Nat → Text → Text
    | 0, _ => []
    | _, [] => []
    | count + 1, c :: rest =>
      if c = '\n' then (if count = 0 then [] else c :: takeLines count rest)
      else c :: takeLines (count + 1) rest

private def withCount (arguments : List Text) : List Text :=
  arguments.flatMap fun a => match a with
    | '-' :: c :: rest => if c.isDigit then [['-', 'n'], c :: rest] else [a]
    | a => [a]

private def headOf (o : Options) (descriptor : Nat) : Act (Option Text) := do
  match o.value? 'c', o.value? 'n' with
  | some ('-' :: count), _ =>
    match size? count with
    | none => return none
    | some n =>
      let text := Text.ofBytes ((← Act.readAll descriptor).toOption.getD [])
      return some (text.take (text.length - n))
  | some count, _ =>
    match size? count with
    | none => return none
    | some n => return some (Text.ofBytes (← readBytes descriptor n))
  | none, some ('-' :: count) =>
    match size? count with
    | none => return none
    | some n =>
      let text := Text.ofBytes ((← Act.readAll descriptor).toOption.getD [])
      let lines := (linesOf text).length
      return some (firstLines (lines - n) text)
  | none, count =>
    match size? (count.getD ['1', '0']) with
    | none => return none
    | some n => return some (firstLines n (← readLines descriptor n))

private def tailOf (o : Options) (text : Text) : Option Text :=
  match o.value? 'c', o.value? 'n' with
  | some ('+' :: count), _ => (size? count).map fun n => text.drop (n - 1)
  | some count, _ => (size? (unsigned count)).map fun n => text.drop (text.length - n)
  | none, some ('+' :: count) =>
    (size? count).map fun n =>
      text.drop (firstLines (n - 1) text).length
  | none, count => (size? (unsigned (count.getD ['1', '0']))).map fun n => lastLines n text
where
  unsigned : Text → Text
    | '-' :: rest => rest
    | rest => rest

private def partOf (command : String) (o : Options)
    (part : Nat → Act (Option Text)) : Act Nat := do
  let names := if o.operands.isEmpty then [['-']] else o.operands
  let headed := names.length > 1 && !o.has 'q'
  let (_, status) ← names.foldlM (fun (first, status) name => do
    let heading := if headed then
        (if first then "" else "\n") ++ "==> " ++ (if name = ['-'] then "standard input"
          else Text.string name) ++ " <==\n"
      else ""
    let opened : Except IoFailure Nat ←
      if name = ['-'] then pure (.ok 0) else Act.call (.openFile (Text.string name) .toRead)
    match opened with
    | .error failure =>
      complain (command ++ ": cannot open '" ++ Text.string name ++ "' for reading: " ++
        failureText failure)
      return (first, 1)
    | .ok descriptor =>
      match ← part descriptor with
      | none => return (false, 1)
      | some text =>
        if descriptor ≠ 0 then
          let _ ← Act.call (.close descriptor)
        return (false, max status (← emitting (Text.ofString heading ++ text) 0))) (true, 0)
  return status

def head (arguments : List Text) : Act Nat := do
  match Options.of? "qvz" "cn" [("bytes", 'c'), ("lines", 'n'), ("quiet", 'q')]
      (withCount arguments) with
  | none => return 1
  | some o => partOf "head" o (headOf o)

def tail (arguments : List Text) : Act Nat := do
  match Options.of? "qvzfF" "cns" [("bytes", 'c'), ("lines", 'n'), ("quiet", 'q')]
      (withCount arguments) with
  | none => return 1
  | some o =>
    let status ← partOf "tail" o fun descriptor => do
      return tailOf o (Text.ofBytes ((← Act.readAll descriptor).toOption.getD []))
    if o.has 'f' || o.has 'F' then
      let step (_ : Unit) : Act (Except Nat Unit) := do
        Act.call (.sleep 1000)
        return .ok ()
      return (← Act.repeatUntil step Act.stepLimit ()).getD status
    else return status

def dd (arguments : List Text) : Act Nat := do
  let value? (key : String) : Option Text :=
    let start := key.toList ++ ['=']
    (arguments.filter start.isPrefixOf).getLast?.map (·.drop start.length)
  let valid := arguments.all fun a =>
    ["if", "of", "bs", "ibs", "obs", "count", "skip", "seek", "conv", "status", "iflag", "oflag",
      "cbs"].contains (String.ofList (a.takeWhile (· ≠ '='))) && a.contains '='
  let block := (((value? "bs").or (value? "ibs")).bind size?).getD 512
  let count := (value? "count").bind size?
  let skip := ((value? "skip").bind size?).getD 0
  let full := (value? "iflag") = some "fullblock".toList
  if !valid || block = 0 then return 1
  else
    let source : Except IoFailure Nat ← match value? "if" with
      | some name => Act.call (.openFile name.string .toRead)
      | none => pure (.ok 0)
    let opening : Opening :=
      if value? "conv" = some "notrunc".toList then { Opening.toWrite with empties := false }
      else .toWrite
    let target : Except IoFailure Nat ← match value? "of" with
      | some name => Act.call (.openFile name.string opening)
      | none => pure (.ok 1)
    match source, target with
    | .ok source, .ok target =>
      let readBlock : Act Frame.Bytes := do
        if full then readBytes source block
        else
          let found : Except IoFailure Frame.Bytes ← Act.call (.read source block)
          return found.toOption.getD []
      let step (n : Nat) : Act (Except Nat Nat) := do
        if count = some (n - skip) && skip ≤ n then return .error 0
        else
          let bytes ← readBlock
          if bytes.isEmpty then return .error 0
          else if n < skip then return .ok (n + 1)
          else if ← Act.writeAll target bytes then return .ok (n + 1)
          else return .error 1
      return (← Act.repeatUntil step Act.stepLimit 0).getD 1
    | _, _ => return 1

private def wordsIn (text : Text) : Nat :=
  (text.foldl (fun (inside, n) c =>
    let blank := c.isWhitespace || c.toNat = 11 || c.toNat = 12
    (!blank, if !inside && !blank then n + 1 else n)) (false, 0)).2

def wc (arguments : List Text) : Act Nat := do
  match Options.of? "clmwL" "" [("bytes", 'c'), ("lines", 'l'), ("words", 'w'), ("chars", 'm')]
      arguments with
  | none => return 1
  | some o =>
    let all := o.letters.isEmpty
    let counts (text : Text) : List Nat :=
      (if all || o.has 'l' then [text.count '\n'] else []) ++
      (if all || o.has 'w' then [wordsIn text] else []) ++
      (if o.has 'm' then [text.length] else []) ++
      (if all || o.has 'c' then [text.length] else []) ++
      (if o.has 'L' then [((linesOf text).map List.length).foldl max 0] else [])
    let names := if o.operands.isEmpty then [['-']] else o.operands
    let (texts, status) ← names.foldlM (fun (texts, status) name => do
      match ← readNamed name with
      | .ok text => return (texts ++ [(name, text)], status)
      | .error failure =>
        complain ("wc: " ++ Text.string name ++ ": " ++ failureText failure)
        return (texts, 1)) (([] : List (Text × Text)), 0)
    let total := (texts.flatMap Prod.snd).length
    let single := names.length = 1 && (counts []).length = 1
    let width := if single then 1
      else if names.contains ['-'] then 7
      else (digitsOf total).length
    let line (name : Text) (counts : List Nat) : Text :=
      let shown := [' '].intercalate (counts.map fun n =>
        let digits := digitsOf n
        List.replicate (width - digits.length) ' ' ++ digits)
      shown ++ (if name.isEmpty then [] else ' ' :: name) ++ ['\n']
    let lines := texts.map fun (name, text) =>
      line (if o.operands.isEmpty then [] else name) (counts text)
    let sums := texts.foldl (fun sums t => (sums.zip (counts t.2)).map fun (a, b) => a + b)
      ((counts []).map fun _ => 0)
    let last := if names.length > 1 then [line "total".toList sums] else []
    emitting (lines ++ last).flatten status

def expandSet (set : Text) : List Char := go (set.length + 1) set
where
  go : Nat → Text → List Char
    | 0, _ => []
    | _, [] => []
    | fuel + 1, '[' :: ':' :: rest =>
      match Ranges.className? rest with
      | some (name, after) =>
        match Ranges.ofClass? name with
        | some ranges => (ranges.flatMap fun (a, b) => between a b) ++ go fuel after
        | none => go fuel after
      | none => '[' :: go fuel (':' :: rest)
    | fuel + 1, '[' :: c :: '*' :: rest =>
      let digits := rest.takeWhile Char.isDigit
      match rest.drop digits.length with
      | ']' :: after =>
        List.replicate (if digits.isEmpty then 256 else numberOf digits) c ++ go fuel after
      | _ => '[' :: go fuel (c :: '*' :: rest)
    | fuel + 1, cs =>
      let (a, rest) := one cs
      match rest with
      | ['-'] => [a, '-']
      | '-' :: rest =>
        let (b, rest) := one rest
        between a b ++ go fuel rest
      | rest => a :: go fuel rest
  one : Text → Char × Text
    | '\\' :: c :: rest => readEscapeIn (c :: rest)
    | c :: rest => (c, rest)
    | [] => ('\x00', [])
  readEscapeIn (cs : Text) : Char × Text :=
    match cs with
    | [] => ('\\', [])
    | c :: rest =>
      if ['a', 'b', 'f', 'n', 'r', 't', 'v', '\\'].contains c || ('0' ≤ c && c ≤ '7') then
        readEscape cs
      else (c, rest)
  between (a b : Char) : List Char :=
    (List.range (b.toNat + 1 - a.toNat)).map fun i => Char.ofNat (a.toNat + i)

private def squeeze (inSet : Char → Bool) : Option Char → Text → Text
  | _, [] => []
  | last, c :: rest =>
    if last = some c && inSet c then squeeze inSet last rest else c :: squeeze inSet (some c) rest

def tr (arguments : List Text) : Act Nat := do
  match Options.of? "cCdst" "" [("complement", 'c'), ("delete", 'd'), ("squeeze-repeats", 's')]
      arguments with
  | none => return 1
  | some o =>
    let flipped := o.has 'c' || o.has 'C'
    let everything := (List.range 256).map Char.ofNat
    match o.operands with
    | first :: others =>
      let set := expandSet first
      let members := if flipped then everything.filter fun c => !set.contains c else set
      let second := others.head?.map expandSet
      let table : Array Bool := (everything.map fun c => members.contains c).toArray
      let inFirst (c : Char) : Bool := table[c.toNat]?.getD false
      let inSecond (c : Char) : Bool := (second.getD []).contains c
      let valid := others.length ≤ 1 &&
        (if o.has 'd' then o.has 's' = second.isSome else second.isSome || o.has 's')
      if !valid || second = some [] && !o.has 'd' then return 1
      else
        let text := Text.ofBytes ((← Act.readAll 0).toOption.getD [])
        let translated : Array Char := match second with
          | none => everything.toArray
          | some targets =>
            let last := targets.getLast?.getD '\x00'
            (members.zipIdx.foldl (fun (table : Array Char) (c, i) =>
              table.setIfInBounds c.toNat (targets[i]?.getD last)) everything.toArray)
        let translate (c : Char) : Char := translated[c.toNat]?.getD c
        let result :=
          if o.has 'd' then
            let kept := text.filter fun c => !inFirst c
            if o.has 's' then squeeze inSecond none kept else kept
          else if second.isSome then
            let changed := text.map translate
            if o.has 's' then squeeze inSecond none changed else changed
          else squeeze inFirst none text
        emitting result 0
    | [] => return 1

private def readList? (text : Text) : Option (List (Nat × Option Nat)) :=
  (split [] text).mapM fun part =>
    let first := part.takeWhile Char.isDigit
    match part.drop first.length with
    | [] => (number? first).map fun n => (n, some n)
    | '-' :: last =>
      if first.isEmpty && last.isEmpty then none
      else if last.isEmpty then (number? first).map fun n => (n, none)
      else (number? last).map fun n => ((number? first).getD 1, some n)
    | _ => none
where
  split : Text → Text → List Text
    | part, [] => [part.reverse]
    | part, c :: rest => if c = ',' then part.reverse :: split [] rest else split (c :: part) rest

private def isListed (ranges : List (Nat × Option Nat)) (n : Nat) : Bool :=
  ranges.any fun (a, b) => a ≤ n && (b.map fun b => decide (n ≤ b)).getD true

def splitAt (separator : Char) (text : Text) : List Text := go [] text
where
  go : Text → Text → List Text
    | piece, [] => [piece.reverse]
    | piece, c :: rest =>
      if c = separator then piece.reverse :: go [] rest else go (c :: piece) rest

def cut (arguments : List Text) : Act Nat := do
  match Options.of? "sn" "bcdf" [("delimiter", 'd'), ("fields", 'f'), ("only-delimited", 's')]
      arguments with
  | none => return 1
  | some o =>
    let positions := ((o.value? 'b').or (o.value? 'c')).bind readList?
    let fields := (o.value? 'f').bind readList?
    let separator := ((o.value? 'd').bind List.head?).getD '\t'
    let shorten (line : Text) : Option Text :=
      match positions, fields with
      | some ranges, _ =>
        some ((line.zipIdx.filter fun (_, i) => isListed ranges (i + 1)).map Prod.fst)
      | none, some ranges =>
        if !line.contains separator then if o.has 's' then none else some line
        else
          let kept := (splitAt separator line).zipIdx.filter fun (_, i) => isListed ranges (i + 1)
          some ([separator].intercalate (kept.map Prod.fst))
      | none, none => none
    if positions.isNone && fields.isNone then return 1
    else
      let (texts, status) ← readInputs "cut" o.operands
      emitting (ofLines ((linesOf texts.flatten).filterMap shorten)) status

private def isBefore : Text → Text → Bool
  | _, [] => false
  | [], _ :: _ => true
  | a :: as, b :: bs => a < b || (a = b && isBefore as bs)

def sort (arguments : List Text) : Act Nat := do
  match Options.of? "bdfgimnrsuzcC" "kto" [("reverse", 'r'), ("unique", 'u'), ("numeric-sort", 'n')]
      arguments with
  | none => return 2
  | some o =>
    let (texts, status) ← readInputs "sort" o.operands
    let lines := texts.flatMap linesOf
    let key (line : Text) : Text :=
      match (o.value? 'k').map fun k => k.takeWhile Char.isDigit with
      | none => line
      | some digits =>
        let n := numberOf digits - 1
        match (o.value? 't').bind List.head? with
        | some separator => [separator].intercalate ((splitAt separator line).drop n)
        | none => [' '].intercalate (((splitAt ' ' line).filter (!·.isEmpty)).drop n)
    let value (line : Text) : Int :=
      let text := (key line).dropWhile (· = ' ')
      let (below, digits) := match text with
        | '-' :: rest => (true, rest)
        | rest => (false, rest)
      let n : Int := numberOf (digits.takeWhile Char.isDigit)
      if below then -n else n
    let folded (line : Text) : Text := if o.has 'f' then (key line).map Char.toUpper else key line
    let least (a b : Text) : Bool :=
      if o.has 'n' && value a ≠ value b then value a ≤ value b
      else if folded a ≠ folded b && !o.has 'n' then !isBefore (folded b) (folded a)
      else !isBefore b a
    let sorted := lines.mergeSort fun a b => if o.has 'r' then least b a else least a b
    let same (a b : Text) : Bool := if o.has 'n' then value a = value b else folded a = folded b
    let kept := if o.has 'u' then
        (sorted.foldl (fun kept line => match kept with
          | last :: _ => if same last line then kept else line :: kept
          | [] => [line]) []).reverse
      else sorted
    match o.value? 'o' with
    | none => emitting (ofLines kept) (if status = 0 then 0 else 2)
    | some path =>
      let opened : Except IoFailure Nat ← Act.call (.openFile path.string .toWrite)
      match opened with
      | .ok descriptor =>
        let _ ← Act.writeAll descriptor (ofLines kept).toBytes
        return status
      | .error _ => return 2

def uniq (arguments : List Text) : Act Nat := do
  match Options.of? "cdui" "fsw" [("count", 'c')] arguments with
  | none => return 1
  | some o =>
    let (texts, status) ← readInputs "uniq" (o.operands.take 1)
    let groups := (linesOf texts.flatten).foldl (fun (groups : List (Text × Nat)) line =>
      match groups with
      | (last, n) :: rest => if last = line then (last, n + 1) :: rest else (line, 1) :: groups
      | [] => [(line, 1)]) []
    let kept := groups.reverse.filter fun (_, n) =>
      if o.has 'd' then 1 < n else if o.has 'u' then n = 1 else true
    let shown := kept.map fun (line, n) =>
      if o.has 'c' then
        let digits := digitsOf n
        List.replicate (7 - digits.length) ' ' ++ digits ++ ' ' :: line
      else line
    emitting (ofLines shown) status

def rev (arguments : List Text) : Act Nat := do
  let (texts, status) ← readInputs "rev" arguments
  emitting (ofLines ((linesOf texts.flatten).map List.reverse)) status

def tac (arguments : List Text) : Act Nat := do
  let (texts, status) ← readInputs "tac" arguments
  emitting (ofLines (linesOf texts.flatten).reverse) status

def nl (arguments : List Text) : Act Nat := do
  let (texts, status) ← readInputs "nl" (arguments.filter fun a => a.head? ≠ some '-')
  let lines := (linesOf texts.flatten).foldl (fun (shown, n) line =>
    if line.isEmpty then ("       ".toList :: shown, n)
    else
      let digits := digitsOf n
      ((List.replicate (6 - digits.length) ' ' ++ digits ++ '\t' :: line) :: shown, n + 1))
    (([] : List Text), 1)
  emitting (ofLines lines.1.reverse) status

def paste (arguments : List Text) : Act Nat := do
  match Options.of? "sz" "d" [] arguments with
  | none => return 1
  | some o =>
    let separator := [(((o.value? 'd').map expandSet).bind List.head?).getD '\t']
    let (texts, status) ← readInputs "paste" o.operands
    let columns := texts.map linesOf
    if o.has 's' then emitting (ofLines (columns.map separator.intercalate)) status
    else
      let height := (columns.map List.length).foldl max 0
      let rows := (List.range height).map fun i =>
        separator.intercalate (columns.map fun column => column[i]?.getD [])
      emitting (ofLines rows) status

def fold (arguments : List Text) : Act Nat := do
  match Options.of? "bs" "w" [] arguments with
  | none => return 1
  | some o =>
    let width := ((o.value? 'w').bind number?).getD 80
    let rec pieces : Nat → Text → List Text
      | 0, line => [line]
      | fuel + 1, line =>
        if line.length ≤ width then [line] else line.take width :: pieces fuel (line.drop width)
    let (texts, status) ← readInputs "fold" o.operands
    emitting (ofLines ((linesOf texts.flatten).flatMap fun line => pieces line.length line)) status

def seq (arguments : List Text) : Act Nat := do
  let (separator, arguments) := match arguments with
    | ['-', 's'] :: s :: rest => (s, rest)
    | ('-' :: 's' :: s) :: rest => (s, rest)
    | ['-', 'w'] :: rest => (['\n'], rest)
    | rest => (['\n'], rest)
  let numbers := arguments.mapM integer?
  let bounds : Option (Int × Int × Int) := match numbers with
    | some [last] => some (1, 1, last)
    | some [first, last] => some (first, 1, last)
    | some [first, step, last] => some (first, step, last)
    | _ => none
  match bounds with
  | none => return 1
  | some (first, step, last) =>
    if step = 0 then return 1
    else
      let count := ((last - first) / step + 1).toNat
      let values := (List.range count).map fun (i : Nat) => (toString (first + step * i)).toList
      emitting (if values.isEmpty then [] else separator.intercalate values ++ ['\n']) 0

/-- How a dump shows what it groups: so many bytes as a number to a base, or a byte as a
character. -/
inductive DumpForm where
  | number (bytes base width : Nat)
  | character
  deriving DecidableEq, Repr

namespace DumpForm

def of? (type : Text) : Option DumpForm :=
  match String.ofList type with
  | "c" => some .character
  | "x1" => some (.number 1 16 2)
  | "o1" => some (.number 1 8 3)
  | "u1" => some (.number 1 10 3)
  | "x2" => some (.number 2 16 4)
  | "o2" => some (.number 2 8 6)
  | "u2" => some (.number 2 10 5)
  | "x4" => some (.number 4 16 8)
  | "x" => some (.number 4 16 8)
  | "o4" => some (.number 4 8 11)
  | "u4" => some (.number 4 10 10)
  | "x8" => some (.number 8 16 16)
  | _ => none

private def filled (filler : Char) (width : Nat) (digits : Text) : Text :=
  List.replicate (width - digits.length) filler ++ digits

private def spelled (c : Char) : Text :=
  let name : Text := match c with
    | '\x00' => ['\\', '0']
    | '\x07' => ['\\', 'a']
    | '\x08' => ['\\', 'b']
    | '\t' => ['\\', 't']
    | '\n' => ['\\', 'n']
    | '\x0b' => ['\\', 'v']
    | '\x0c' => ['\\', 'f']
    | '\r' => ['\\', 'r']
    | c => if c.toNat < 32 || 126 < c.toNat then filled '0' 3 (Nat.toDigits 8 c.toNat) else [c]
  filled ' ' 3 name

def row (form : DumpForm) (line : Text) : Text :=
  match form with
  | .character => line.flatMap fun c => ' ' :: spelled c
  | .number bytes base width =>
    let groups := (List.range ((line.length + bytes - 1) / bytes)).map fun i =>
      (line.drop (i * bytes)).take bytes
    groups.flatMap fun group =>
      let n := group.foldr (fun c n => n * 256 + c.toNat) 0
      ' ' :: filled (if base = 10 then ' ' else '0') width (Nat.toDigits base n)

end DumpForm

private def dumpLines (brief : Bool) (width : Nat) (address : Nat → Text) (forms : List DumpForm) :
    (fuel : Nat) → (place : Nat) → (before : Option Text) → (skipped : Bool) → Text → List Text
  | 0, _, _, _, _ => []
  | fuel + 1, place, before, skipped, text =>
    if text.isEmpty then if (address place).isEmpty then [] else [address place]
    else
      let line := text.take width
      let next := dumpLines brief width address forms fuel (place + line.length) (some line)
      if brief && before = some line && line.length = width then
        if skipped then next true (text.drop width) else ['*'] :: next true (text.drop width)
      else
        let margin := List.replicate (address place).length ' '
        let rows := forms.map fun form => form.row line
        let labels := address place :: List.replicate (rows.length - 1) margin
        List.zipWith (· ++ ·) labels rows ++ next false (text.drop width)

def od (arguments : List Text) : Act Nat := do
  match Options.of? "vbcdox" "AtNjw" [("address-radix", 'A'), ("format", 't')] arguments with
  | none => return 1
  | some o =>
    let (texts, status) ← readInputs "od" o.operands
    let short : List (Char × Text) :=
      [('b', ['o', '1']), ('c', ['c']), ('d', ['u', '2']), ('o', ['o', '2']), ('x', ['x', '2'])]
    let types := o.letters.filterMap fun (letter, value) =>
      if letter = 't' then some value else short.lookup letter
    let types := if types.isEmpty then [['o', '2']] else types
    match types.mapM DumpForm.of?, ((o.value? 'N').map size?).getD (some texts.flatten.length),
        ((o.value? 'j').map size?).getD (some 0) with
    | some forms, some count, some start =>
      let base := match o.value? 'A' with
        | some ['d'] => 10
        | some ['x'] => 16
        | some ['n'] => 0
        | _ => 8
      let address (place : Nat) : Text :=
        if base = 0 then []
        else
          let digits := Nat.toDigits base place
          List.replicate ((if base = 16 then 6 else 7) - digits.length) '0' ++ digits
      let text := (texts.flatten.drop start).take count
      let width := ((o.value? 'w').bind number?).getD 16
      emitting (ofLines (dumpLines (!o.has 'v') width address forms (text.length + 1) start none false
        text)) status
    | _, _, _ => return 1

end LanguageClient.Utility
