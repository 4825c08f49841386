import LanguageClient.Posix.Shell.Basic

/-!
Reading scripts. Every reader gives what it has read and the characters that are left; nothing is
read when the text is not in the language. A script is read line by line, and a command that goes
over several lines is read as a whole.
-/
namespace LanguageClient.Shell

def isBlank (c : Char) : Bool := c = ' ' || c = '\t'

def isBackquote (c : Char) : Bool := c.toNat = 96

def isDelimiter (c : Char) : Bool :=
  isBlank c || c = '\n' || c = ';' || c = '&' || c = '|' || c = '<' || c = '>' || c = '(' || c = ')'

def isNameStart (c : Char) : Bool := c.isAlpha || c = '_'

def isNameChar (c : Char) : Bool := c.isAlphanum || c = '_'

def isName : Text → Bool
  | [] => false
  | c :: rest => isNameStart c && rest.all isNameChar

def skipComment : Text → Text
  | '#' :: rest => rest.dropWhile (· ≠ '\n')
  | cs => cs

def skipBlanks : Text → Text
  | '\\' :: '\n' :: rest => skipBlanks rest
  | c :: rest => if isBlank c then skipBlanks rest else skipComment (c :: rest)
  | [] => []

def skipLines (cs : Text) : Text := go (cs.length + 1) cs
where
  go : Nat → Text → Text
    | 0, cs => cs
    | fuel + 1, cs =>
      match skipBlanks cs with
      | '\n' :: rest => go fuel rest
      | rest => rest

def bareWord (cs : Text) : Text := cs.takeWhile fun c => !isDelimiter c

def keyword? (word : String) (cs : Text) : Option Text :=
  if bareWord cs = word.toList then some (cs.drop word.length) else none

def closers : List String := ["then", "do", "done", "fi", "else", "elif", "esac", "\x7d"]

def isClosed : Text → Bool
  | [] => true
  | ')' :: _ => true
  | ';' :: ';' :: _ => true
  | cs => (closers.map String.toList).contains (bareWord cs)

def isParameterMark (c : Char) : Bool := ['*', '@', '#', '?', '$', '!', '-'].contains c

/-- The name of a parameter: a letter and what may follow it, a number, or one mark. Without braces
a number has one digit. -/
def readParameterName (inBraces : Bool) : Text → Option (String × Text)
  | c :: rest =>
    if isNameStart c then
      some (.ofList (c :: rest.takeWhile isNameChar), rest.dropWhile isNameChar)
    else if c.isDigit then
      if inBraces then some (.ofList (c :: rest.takeWhile Char.isDigit), rest.dropWhile Char.isDigit)
      else some (.singleton c, rest)
    else if isParameterMark c then some (.singleton c, rest)
    else none
  | [] => none

def readAssigned : Text → Option (String × Text)
  | c :: rest =>
    if isNameStart c then
      match rest.dropWhile isNameChar with
      | '=' :: value => some (.ofList (c :: rest.takeWhile isNameChar), value)
      | _ => none
    else none
  | [] => none

inductive RedirectionMark where
  | toTarget (direction : Direction)
  | document (withoutTabs : Bool)

def readMark (cs : Text) : Option (Nat × RedirectionMark × Text) :=
  match cs with
  | c :: rest =>
    if c.isDigit then
      (mark rest).map fun (_, m, after) => (c.toNat - '0'.toNat, m, after)
    else mark cs
  | [] => none
where
  mark : Text → Option (Nat × RedirectionMark × Text)
    | '<' :: '<' :: '-' :: rest => some (0, .document true, rest)
    | '<' :: '<' :: rest => some (0, .document false, rest)
    | '<' :: '&' :: rest => some (0, .toTarget .duplicate, rest)
    | '<' :: '>' :: rest => some (0, .toTarget .fromAndToFile, rest)
    | '<' :: rest => some (0, .toTarget .fromFile, rest)
    | '>' :: '>' :: rest => some (1, .toTarget .toEnd, rest)
    | '>' :: '&' :: rest => some (1, .toTarget .duplicate, rest)
    | '>' :: '|' :: rest => some (1, .toTarget .overFile, rest)
    | '>' :: rest => some (1, .toTarget .toFile, rest)
    | _ => none

def Word.delimiter (word : Word) : Text × Bool :=
  (word.flatMap fun piece => match piece with
    | .text _ chars => chars
    | .home => ['~']
    | _ => [],
   word.any fun piece => match piece with
    | .text quoted _ => quoted
    | _ => false)

def cutDocument (withoutTabs : Bool) (delimiter : Text) (cs : Text) : Text × Text :=
  let line := cs.takeWhile (· ≠ '\n')
  let (document, after) := go ((cs.dropWhile (· ≠ '\n')).length + 1) ((cs.dropWhile (· ≠ '\n')).drop 1)
  (document, line ++ '\n' :: after)
where
  go : Nat → Text → Text × Text
    | 0, _ => ([], [])
    | fuel + 1, cs =>
      if cs.isEmpty then ([], [])
      else
        let line := cs.takeWhile (· ≠ '\n')
        let line := if withoutTabs then line.dropWhile (· = '\t') else line
        let after := (cs.dropWhile (· ≠ '\n')).drop 1
        if line = delimiter then ([], after)
        else
          let (document, after) := go fuel after
          (line ++ '\n' :: document, after)

def cutBackquoted (quoted : Bool) : Text → Option (Text × Text)
  | [] => none
  | '\\' :: c :: rest =>
    let plain := c = '$' || c = '\\' || isBackquote c || (quoted && c = '"')
    (cutBackquoted quoted rest).map fun (text, after) =>
      (if plain then c :: text else '\\' :: c :: text, after)
  | c :: rest =>
    if isBackquote c then some ([], rest)
    else (cutBackquoted quoted rest).map fun (text, after) => (c :: text, after)

def isMarkInQuotes (c : Char) : Bool := c = '$' || c = '"' || c = '\\' || isBackquote c

private def leavesHome : Word → Bool
  | [] => true
  | .text false ['/'] :: _ => true
  | .text false [':'] :: _ => true
  | _ => false

/-- Puts the home directory in place of its mark at the start of a word; in an assignment also
after each colon. -/
def withHome (afterColons : Bool) (word : Word) : Word := go true word
where
  go : Bool → Word → Word
    | _, [] => []
    | atStart, .text false ['~'] :: rest =>
      if atStart && leavesHome rest then .home :: go false rest
      else .text false ['~'] :: go false rest
    | _, .text false [':'] :: rest => .text false [':'] :: go afterColons rest
    | _, piece :: rest => piece :: go false rest

mutual

def readWord : (fuel : Nat) → Text → Option (Word × Text)
  | 0, _ => none
  | _, [] => some ([], [])
  | fuel + 1, c :: rest =>
    if isDelimiter c then some ([], c :: rest)
    else if c = '\'' then
      match rest.dropWhile (· ≠ '\'') with
      | _ :: after => do
        let (pieces, after) ← readWord fuel after
        pure (.text true (rest.takeWhile (· ≠ '\'')) :: pieces, after)
      | [] => none
    else if c = '"' then do
      let (inner, after) ← readQuoted fuel rest
      let (pieces, after) ← readWord fuel after
      pure (.text true [] :: inner ++ pieces, after)
    else if c = '\\' then
      match rest with
      | '\n' :: after => readWord fuel after
      | d :: after => do
        let (pieces, after) ← readWord fuel after
        pure (.text true [d] :: pieces, after)
      | [] => some ([.text true ['\\']], [])
    else if c = '$' then do
      let (piece, after) ← readExpansion fuel false rest
      let (pieces, after) ← readWord fuel after
      pure (piece :: pieces, after)
    else if isBackquote c then do
      let (piece, after) ← readBackquoted fuel false rest
      let (pieces, after) ← readWord fuel after
      pure (piece :: pieces, after)
    else do
      let (pieces, after) ← readWord fuel rest
      pure (.text false [c] :: pieces, after)

def readQuoted : (fuel : Nat) → Text → Option (Word × Text)
  | 0, _ => none
  | _, [] => none
  | fuel + 1, c :: rest =>
    if c = '"' then some ([], rest)
    else if c = '$' then do
      let (piece, after) ← readExpansion fuel true rest
      let (pieces, after) ← readQuoted fuel after
      pure (piece :: pieces, after)
    else if isBackquote c then do
      let (piece, after) ← readBackquoted fuel true rest
      let (pieces, after) ← readQuoted fuel after
      pure (piece :: pieces, after)
    else if c = '\\' then
      match rest with
      | '\n' :: after => readQuoted fuel after
      | d :: after => do
        let (pieces, after) ← readQuoted fuel after
        pure (.text true (if isMarkInQuotes d then [d] else ['\\', d]) :: pieces, after)
      | [] => none
    else do
      let (pieces, after) ← readQuoted fuel rest
      pure (.text true [c] :: pieces, after)

def readDocument : (fuel : Nat) → Text → Option Word
  | 0, _ => none
  | _, [] => some []
  | fuel + 1, c :: rest =>
    if c = '$' then do
      let (piece, after) ← readExpansion fuel true rest
      pure (piece :: (← readDocument fuel after))
    else if isBackquote c then do
      let (piece, after) ← readBackquoted fuel true rest
      pure (piece :: (← readDocument fuel after))
    else if c = '\\' then
      match rest with
      | '\n' :: after => readDocument fuel after
      | d :: after => do
        let shown := if isMarkInQuotes d && d ≠ '"' then [d] else ['\\', d]
        pure (.text true shown :: (← readDocument fuel after))
      | [] => some [.text true ['\\']]
    else do pure (.text true [c] :: (← readDocument fuel rest))

def readBackquoted : (fuel : Nat) → (quoted : Bool) → Text → Option (Piece × Text)
  | 0, _, _ => none
  | fuel + 1, quoted, cs => do
    let (text, after) ← cutBackquoted quoted cs
    let (command, rest) ← readList fuel true text
    if rest.isEmpty then pure (.output quoted command, after) else none

def readExpansion : (fuel : Nat) → (quoted : Bool) → Text → Option (Piece × Text)
  | 0, _, _ => none
  | fuel + 1, quoted, '(' :: '(' :: rest => do
    let (expression, after) ← readSum fuel 0 rest
    pure (.sum quoted expression, after)
  | fuel + 1, quoted, '(' :: rest => do
    let (command, after) ← readList fuel true rest
    match after with
    | ')' :: after => pure (.output quoted command, after)
    | _ => none
  | _ + 1, quoted, '\x7b' :: '#' :: '\x7d' :: rest =>
    some (.parameter quoted "#" .plain, rest)
  | fuel + 1, quoted, '\x7b' :: '#' :: rest =>
    match readParameterName true rest with
    | some (name, '\x7d' :: after) => some (.parameter quoted name .length, after)
    | _ => readUse fuel quoted "#" rest
  | fuel + 1, quoted, '\x7b' :: rest => do
    let (name, after) ← readParameterName true rest
    readUse fuel quoted name after
  | _ + 1, quoted, rest =>
    match readParameterName false rest with
    | some (name, after) => some (.parameter quoted name .plain, after)
    | none => some (.text quoted ['$'], rest)

def readUse : (fuel : Nat) → (quoted : Bool) → (name : String) → Text → Option (Piece × Text)
  | 0, _, _, _ => none
  | fuel + 1, quoted, name, cs =>
    let fallback (kind : Fallback) (emptyCounts : Bool) (rest : Text) : Option (Piece × Text) := do
      let (word, after) ← readBraced fuel quoted rest
      pure (.parameter quoted name (.fallback kind emptyCounts word), after)
    let without (atEnd longest : Bool) (rest : Text) : Option (Piece × Text) := do
      let (pattern, after) ← readBraced fuel false rest
      pure (.parameter quoted name (.without atEnd longest pattern), after)
    match cs with
    | '\x7d' :: rest => some (.parameter quoted name .plain, rest)
    | ':' :: '-' :: rest => fallback .use false rest
    | ':' :: '=' :: rest => fallback .assign false rest
    | ':' :: '?' :: rest => fallback .fail false rest
    | ':' :: '+' :: rest => fallback .alternative false rest
    | '-' :: rest => fallback .use true rest
    | '=' :: rest => fallback .assign true rest
    | '?' :: rest => fallback .fail true rest
    | '+' :: rest => fallback .alternative true rest
    | '#' :: '#' :: rest => without false true rest
    | '#' :: rest => without false false rest
    | '%' :: '%' :: rest => without true true rest
    | '%' :: rest => without true false rest
    | _ => none

def readBraced : (fuel : Nat) → (quoted : Bool) → Text → Option (Word × Text)
  | 0, _, _ => none
  | _, _, [] => none
  | fuel + 1, quoted, c :: rest =>
    if c = '\x7d' then some ([], rest)
    else if c = '$' then do
      let (piece, after) ← readExpansion fuel quoted rest
      let (pieces, after) ← readBraced fuel quoted after
      pure (piece :: pieces, after)
    else if isBackquote c then do
      let (piece, after) ← readBackquoted fuel quoted rest
      let (pieces, after) ← readBraced fuel quoted after
      pure (piece :: pieces, after)
    else if c = '"' then do
      let (inner, after) ← readQuoted fuel rest
      let (pieces, after) ← readBraced fuel quoted after
      pure (.text true [] :: inner ++ pieces, after)
    else if c = '\'' && !quoted then
      match rest.dropWhile (· ≠ '\'') with
      | _ :: after => do
        let (pieces, after) ← readBraced fuel quoted after
        pure (.text true (rest.takeWhile (· ≠ '\'')) :: pieces, after)
      | [] => none
    else if c = '\\' then
      match rest with
      | '\n' :: after => readBraced fuel quoted after
      | d :: after => do
        let (pieces, after) ← readBraced fuel quoted after
        let plain := !quoted || isMarkInQuotes d || d = '\x7d'
        pure (.text true (if plain then [d] else ['\\', d]) :: pieces, after)
      | [] => none
    else do
      let (pieces, after) ← readBraced fuel quoted rest
      pure (.text quoted [c] :: pieces, after)

def readSum : (fuel : Nat) → (depth : Nat) → Text → Option (Word × Text)
  | 0, _, _ => none
  | _, _, [] => none
  | fuel + 1, depth, c :: rest =>
    if c = ')' then
      match depth, rest with
      | 0, ')' :: after => some ([], after)
      | 0, _ => none
      | depth + 1, rest => do
        let (pieces, after) ← readSum fuel depth rest
        pure (.text true [')'] :: pieces, after)
    else if c = '(' then do
      let (pieces, after) ← readSum fuel (depth + 1) rest
      pure (.text true ['('] :: pieces, after)
    else if c = '$' then do
      let (piece, after) ← readExpansion fuel true rest
      let (pieces, after) ← readSum fuel depth after
      pure (piece :: pieces, after)
    else if isBackquote c then do
      let (piece, after) ← readBackquoted fuel true rest
      let (pieces, after) ← readSum fuel depth after
      pure (piece :: pieces, after)
    else if c = '"' then readSum fuel depth rest
    else if c = '\\' && rest.head? = some '\n' then readSum fuel depth (rest.drop 1)
    else do
      let (pieces, after) ← readSum fuel depth rest
      pure (.text true [c] :: pieces, after)

def readList : (fuel : Nat) → (mayBeEmpty : Bool) → Text → Option (Command × Text)
  | 0, _, _ => none
  | fuel + 1, mayBeEmpty, cs =>
    let cs := skipLines cs
    if isClosed cs then if mayBeEmpty then some (.nothing, cs) else none
    else do
      let (first, rest) ← readConditionals fuel cs
      match skipBlanks rest with
      | ';' :: ';' :: rest => pure (first, ';' :: ';' :: rest)
      | ';' :: rest => do
        let (second, rest) ← readList fuel true rest
        pure (.sequence first second, rest)
      | '&' :: rest => do
        let (second, rest) ← readList fuel true rest
        pure (.sequence (.background first) second, rest)
      | '\n' :: rest => do
        let (second, rest) ← readList fuel true rest
        pure (.sequence first second, rest)
      | rest => if isClosed rest then pure (first, rest) else none

def readLine : (fuel : Nat) → Text → Option (Command × Text)
  | 0, _ => none
  | fuel + 1, cs => do
    let (first, rest) ← readConditionals fuel cs
    match skipBlanks rest with
    | [] => pure (first, [])
    | '\n' :: rest => pure (first, rest)
    | ';' :: rest =>
      match skipBlanks rest with
      | [] => pure (first, [])
      | '\n' :: rest => pure (first, rest)
      | rest => do
        let (second, rest) ← readLine fuel rest
        pure (.sequence first second, rest)
    | '&' :: rest =>
      match skipBlanks rest with
      | [] => pure (.background first, [])
      | '\n' :: rest => pure (.background first, rest)
      | rest => do
        let (second, rest) ← readLine fuel rest
        pure (.sequence (.background first) second, rest)
    | _ => none

def readConditionals : (fuel : Nat) → Text → Option (Command × Text)
  | 0, _ => none
  | fuel + 1, cs => do
    let (first, rest) ← readPipeline fuel cs
    readMoreConditionals fuel first (skipBlanks rest)

def readMoreConditionals : (fuel : Nat) → Command → Text → Option (Command × Text)
  | 0, _, _ => none
  | fuel + 1, first, '&' :: '&' :: rest => do
    let (second, rest) ← readPipeline fuel (skipLines rest)
    readMoreConditionals fuel (.conditional true first second) (skipBlanks rest)
  | fuel + 1, first, '|' :: '|' :: rest => do
    let (second, rest) ← readPipeline fuel (skipLines rest)
    readMoreConditionals fuel (.conditional false first second) (skipBlanks rest)
  | _ + 1, first, rest => some (first, rest)

def readPipeline : (fuel : Nat) → Text → Option (Command × Text)
  | 0, _ => none
  | fuel + 1, cs =>
    match keyword? "!" cs with
    | some rest => do
      let (command, rest) ← readPipeline fuel (skipBlanks rest)
      pure (.negated command, rest)
    | none => do
      let (first, rest) ← readCommand fuel cs
      let (others, rest) ← readMorePipeline fuel (skipBlanks rest)
      pure (if others.isEmpty then first else .pipeline (first :: others), rest)

def readMorePipeline : (fuel : Nat) → Text → Option (List Command × Text)
  | 0, _ => none
  | _ + 1, '|' :: '|' :: rest => some ([], '|' :: '|' :: rest)
  | fuel + 1, '|' :: rest => do
    let (command, rest) ← readCommand fuel (skipLines rest)
    let (others, rest) ← readMorePipeline fuel (skipBlanks rest)
    pure (command :: others, rest)
  | _ + 1, rest => some ([], rest)

def readCommand : (fuel : Nat) → Text → Option (Command × Text)
  | 0, _ => none
  | fuel + 1, cs =>
    if isClosed cs then none
    else
      match cs with
      | '(' :: rest => do
        let (body, rest) ← readList fuel false rest
        match rest with
        | ')' :: rest => readRedirections fuel (.subshell body) rest
        | _ => none
      | _ =>
        match keyword? "\x7b" cs, keyword? "while" cs, keyword? "until" cs, keyword? "if" cs,
          keyword? "case" cs, keyword? "for" cs with
        | some rest, _, _, _, _, _ => do
          let (body, rest) ← readList fuel false rest
          readRedirections fuel body (← keyword? "\x7d" rest)
        | _, some rest, _, _, _, _ => do
          let (command, rest) ← readLoop fuel true rest
          readRedirections fuel command rest
        | _, _, some rest, _, _, _ => do
          let (command, rest) ← readLoop fuel false rest
          readRedirections fuel command rest
        | _, _, _, some rest, _, _ => do
          let (command, rest) ← readChoice fuel rest
          readRedirections fuel command rest
        | _, _, _, _, some rest, _ => do
          let (subject, rest) ← readWord fuel (skipBlanks rest)
          let rest ← keyword? "in" (skipLines rest)
          let (arms, rest) ← readArms fuel rest
          if subject.isEmpty then none else readRedirections fuel (.select subject arms) rest
        | _, _, _, _, _, some rest => do
          let (command, rest) ← readEach fuel rest
          readRedirections fuel command rest
        | _, _, _, _, _, _ =>
          let name := bareWord cs
          match skipBlanks (cs.drop name.length) with
          | '(' :: rest =>
            if isName name then
              match skipBlanks rest with
              | ')' :: rest => do
                let (body, rest) ← readCommand fuel (skipLines rest)
                pure (.define (.ofList name) body, rest)
              | _ => none
            else readSimple fuel [] [] [] cs
          | _ => readSimple fuel [] [] [] cs

def readLoop : (fuel : Nat) → (whileSuccess : Bool) → Text → Option (Command × Text)
  | 0, _, _ => none
  | fuel + 1, whileSuccess, cs => do
    let (condition, rest) ← readList fuel false cs
    let (body, rest) ← readList fuel false (← keyword? "do" rest)
    pure (.loop whileSuccess condition body, ← keyword? "done" rest)

def readEach : (fuel : Nat) → Text → Option (Command × Text)
  | 0, _ => none
  | fuel + 1, cs => do
    let name := bareWord (skipBlanks cs)
    let rest := skipLines ((skipBlanks cs).drop name.length)
    if !isName name then none
    else
      let (words, rest) ← match keyword? "in" rest with
        | some rest => do
          let (words, rest) ← readWords fuel (skipBlanks rest)
          pure (some words, rest)
        | none => pure (none, rest)
      let rest := match skipBlanks rest with
        | ';' :: rest => rest
        | rest => rest
      let (body, rest) ← readList fuel false (← keyword? "do" (skipLines rest))
      pure (.each (.ofList name) words body, ← keyword? "done" rest)

def readWords : (fuel : Nat) → Text → Option (List Word × Text)
  | 0, _ => none
  | fuel + 1, cs =>
    match cs with
    | [] => some ([], [])
    | c :: _ =>
      if c = ';' || c = '\n' then some ([], cs)
      else if isDelimiter c then none
      else do
        let (word, rest) ← readWord fuel cs
        let (words, rest) ← readWords fuel (skipBlanks rest)
        pure (withHome false word :: words, rest)

def readChoice : (fuel : Nat) → Text → Option (Command × Text)
  | 0, _ => none
  | fuel + 1, cs => do
    let (condition, rest) ← readList fuel false cs
    let (whenTrue, rest) ← readList fuel false (← keyword? "then" rest)
    match keyword? "elif" rest, keyword? "else" rest with
    | some rest, _ => do
      let (whenFalse, rest) ← readChoice fuel rest
      pure (.choice condition whenTrue whenFalse, rest)
    | none, some rest => do
      let (whenFalse, rest) ← readList fuel false rest
      pure (.choice condition whenTrue whenFalse, ← keyword? "fi" rest)
    | none, none => pure (.choice condition whenTrue .nothing, ← keyword? "fi" rest)

def readArms : (fuel : Nat) → Text → Option (List (List Word × Command) × Text)
  | 0, _ => none
  | fuel + 1, cs =>
    let cs := skipLines cs
    match keyword? "esac" cs with
    | some rest => some ([], rest)
    | none => do
      let (patterns, rest) ← readPatterns fuel (match cs with
        | '(' :: rest => skipBlanks rest
        | cs => cs)
      let (body, rest) ← readList fuel true rest
      match rest with
      | ';' :: ';' :: rest => do
        let (arms, rest) ← readArms fuel rest
        pure ((patterns, body) :: arms, rest)
      | rest => pure ([(patterns, body)], ← keyword? "esac" rest)

def readPatterns : (fuel : Nat) → Text → Option (List Word × Text)
  | 0, _ => none
  | fuel + 1, cs => do
    let (pattern, rest) ← readWord fuel cs
    if pattern.isEmpty then none
    else
      match skipBlanks rest with
      | ')' :: rest => pure ([withHome false pattern], rest)
      | '|' :: rest => do
        let (patterns, rest) ← readPatterns fuel (skipBlanks rest)
        pure (withHome false pattern :: patterns, rest)
      | _ => none

def readSimple : (fuel : Nat) → List (String × Word) → List Word → List Redirection → Text →
    Option (Command × Text)
  | 0, _, _, _, _ => none
  | fuel + 1, assignments, words, redirections, cs =>
    let cs := skipBlanks cs
    let whole : Option (Command × Text) :=
      if assignments.isEmpty && words.isEmpty && redirections.isEmpty then none
      else some (.simple assignments.reverse words.reverse redirections.reverse, cs)
    match readMark cs with
    | some (descriptor, mark, rest) => do
      let (redirection, rest) ← readTarget fuel descriptor mark (skipBlanks rest)
      readSimple fuel assignments words (redirection :: redirections) rest
    | none =>
      match cs with
      | [] => whole
      | c :: _ =>
        if isDelimiter c then whole
        else
          match words, readAssigned cs with
          | [], some (name, value) => do
            let (value, rest) ← readWord fuel value
            readSimple fuel ((name, withHome true value) :: assignments) [] redirections rest
          | _, _ => do
            let (word, rest) ← readWord fuel cs
            readSimple fuel assignments (withHome false word :: words) redirections rest

def readTarget : (fuel : Nat) → (descriptor : Nat) → RedirectionMark → Text →
    Option (Redirection × Text)
  | 0, _, _, _ => none
  | fuel + 1, descriptor, mark, cs => do
    let (target, rest) ← readWord fuel cs
    if target.isEmpty then none
    else
      match mark with
      | .toTarget direction => pure (.mk descriptor direction (withHome false target), rest)
      | .document withoutTabs =>
        let (delimiter, quoted) := target.delimiter
        let (document, rest) := cutDocument withoutTabs delimiter rest
        if quoted then pure (.mk descriptor .fromText [.text true document], rest)
        else pure (.mk descriptor .fromText (← readDocument fuel document), rest)

def readRedirections : (fuel : Nat) → Command → Text → Option (Command × Text)
  | 0, _, _ => none
  | fuel + 1, command, cs => do
    let (redirections, rest) ← readMoreRedirections fuel cs
    pure (if redirections.isEmpty then command else .redirected command redirections, rest)

def readMoreRedirections : (fuel : Nat) → Text → Option (List Redirection × Text)
  | 0, _ => none
  | fuel + 1, cs =>
    match readMark (skipBlanks cs) with
    | some (descriptor, mark, rest) => do
      let (redirection, rest) ← readTarget fuel descriptor mark (skipBlanks rest)
      let (others, rest) ← readMoreRedirections fuel rest
      pure (redirection :: others, rest)
    | none => some ([], cs)

end

inductive NextLine where
  | atEnd
  | command (command : Command) (rest : Text)
  | malformed

def nextLine (script : Text) : NextLine :=
  let cs := skipLines script
  if cs.isEmpty then .atEnd
  else
    match readLine (8 * cs.length + 64) cs with
    | some (command, rest) => .command command rest
    | none => .malformed

end LanguageClient.Shell
