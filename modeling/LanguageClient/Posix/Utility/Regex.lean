import LanguageClient.Posix.Shell.Pattern

/-!
Regular expressions, as the commands that edit and search texts know them, in their basic and their
extended form. Of the matches at a place the longest counts, and of the places the first.
-/
namespace LanguageClient.Utility

open Shell (Text Ranges)

inductive Regex where
  | nothing
  | anyCharacter
  | oneOf (negated : Bool) (ranges : Ranges)
  | atStart
  | atEnd
  | atWordEdge (opens closes : Bool)
  | sequence (first second : Regex)
  | choice (first second : Regex)
  | repeated (body : Regex) (least : Nat) (most : Option Nat)
  | group (number : Nat) (body : Regex)
  | again (group : Nat)
  deriving Repr

namespace Regex

def this (c : Char) : Regex := .oneOf false [(c, c)]

def size : Regex → Nat
  | .sequence a b => a.size + b.size + 1
  | .choice a b => a.size + b.size + 1
  | .repeated a _ _ => a.size + 1
  | .group _ a => a.size + 1
  | _ => 1

def hasChoice : Regex → Bool
  | .sequence a b => a.hasChoice || b.hasChoice
  | .choice _ _ => true
  | .repeated a _ _ => a.hasChoice
  | .group _ a => a.hasChoice
  | _ => false

def readSet : (fuel : Nat) → (escapes first : Bool) → Text → Option (Ranges × Text)
  | 0, _, _, _ => none
  | _, _, _, [] => none
  | fuel + 1, escapes, first, c :: rest =>
    if c = ']' && !first then some ([], rest)
    else
      match if c = '[' && rest.head? = some ':' then Ranges.className? (rest.drop 1) else none with
      | some (name, rest) => do
        let (ranges, rest) ← readSet fuel escapes false rest
        pure ((← Ranges.ofClass? name) ++ ranges, rest)
      | none =>
        let (c, rest) := match escapes, c, rest with
          | true, '\\', 'n' :: rest => ('\n', rest)
          | true, '\\', 't' :: rest => ('\t', rest)
          | true, '\\', 'r' :: rest => ('\r', rest)
          | _, c, rest => (c, rest)
        match rest with
        | '-' :: last :: after =>
          if last = ']' then
            (readSet fuel escapes false rest).map fun (ranges, rest) => ((c, c) :: ranges, rest)
          else
            (readSet fuel escapes false after).map fun (ranges, rest) => ((c, last) :: ranges, rest)
        | _ => (readSet fuel escapes false rest).map fun (ranges, rest) => ((c, c) :: ranges, rest)

private def readCount (cs : Text) : Option Nat × Text :=
  let digits := cs.takeWhile Char.isDigit
  (if digits.isEmpty then none
    else some (digits.foldl (fun n c => n * 10 + (c.toNat - '0'.toNat)) 0), cs.drop digits.length)

private def readBounds (extended : Bool) (cs : Text) : Option ((Nat × Option Nat) × Text) := do
  let (least, rest) := readCount cs
  let (bounds, rest) ← match least, rest with
    | least, ',' :: rest =>
      let (most, rest) := readCount rest
      some ((least.getD 0, most), rest)
    | some least, rest => some ((least, some least), rest)
    | none, _ => none
  match extended, rest with
  | true, '\x7d' :: rest => pure (bounds, rest)
  | false, '\\' :: '\x7d' :: rest => pure (bounds, rest)
  | _, _ => none

private def readRepetition (extended : Bool) : Text → Option ((Nat × Option Nat) × Text)
  | '*' :: rest => some ((0, none), rest)
  | '\\' :: c :: rest =>
    if extended then none
    else if c = '+' then some ((1, none), rest)
    else if c = '?' then some ((0, some 1), rest)
    else if c = '\x7b' then readBounds false rest
    else none
  | c :: rest =>
    if !extended then none
    else if c = '+' then some ((1, none), rest)
    else if c = '?' then some ((0, some 1), rest)
    else if c = '\x7b' then readBounds true rest
    else none
  | [] => none

private def readRepetitions (extended : Bool) : (fuel : Nat) → Regex → Text → Regex × Text
  | 0, r, cs => (r, cs)
  | fuel + 1, r, cs =>
    match readRepetition extended cs with
    | some ((least, most), rest) => readRepetitions extended fuel (.repeated r least most) rest
    | none => (r, cs)

def wordRanges : Ranges := [('0', '9'), ('A', 'Z'), ('_', '_'), ('a', 'z')]

def spaceRanges : Ranges := [('\t', '\r'), (' ', ' ')]

private def ofEscape (c : Char) : Regex :=
  match c with
  | 'n' => this '\n'
  | 't' => this '\t'
  | 'r' => this '\r'
  | 'w' => .oneOf false wordRanges
  | 'W' => .oneOf true wordRanges
  | 's' => .oneOf false spaceRanges
  | 'S' => .oneOf true spaceRanges
  | 'b' => .atWordEdge true true
  | '<' => .atWordEdge true false
  | '>' => .atWordEdge false true
  | c => if c.isDigit then .again (c.toNat - '0'.toNat) else this c

private def isEnd (extended : Bool) : Text → Bool
  | [] => true
  | '\\' :: c :: _ => !extended && (c = ')' || c = '|')
  | c :: _ => extended && (c = ')' || c = '|')

mutual

def readChoices (extended escapes : Bool) : (fuel : Nat) → (groups : Nat) → Text →
    Option (Regex × Nat × Text)
  | 0, _, _ => none
  | fuel + 1, groups, cs => do
    let (first, groups, rest) ← readSequence extended escapes fuel groups true cs
    match extended, rest with
    | true, '|' :: rest =>
      let (second, groups, rest) ← readChoices extended escapes fuel groups rest
      pure (.choice first second, groups, rest)
    | false, '\\' :: '|' :: rest =>
      let (second, groups, rest) ← readChoices extended escapes fuel groups rest
      pure (.choice first second, groups, rest)
    | _, _ => pure (first, groups, rest)

def readSequence (extended escapes : Bool) : (fuel : Nat) → (groups : Nat) → (first : Bool) → Text →
    Option (Regex × Nat × Text)
  | 0, _, _, _ => none
  | fuel + 1, groups, first, cs =>
    if isEnd extended cs then some (.nothing, groups, cs)
    else do
      let (part, groups, rest, isAnchor) ← readPart extended escapes fuel groups first cs
      let (part, rest) :=
        if isAnchor && !extended then (part, rest)
        else readRepetitions extended (rest.length + 1) part rest
      let (others, groups, rest) ← readSequence extended escapes fuel groups (isAnchor && first) rest
      pure (.sequence part others, groups, rest)

def readPart (extended escapes : Bool) : (fuel : Nat) → (groups : Nat) → (first : Bool) → Text →
    Option (Regex × Nat × Text × Bool)
  | 0, _, _, _ => none
  | fuel + 1, groups, first, cs =>
    let grouped (rest : Text) : Option (Regex × Nat × Text × Bool) := do
      let number := groups + 1
      let (body, groups, rest) ← readChoices extended escapes fuel number rest
      match extended, rest with
      | true, ')' :: rest => pure (.group number body, groups, rest, false)
      | false, '\\' :: ')' :: rest => pure (.group number body, groups, rest, false)
      | _, _ => none
    match cs with
    | [] => none
    | '[' :: '^' :: rest => do
      let (ranges, rest) ← readSet (rest.length + 1) escapes true rest
      pure (.oneOf true ranges, groups, rest, false)
    | '[' :: rest => do
      let (ranges, rest) ← readSet (rest.length + 1) escapes true rest
      pure (.oneOf false ranges, groups, rest, false)
    | '.' :: rest => some (.anyCharacter, groups, rest, false)
    | '^' :: rest =>
      if first || extended then some (.atStart, groups, rest, true)
      else some (this '^', groups, rest, false)
    | '$' :: rest =>
      if extended || isEnd extended rest then some (.atEnd, groups, rest, false)
      else some (this '$', groups, rest, false)
    | '*' :: rest =>
      if first then some (this '*', groups, rest, false) else none
    | '\\' :: '(' :: rest =>
      if extended then some (this '(', groups, rest, false) else grouped rest
    | '\\' :: c :: rest =>
      if !extended && c = '\x7b' then none
      else some (ofEscape c, groups, rest, false)
    | ['\\'] => none
    | '(' :: rest => if extended then grouped rest else some (this '(', groups, rest, false)
    | c :: rest =>
      if extended && (c = '+' || c = '?') then
        if first then some (this c, groups, rest, false) else none
      else some (this c, groups, rest, false)

end

def read? (extended escapes : Bool) (text : Text) : Option Regex := do
  let (r, _, rest) ← readChoices extended escapes (3 * text.length + 8) 0 text
  if rest.isEmpty then pure r else none

def withBothCases : Regex → Regex
  | .oneOf negated ranges =>
    let lower : Ranges := (List.range 26).filterMap fun i =>
      let (small, capital) := (Char.ofNat (97 + i), Char.ofNat (65 + i))
      if ranges.contain small || ranges.contain capital then some (small, small) else none
    let upper : Ranges := lower.map fun (c, _) => (c.toUpper, c.toUpper)
    .oneOf negated (ranges ++ lower ++ upper)
  | .sequence a b => .sequence a.withBothCases b.withBothCases
  | .choice a b => .choice a.withBothCases b.withBothCases
  | .repeated a least most => .repeated a.withBothCases least most
  | .group number a => .group number a.withBothCases
  | r => r

structure At where
  before : Option Char
  rest : Text
  groups : List (Nat × Text)

private def isWordChar (c : Option Char) : Bool := (c.map wordRanges.contain).getD false

def matchFrom : (fuel : Nat) → Regex → At → (next : At → Option At) → Option At
  | 0, _, _, _ => none
  | fuel + 1, r, place, next =>
    match r with
    | .nothing => next place
    | .anyCharacter =>
      match place.rest with
      | c :: rest => next { place with before := some c, rest := rest }
      | [] => none
    | .oneOf negated ranges =>
      match place.rest with
      | c :: rest =>
        if ranges.contain c != negated then next { place with before := some c, rest := rest }
        else none
      | [] => none
    | .atStart => if place.before.isNone then next place else none
    | .atEnd => if place.rest.isEmpty then next place else none
    | .atWordEdge opens closes =>
      let inside := isWordChar place.before
      let goesOn := isWordChar place.rest.head?
      if (opens && !inside && goesOn) || (closes && inside && !goesOn) then next place else none
    | .sequence a b => matchFrom fuel a place fun place => matchFrom fuel b place next
    | .choice a b =>
      match matchFrom fuel a place next with
      | some found => some found
      | none => matchFrom fuel b place next
    | .repeated body least most =>
      let more : Option At :=
        if most = some 0 then none
        else
          matchFrom fuel body place fun after =>
            if after.rest.length < place.rest.length || 0 < least then
              matchFrom fuel (.repeated body (least - 1) (most.map (· - 1))) after next
            else none
      match more with
      | some found => some found
      | none => if least = 0 then next place else none
    | .group number body =>
      matchFrom fuel body place fun after =>
        let text := place.rest.take (place.rest.length - after.rest.length)
        next { after with
          groups := (number, text) :: after.groups.filter fun g => g.1 ≠ number }
    | .again number =>
      match place.groups.lookup number with
      | none => none
      | some text =>
        if text.isPrefixOf place.rest then
          next { place with
            before := if text.isEmpty then place.before else text.getLast?,
            rest := place.rest.drop text.length }
        else none

def matchAt (r : Regex) (before : Option Char) (cs : Text) : Option (Text × List (Nat × Text)) :=
  let fuel := (r.size + 2) * (cs.length + 3)
  let from? (next : At → Option At) : Option At := matchFrom fuel r ⟨before, cs, []⟩ next
  let found := if r.hasChoice then
      (List.range (cs.length + 1)).findSome? fun left =>
        from? fun place => if place.rest.length = left then some place else none
    else from? some
  found.map fun place =>
    (place.rest, (0, cs.take (cs.length - place.rest.length)) :: place.groups)

def find (r : Regex) : (before : Text) → Text → Option (Text × Text × List (Nat × Text))
  | before, cs =>
    match r.matchAt before.head? cs with
    | some (after, groups) => some (before.reverse, after, groups)
    | none =>
      match cs with
      | [] => none
      | c :: rest => find r (c :: before) rest

def occursIn (r : Regex) (text : Text) : Bool := (r.find [] text).isSome

end Regex

end LanguageClient.Utility
