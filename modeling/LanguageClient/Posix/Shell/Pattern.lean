import LanguageClient.Posix.Shell.Basic

/-!
Patterns of scripts, in which a star stands for any text, a question mark for any character, and
brackets for one of several characters. A character that was quoted stands for itself.
-/
namespace LanguageClient.Shell

abbrev Ranges := List (Char × Char)

namespace Ranges

def contain (ranges : Ranges) (c : Char) : Bool := ranges.any fun r => r.1 ≤ c && c ≤ r.2

def ofClass? (name : Text) : Option Ranges :=
  match String.ofList name with
  | "alpha" => some [('A', 'Z'), ('a', 'z')]
  | "digit" => some [('0', '9')]
  | "alnum" => some [('0', '9'), ('A', 'Z'), ('a', 'z')]
  | "upper" => some [('A', 'Z')]
  | "lower" => some [('a', 'z')]
  | "space" => some [('\t', '\r'), (' ', ' ')]
  | "blank" => some [('\t', '\t'), (' ', ' ')]
  | "punct" => some [('!', '/'), (':', '@'), ('[', Char.ofNat 96), ('\x7b', '~')]
  | "cntrl" => some [('\x00', '\x1f'), ('\x7f', '\x7f')]
  | "print" => some [(' ', '~')]
  | "graph" => some [('!', '~')]
  | "xdigit" => some [('0', '9'), ('A', 'F'), ('a', 'f')]
  | _ => none

def className? (cs : Text) : Option (Text × Text) :=
  let name := cs.takeWhile Char.isAlpha
  match cs.drop name.length with
  | ':' :: ']' :: rest => some (name, rest)
  | _ => none

end Ranges

inductive PatternPart where
  | anyText
  | anyCharacter
  | this (c : Char)
  | oneOf (negated : Bool) (ranges : Ranges)
  deriving DecidableEq, Repr

def readBrackets : (fuel : Nat) → (first : Bool) → List (Char × Bool) →
    Option (Ranges × List (Char × Bool))
  | 0, _, _ => none
  | _, _, [] => none
  | fuel + 1, first, (c, quoted) :: rest =>
    if c = ']' && !quoted && !first then some ([], rest)
    else
      match if c = '[' && !quoted && (rest.head?.map Prod.fst) = some ':' then
          (Ranges.className? ((rest.drop 1).map Prod.fst)) else none with
      | some (name, after) => do
        let rest := rest.drop (rest.length - after.length)
        let (ranges, rest) ← readBrackets fuel false rest
        pure ((Ranges.ofClass? name).getD [] ++ ranges, rest)
      | none =>
        match rest with
        | ('-', false) :: (last, lastQuoted) :: after =>
          if last = ']' && !lastQuoted then
            (readBrackets fuel false rest).map fun (ranges, rest) => ((c, c) :: ranges, rest)
          else
            (readBrackets fuel false after).map fun (ranges, rest) => ((c, last) :: ranges, rest)
        | _ => (readBrackets fuel false rest).map fun (ranges, rest) => ((c, c) :: ranges, rest)

/-- The parts of a pattern. A bracket that is not closed stands for itself. -/
def readPattern : List (Char × Bool) → List PatternPart
  | cs => go (cs.length + 1) cs
where
  go : Nat → List (Char × Bool) → List PatternPart
    | 0, _ => []
    | _, [] => []
    | fuel + 1, (c, true) :: rest => .this c :: go fuel rest
    | fuel + 1, ('*', false) :: rest => .anyText :: go fuel rest
    | fuel + 1, ('?', false) :: rest => .anyCharacter :: go fuel rest
    | fuel + 1, ('[', false) :: rest =>
      let (negated, inner) := match rest with
        | ('!', false) :: inner => (true, inner)
        | ('^', false) :: inner => (true, inner)
        | inner => (false, inner)
      match readBrackets (inner.length + 1) true inner with
      | some (ranges, after) => .oneOf negated ranges :: go fuel after
      | none => .this '[' :: go fuel rest
    | fuel + 1, ('\\', false) :: (c, false) :: rest => .this c :: go fuel rest
    | fuel + 1, (c, false) :: rest => .this c :: go fuel rest

def matchesParts : List PatternPart → Text → Bool
  | [], cs => cs.isEmpty
  | .anyText :: rest, [] => matchesParts rest []
  | .anyText :: rest, c :: more =>
    matchesParts rest (c :: more) || matchesParts (.anyText :: rest) more
  | .anyCharacter :: rest, _ :: more => matchesParts rest more
  | .this p :: rest, c :: more => p = c && matchesParts rest more
  | .oneOf negated ranges :: rest, c :: more =>
    (ranges.contain c != negated) && matchesParts rest more
  | _, [] => false
termination_by parts cs => (parts.length, cs.length)

def matchesWhole (pattern : List (Char × Bool)) (text : Text) : Bool :=
  matchesParts (readPattern pattern) text

def withoutMatch (atEnd longest : Bool) (pattern : List (Char × Bool)) (text : Text) : Text :=
  let parts := readPattern pattern
  let lengths := List.range (text.length + 1)
  let lengths := if longest then lengths.reverse else lengths
  let rest? (n : Nat) : Option Text :=
    if atEnd then
      let (kept, part) := text.splitAt (text.length - n)
      if matchesParts parts part then some kept else none
    else
      let (part, kept) := text.splitAt n
      if matchesParts parts part then some kept else none
  (lengths.findSome? rest?).getD text

end LanguageClient.Shell
