import LanguageClient.Posix.Process.Basic
import LanguageClient.Posix.Shell.Basic

/-!
What the commands of scripts have in common: they write texts, read what they are given or the
files that are named, and take options before their operands.
-/
namespace LanguageClient.Utility

open Shell (Text)

def emit (text : Text) : Act Bool := Act.writeAll 1 text.toBytes

def complain (line : String) : Act Unit := do
  let _ ← Act.writeAll 2 (Frame.bytesOf (line ++ "\n"))

def failureText (failure : IoFailure) : String :=
  let cs := failure.message.toList
  let ending := " (os error".toList
  String.ofList ((List.range cs.length).findSome? (fun i =>
    if ending.isPrefixOf (cs.drop i) then some (cs.take i) else none) |>.getD cs)

def digitsOf (n : Nat) : Text := (toString n).toList

def numberOf (digits : Text) : Nat :=
  digits.foldl (fun n c => n * 10 + (c.toNat - '0'.toNat)) 0

def number? (text : Text) : Option Nat :=
  if text.isEmpty || !text.all Char.isDigit then none else some (numberOf text)

def integer? : Text → Option Int
  | '-' :: rest => (number? rest).map fun n => -(n : Int)
  | '+' :: rest => (number? rest).map Int.ofNat
  | rest => (number? rest).map Int.ofNat

def size? (text : Text) : Option Nat :=
  let digits := text.takeWhile Char.isDigit
  if digits.isEmpty then none
  else
    let scale : Option Nat := match String.ofList (text.drop digits.length) with
      | "" => some 1
      | "b" => some 512
      | "k" => some 1024
      | "K" => some 1024
      | "kB" => some 1000
      | "M" => some 0x100000
      | "MB" => some 1000000
      | "G" => some 0x40000000
      | _ => none
    scale.map (numberOf digits * ·)

def duration? (text : Text) : Option Nat :=
  let whole := text.takeWhile Char.isDigit
  let rest := text.drop whole.length
  let fraction := match rest with
    | '.' :: rest => rest.takeWhile Char.isDigit
    | _ => []
  let unit := match rest with
    | '.' :: rest => rest.drop fraction.length
    | rest => rest
  let scale : Option Nat := match String.ofList unit with
    | "" => some 1
    | "s" => some 1
    | "m" => some 60
    | "h" => some 3600
    | "d" => some 86400
    | _ => none
  if whole.isEmpty && fraction.isEmpty then none
  else scale.map fun scale =>
    let thousandths := numberOf ((fraction ++ ['0', '0', '0']).take 3)
    let more := if (fraction.drop 3).any (· ≠ '0') then 1 else 0
    (numberOf whole * 1000 + thousandths + more) * scale

def linesOf (text : Text) : List Text :=
  match text with
  | [] => []
  | text => if text.getLast? = some '\n' then (go [] text).dropLast else go [] text
where
  go : Text → Text → List Text
    | line, [] => [line.reverse]
    | line, c :: rest => if c = '\n' then line.reverse :: go [] rest else go (c :: line) rest

def ofLines (lines : List Text) : Text := lines.flatMap (· ++ ['\n'])

structure Options where
  letters : List (Char × Text)
  operands : List Text

namespace Options

def has (o : Options) (letter : Char) : Bool := o.letters.any fun l => l.1 = letter

def value? (o : Options) (letter : Char) : Option Text :=
  (o.letters.filter fun l => l.1 = letter).getLast?.map Prod.snd

/-- Reads options. `plain` are the letters without a value and `valued` those with one. Operands
may stand before options if `mixed` says so. A long option counts as the letter it stands for. -/
def read? (plain valued : String) (mixed : Bool) (long : List (String × Char)) :
    (fuel : Nat) → List Text → Option Options
  | 0, _ => none
  | _, [] => some ⟨[], []⟩
  | fuel + 1, word :: rest =>
    match word with
    | ['-', '-'] => some ⟨[], rest⟩
    | '-' :: '-' :: name =>
      let key := String.ofList (name.takeWhile (· ≠ '='))
      match long.lookup key with
      | none => none
      | some letter =>
        if valued.toList.contains letter then
          match name.dropWhile (· ≠ '=') with
          | _ :: value => add letter value (read? plain valued mixed long fuel rest)
          | [] =>
            match rest with
            | value :: rest => add letter value (read? plain valued mixed long fuel rest)
            | [] => none
        else add letter [] (read? plain valued mixed long fuel rest)
    | '-' :: c :: more =>
      if valued.toList.contains c then
        if more.isEmpty then
          match rest with
          | value :: rest => add c value (read? plain valued mixed long fuel rest)
          | [] => none
        else add c more (read? plain valued mixed long fuel rest)
      else if plain.toList.contains c then
        add c [] (read? plain valued mixed long fuel (if more.isEmpty then rest else ('-' :: more) :: rest))
      else none
    | word =>
      if mixed then (read? plain valued mixed long fuel rest).map fun o =>
        { o with operands := word :: o.operands }
      else some ⟨[], word :: rest⟩
where
  add (letter : Char) (value : Text) (o : Option Options) : Option Options :=
    o.map fun o => { o with letters := (letter, value) :: o.letters }

def of? (plain valued : String) (long : List (String × Char)) (words : List Text) :
    Option Options :=
  read? plain valued true long (words.flatten.length + words.length + 1) words

def leading? (plain valued : String) (words : List Text) : Option Options :=
  read? plain valued false [] (words.flatten.length + words.length + 1) words

end Options

def readNamed (name : Text) : Act (Except IoFailure Text) := do
  if name = ['-'] then return (← Act.readAll 0).map Text.ofBytes
  let opened : Except IoFailure Nat ← Act.call (.openFile name.string .toRead)
  match opened with
  | .error failure => return .error failure
  | .ok descriptor =>
    let content ← Act.readAll descriptor
    let _ ← Act.call (.close descriptor)
    return content.map Text.ofBytes

/-- Reads files one after the other, or the input if none is named. The status tells whether all
could be read. -/
def readInputs (command : String) (names : List Text) : Act (List Text × Nat) := do
  let names := if names.isEmpty then [['-']] else names
  names.foldlM (fun (texts, status) name => do
    match ← readNamed name with
    | .ok text => return (texts ++ [text], status)
    | .error failure =>
      complain (command ++ ": " ++ name.string ++ ": " ++ failureText failure)
      return (texts, 1)) ([], 0)

def emitting (text : Text) (status : Nat) : Act Nat := do
  return if ← emit text then status else 1

end LanguageClient.Utility
