import LanguageClient.Posix.Utility.Basic

/-!
Conditions on texts, numbers and files. How words are read as a condition depends on their number:
of three words the one in the middle is looked at first, so that a word that looks like an operator
can be compared.
-/
namespace LanguageClient.Utility

open Shell (Text)

inductive Condition where
  | never
  | given (text : Text)
  | unary (operator : String) (operand : Text)
  | binary (operator : String) (left right : Text)
  | negated (condition : Condition)
  | both (left right : Condition)
  | either (left right : Condition)
  deriving Repr

namespace Condition

def unaryOperators : List String :=
  ["-r", "-w", "-x", "-e", "-f", "-d", "-c", "-b", "-p", "-h", "-L", "-u", "-g", "-k", "-s", "-t",
   "-z", "-n", "-O", "-G", "-S"]

def binaryOperators : List String :=
  ["=", "!=", "<", ">", "-eq", "-ne", "-gt", "-ge", "-lt", "-le", "-nt", "-ot", "-ef"]

private def isUnary (word : Text) : Bool := unaryOperators.contains (String.ofList word)

private def isBinary (word : Text) : Bool := binaryOperators.contains (String.ofList word)

private def standsForItself : List Text → Bool
  | [] => true
  | [_] => false
  | next :: _ :: _ => isBinary next

mutual

def readEither : (fuel : Nat) → List Text → Option (Condition × List Text)
  | 0, _ => none
  | fuel + 1, words => do
    let (left, rest) ← readBoth fuel words
    match rest with
    | ['-', 'o'] :: rest =>
      let (right, rest) ← readEither fuel rest
      pure (.either left right, rest)
    | rest => pure (left, rest)

def readBoth : (fuel : Nat) → List Text → Option (Condition × List Text)
  | 0, _ => none
  | fuel + 1, words => do
    let (left, rest) ← readNegated fuel words
    match rest with
    | ['-', 'a'] :: rest =>
      let (right, rest) ← readBoth fuel rest
      pure (.both left right, rest)
    | rest => pure (left, rest)

def readNegated : (fuel : Nat) → List Text → Option (Condition × List Text)
  | 0, _ => none
  | fuel + 1, words =>
    match words with
    | ['!'] :: rest =>
      if rest.isEmpty then some (.given ['!'], [])
      else (readNegated fuel rest).map fun (c, rest) => (.negated c, rest)
    | words => readPrimary fuel words

def readPrimary : (fuel : Nat) → List Text → Option (Condition × List Text)
  | 0, _ => none
  | fuel + 1, words =>
    match words with
    | [] => some (.never, [])
    | ['('] :: rest =>
      if rest.isEmpty then some (.given ['('], [])
      else do
        let (c, rest) ← readEither fuel rest
        match rest with
        | [')'] :: rest => pure (c, rest)
        | _ => none
    | word :: rest =>
      if isUnary word && !standsForItself rest then
        match rest with
        | operand :: rest => some (.unary (String.ofList word) operand, rest)
        | [] => some (.given word, [])
      else
        match rest with
        | operator :: rest =>
          if isBinary operator then
            match rest with
            | right :: rest => some (.binary (String.ofList operator) word right, rest)
            | [] => none
          else some (.given word, operator :: rest)
        | [] => some (.given word, [])

end

def read? (words : List Text) : Option Condition :=
  let whole (words : List Text) : Option Condition := do
    let (c, rest) ← readEither (8 * words.length + 8) words
    if rest.isEmpty then pure c else none
  match words with
  | [] => some .never
  | [a] => some (.given a)
  | [a, operator, b] =>
    if isBinary operator then some (.binary (String.ofList operator) a b)
    else if a = ['!'] then (whole [operator, b]).map .negated
    else if a = ['('] && b = [')'] then some (.given operator)
    else whole words
  | [a, b, c, d] =>
    if a = ['('] && d = [')'] then whole [b, c]
    else if a = ['!'] then (read3 b c d).map .negated
    else whole words
  | words => whole words
where
  read3 (a operator b : Text) : Option Condition :=
    if isBinary operator then some (.binary (String.ofList operator) a b)
    else do
      let (c, rest) ← readEither 40 [a, operator, b]
      if rest.isEmpty then pure c else none

private def spaced (text : Text) : Text :=
  ((text.dropWhile Char.isWhitespace).reverse.dropWhile Char.isWhitespace).reverse

def isBefore : Text → Text → Bool
  | _, [] => false
  | [], _ :: _ => true
  | a :: as, b :: bs => a < b || (a = b && isBefore as bs)

private def isFilled : FileEntry → Bool
  | .file content _ => !content.isEmpty
  | .device _ => false
  | _ => true

def holdsOf (files : FileTree) (workingDirectory : String) (operator : String) (operand : Text) :
    Option Bool :=
  let entry := files.look? workingDirectory operand.string
  match operator with
  | "-z" => some operand.isEmpty
  | "-n" => some !operand.isEmpty
  | "-t" => (integer? (spaced operand)).map fun _ => false
  | "-e" => some entry.isSome
  | "-r" => some entry.isSome
  | "-w" => some entry.isSome
  | "-O" => some entry.isSome
  | "-G" => some entry.isSome
  | "-d" => some (entry = some .directory)
  | "-s" => some ((entry.map isFilled).getD false)
  | "-x" => some ((entry.map fun e => e.isExecutable || e = .directory).getD false)
  | "-f" => some (match entry with
      | some (.file _ _) => true
      | some (.program _) => true
      | _ => false)
  | "-c" => some (match entry with
      | some (.device _) => true
      | _ => false)
  | "-h" => some (isLink operand)
  | "-L" => some (isLink operand)
  | _ => some false
where
  isLink (operand : Text) : Bool :=
    match files.locate false workingDirectory operand.string with
    | .ok ⟨_, some (.link _)⟩ => true
    | _ => false

def holdsBetween (files : FileTree) (workingDirectory : String) (operator : String)
    (left right : Text) : Option Bool :=
  let compared (f : Int → Int → Bool) : Option Bool := do
    pure (f (← integer? (spaced left)) (← integer? (spaced right)))
  match operator with
  | "=" => some (left = right)
  | "!=" => some (left ≠ right)
  | "<" => some (isBefore left right)
  | ">" => some (isBefore right left)
  | "-eq" => compared fun a b => a = b
  | "-ne" => compared fun a b => a ≠ b
  | "-lt" => compared fun a b => a < b
  | "-le" => compared fun a b => a ≤ b
  | "-gt" => compared fun a b => b < a
  | "-ge" => compared fun a b => b ≤ a
  | "-ef" => some (match files.locate true workingDirectory left.string,
      files.locate true workingDirectory right.string with
      | .ok ⟨a, some _⟩, .ok ⟨b, some _⟩ => a = b
      | _, _ => false)
  | _ => some false

def holds (files : FileTree) (workingDirectory : String) : Condition → Option Bool
  | .never => some false
  | .given text => some !text.isEmpty
  | .unary operator operand => holdsOf files workingDirectory operator operand
  | .binary operator left right => holdsBetween files workingDirectory operator left right
  | .negated c => (holds files workingDirectory c).map (!·)
  | .both a b => do pure ((← holds files workingDirectory a) && (← holds files workingDirectory b))
  | .either a b => do pure ((← holds files workingDirectory a) || (← holds files workingDirectory b))

end Condition

def test (arguments : List Text) : Act Nat := do
  let (files, directory) ← Act.call .look
  match (Condition.read? arguments).bind (Condition.holds files directory) with
  | some true => return 0
  | some false => return 1
  | none => return 2

def bracket (arguments : List Text) : Act Nat :=
  if arguments.getLast? = some [']'] then test arguments.dropLast else return 2

end LanguageClient.Utility
