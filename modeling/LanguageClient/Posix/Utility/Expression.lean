import LanguageClient.Posix.Utility.Condition
import LanguageClient.Posix.Utility.Regex

/-!
Expressions that are given word by word: arithmetic, comparisons and matches of texts.
-/
namespace LanguageClient.Utility

open Shell (Text)

namespace Expression

private def isNothing (value : Text) : Bool := value.isEmpty || integer? value = some 0

private def ofTruth (b : Bool) : Text := if b then ['1'] else ['0']

private def compare (operator : String) (a b : Text) : Text :=
  let (less, equal) := match integer? a, integer? b with
    | some a, some b => (decide (a < b), decide (a = b))
    | _, _ => (Condition.isBefore a b, decide (a = b))
  ofTruth (match operator with
    | "<" => less
    | "<=" => less || equal
    | "=" => equal
    | "==" => equal
    | "!=" => !equal
    | ">=" => !less
    | _ => !less && !equal)

private def calculate (operator : String) (a b : Text) : Option Text := do
  let a ← integer? a
  let b ← integer? b
  match operator with
  | "+" => pure (toString (a + b)).toList
  | "-" => pure (toString (a - b)).toList
  | "*" => pure (toString (a * b)).toList
  | "/" => if b = 0 then none else pure (toString (a.tdiv b)).toList
  | _ => if b = 0 then none else pure (toString (a.tmod b)).toList

private def matched (text pattern : Text) : Option Text := do
  let regex ← Regex.read? false false pattern
  match regex.matchAt none text with
  | none => pure (if hasGroup regex then [] else ['0'])
  | some (_, groups) =>
    if hasGroup regex then pure ((groups.lookup 1).getD [])
    else pure (digitsOf ((groups.lookup 0).getD []).length)
where
  hasGroup : Regex → Bool
    | .group _ _ => true
    | .sequence a b => hasGroup a || hasGroup b
    | .choice a b => hasGroup a || hasGroup b
    | .repeated a _ _ => hasGroup a
    | _ => false

def operators : List (List String) :=
  [["|"], ["&"], ["<", "<=", "=", "==", "!=", ">=", ">"], ["+", "-"], ["*", "/", "%"], [":"]]

private def apply (operator : String) (a b : Text) : Option Text :=
  match operator with
  | "|" => some (if !isNothing a then a else if isNothing b then ['0'] else b)
  | "&" => some (if isNothing a || isNothing b then ['0'] else a)
  | ":" => matched a b
  | operator =>
    if ["<", "<=", "=", "==", "!=", ">=", ">"].contains operator then some (compare operator a b)
    else calculate operator a b

mutual

def evaluate : (fuel : Nat) → (strength : Nat) → List Text → Option (Text × List Text)
  | 0, _, _ => none
  | fuel + 1, strength, words =>
    match operators[strength]? with
    | none => operand fuel words
    | some here => do
      let (value, rest) ← evaluate fuel (strength + 1) words
      more fuel strength here value rest

def more : (fuel : Nat) → (strength : Nat) → List String → Text → List Text →
    Option (Text × List Text)
  | 0, _, _, _, _ => none
  | fuel + 1, strength, here, value, words =>
    match words with
    | [] => some (value, [])
    | operator :: rest =>
      if here.contains (String.ofList operator) then do
        let (right, rest) ← evaluate fuel (strength + 1) rest
        more fuel strength here (← apply (String.ofList operator) value right) rest
      else some (value, words)

def operand : (fuel : Nat) → List Text → Option (Text × List Text)
  | 0, _ => none
  | fuel + 1, words =>
    match words with
    | [] => none
    | ['('] :: rest => do
      let (value, rest) ← evaluate fuel 0 rest
      match rest with
      | [')'] :: rest => pure (value, rest)
      | _ => none
    | [')'] :: _ => none
    | word :: rest =>
      match String.ofList word, rest with
      | "length", text :: rest => some (digitsOf text.length, rest)
      | "match", text :: pattern :: rest => do pure (← matched text pattern, rest)
      | "index", text :: set :: rest =>
        some (digitsOf ((text.findIdx? set.contains).map (· + 1) |>.getD 0), rest)
      | "substr", text :: start :: count :: rest =>
        match integer? start, integer? count with
        | some start, some count =>
          if start < 1 || count < 1 then some ([], rest)
          else some ((text.drop (start.toNat - 1)).take count.toNat, rest)
        | _, _ => some ([], rest)
      | "+", text :: rest => some (text, rest)
      | _, rest => some (word, rest)

end

end Expression

def expr (arguments : List Text) : Act Nat := do
  let arguments := if arguments.head? = some ['-', '-'] then arguments.drop 1 else arguments
  match Expression.evaluate (20 * arguments.length + 20) 0 arguments with
  | some (value, []) =>
    emitting (value ++ ['\n']) (if value.isEmpty || integer? value = some 0 then 1 else 0)
  | _ => return 2

end LanguageClient.Utility
