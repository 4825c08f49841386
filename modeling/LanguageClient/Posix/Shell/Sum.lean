import LanguageClient.Posix.Shell.Reader
import LanguageClient.Table

/-!
Arithmetic of scripts, in whole numbers of 64 bits. An expression is read into a tree, in which the
operators bind as in C; variables are looked up and set while it is evaluated.
-/
namespace LanguageClient.Shell

inductive SumOperator where
  | times | over | modulo | plus | minus | shiftLeft | shiftRight
  | less | atMost | greater | atLeast | equal | unequal | bitAnd | bitXor | bitOr
  deriving DecidableEq, Repr

inductive Sum where
  | number (value : Int)
  | variable (name : String)
  | negative (operand : Sum)
  | complement (operand : Sum)
  | isZero (operand : Sum)
  | binary (operator : SumOperator) (left right : Sum)
  | both (left right : Sum)
  | either (left right : Sum)
  | conditional (condition whenTrue whenFalse : Sum)
  | assign (name : String) (operator : Option SumOperator) (value : Sum)
  deriving Repr

namespace Sum

def wrap (n : Int) : Int := Int.bmod n 0x10000000000000000

def readDigits (base : Nat) : (value : Nat) → Text → Nat × Text
  | value, [] => (value, [])
  | value, c :: rest =>
    match digitOf c with
    | some digit => if digit < base then readDigits base (value * base + digit) rest else (value, c :: rest)
    | none => (value, c :: rest)
where
  digitOf (c : Char) : Option Nat :=
    if c.isDigit then some (c.toNat - '0'.toNat)
    else if 'a' ≤ c && c ≤ 'f' then some (c.toNat - 'a'.toNat + 10)
    else if 'A' ≤ c && c ≤ 'F' then some (c.toNat - 'A'.toNat + 10)
    else none

/-- Reads a number without a sign: a zero and an x begin one to the base 16, and another zero one to
the base 8. -/
def readNumber : Text → Nat × Text
  | '0' :: 'x' :: rest => readDigits 16 0 rest
  | '0' :: 'X' :: rest => readDigits 16 0 rest
  | '0' :: rest => readDigits 8 0 rest
  | rest => readDigits 10 0 rest

def greatest : Int := 0x7FFFFFFFFFFFFFFF

def clamp (n : Int) : Int := max (-0x8000000000000000) (min greatest n)

private def isSpace (c : Char) : Bool := c.isWhitespace || c.toNat = 11 || c.toNat = 12

def ofText? (text : Text) : Option Int :=
  let text := text.dropWhile isSpace
  if text.isEmpty then some 0
  else
    let (below, digits) := match text with
      | '-' :: rest => (true, rest)
      | '+' :: rest => (false, rest)
      | rest => (false, rest)
    if !((digits.head?.map Char.isDigit).getD false) then none
    else
      let (value, rest) := readNumber digits
      if (rest.dropWhile isSpace).isEmpty then
        some (clamp (if below then -(value : Int) else value))
      else none

def operator? : Text → Option (SumOperator × Nat × Text)
  | '<' :: '<' :: '=' :: _ => none
  | '>' :: '>' :: '=' :: _ => none
  | '<' :: '<' :: rest => some (.shiftLeft, 8, rest)
  | '>' :: '>' :: rest => some (.shiftRight, 8, rest)
  | '<' :: '=' :: rest => some (.atMost, 7, rest)
  | '>' :: '=' :: rest => some (.atLeast, 7, rest)
  | '<' :: rest => some (.less, 7, rest)
  | '>' :: rest => some (.greater, 7, rest)
  | '=' :: '=' :: rest => some (.equal, 6, rest)
  | '!' :: '=' :: rest => some (.unequal, 6, rest)
  | '&' :: '&' :: _ => none
  | '|' :: '|' :: _ => none
  | c :: '=' :: rest => if ['*', '/', '%', '+', '-', '&', '^', '|'].contains c then none else single (c :: '=' :: rest)
  | cs => single cs
where
  single : Text → Option (SumOperator × Nat × Text)
    | '*' :: rest => some (.times, 10, rest)
    | '/' :: rest => some (.over, 10, rest)
    | '%' :: rest => some (.modulo, 10, rest)
    | '+' :: rest => some (.plus, 9, rest)
    | '-' :: rest => some (.minus, 9, rest)
    | '&' :: rest => some (.bitAnd, 5, rest)
    | '^' :: rest => some (.bitXor, 4, rest)
    | '|' :: rest => some (.bitOr, 3, rest)
    | _ => none

def assignment? : Text → Option (Option SumOperator × Text)
  | '=' :: '=' :: _ => none
  | '=' :: rest => some (none, rest)
  | '*' :: '=' :: rest => some (some .times, rest)
  | '/' :: '=' :: rest => some (some .over, rest)
  | '%' :: '=' :: rest => some (some .modulo, rest)
  | '+' :: '=' :: rest => some (some .plus, rest)
  | '-' :: '=' :: rest => some (some .minus, rest)
  | '<' :: '<' :: '=' :: rest => some (some .shiftLeft, rest)
  | '>' :: '>' :: '=' :: rest => some (some .shiftRight, rest)
  | '&' :: '=' :: rest => some (some .bitAnd, rest)
  | '^' :: '=' :: rest => some (some .bitXor, rest)
  | '|' :: '=' :: rest => some (some .bitOr, rest)
  | _ => none

private def skipSpace (cs : Text) : Text := cs.dropWhile isSpace

mutual

def read : (fuel : Nat) → Text → Option (Sum × Text)
  | 0, _ => none
  | fuel + 1, cs =>
    let cs := skipSpace cs
    let name := if (cs.head?.map isNameStart).getD false then cs.takeWhile isNameChar else []
    match if name.isEmpty then none else assignment? (skipSpace (cs.drop name.length)) with
    | some (operator, rest) => do
      let (value, rest) ← read fuel rest
      pure (.assign (.ofList name) operator value, rest)
    | none => do
      let (condition, rest) ← readEither fuel cs
      match skipSpace rest with
      | '?' :: rest => do
        let (whenTrue, rest) ← read fuel rest
        match skipSpace rest with
        | ':' :: rest => do
          let (whenFalse, rest) ← read fuel rest
          pure (.conditional condition whenTrue whenFalse, rest)
        | _ => none
      | rest => pure (condition, rest)

def readEither : (fuel : Nat) → Text → Option (Sum × Text)
  | 0, _ => none
  | fuel + 1, cs => do
    let (left, rest) ← readBoth fuel cs
    match skipSpace rest with
    | '|' :: '|' :: rest => do
      let (right, rest) ← readEither fuel rest
      pure (.either left right, rest)
    | rest => pure (left, rest)

def readBoth : (fuel : Nat) → Text → Option (Sum × Text)
  | 0, _ => none
  | fuel + 1, cs => do
    let (operand, rest) ← readUnary fuel cs
    let (left, rest) ← readMore fuel 0 operand rest
    match skipSpace rest with
    | '&' :: '&' :: rest => do
      let (right, rest) ← readBoth fuel rest
      pure (.both left right, rest)
    | rest => pure (left, rest)

def readMore : (fuel : Nat) → (least : Nat) → Sum → Text → Option (Sum × Text)
  | 0, _, _, _ => none
  | fuel + 1, least, left, cs =>
    match operator? (skipSpace cs) with
    | none => some (left, cs)
    | some (operator, strength, rest) =>
      if strength < least then some (left, cs)
      else do
        let (operand, rest) ← readUnary fuel rest
        let (right, rest) ← readMore fuel (strength + 1) operand rest
        readMore fuel least (.binary operator left right) rest

def readUnary : (fuel : Nat) → Text → Option (Sum × Text)
  | 0, _ => none
  | fuel + 1, cs =>
    match skipSpace cs with
    | '-' :: rest => (readUnary fuel rest).map fun (operand, rest) => (.negative operand, rest)
    | '+' :: rest => readUnary fuel rest
    | '!' :: rest => (readUnary fuel rest).map fun (operand, rest) => (.isZero operand, rest)
    | '~' :: rest => (readUnary fuel rest).map fun (operand, rest) => (.complement operand, rest)
    | '(' :: rest => do
      let (inner, rest) ← read fuel rest
      match skipSpace rest with
      | ')' :: rest => pure (inner, rest)
      | _ => none
    | c :: rest =>
      if c.isDigit then
        let (value, after) := readNumber (c :: rest)
        if (after.head?.map isNameChar).getD false then none
        else some (.number (clamp value), after)
      else if isNameStart c then
        some (.variable (.ofList (c :: rest.takeWhile isNameChar)), rest.dropWhile isNameChar)
      else none
    | [] => none

end

def read? (text : Text) : Option Sum := do
  let (sum, rest) ← read (8 * text.length + 8) text
  if (skipSpace rest).isEmpty then pure sum else none

private def truth (b : Bool) : Int := if b then 1 else 0

private def bits (n : Int) : Nat := (n % 0x10000000000000000).toNat

def apply (operator : SumOperator) (a b : Int) : Option Int :=
  match operator with
  | .times => some (wrap (a * b))
  | .over => if b = 0 then none else some (wrap (a.tdiv b))
  | .modulo => if b = 0 then none else some (wrap (a.tmod b))
  | .plus => some (wrap (a + b))
  | .minus => some (wrap (a - b))
  | .shiftLeft => some (wrap (a * Nat.pow 2 (bits b % 64)))
  | .shiftRight => some (a >>> (bits b % 64))
  | .less => some (truth (a < b))
  | .atMost => some (truth (a ≤ b))
  | .greater => some (truth (b < a))
  | .atLeast => some (truth (b ≤ a))
  | .equal => some (truth (a = b))
  | .unequal => some (truth (a ≠ b))
  | .bitAnd => some (wrap (bits a &&& bits b))
  | .bitXor => some (wrap (bits a ^^^ bits b))
  | .bitOr => some (wrap (bits a ||| bits b))

/-- The value of an expression and the variables that it sets, with those set before. Nothing comes
of a variable that is no number or of a division by zero. -/
def evaluate (lookup : String → Text) :
    Sum → (assigned : Table Text) → Option (Int × Table Text)
  | .number value, assigned => some (value, assigned)
  | .variable name, assigned => do
    pure (← ofText? ((assigned.get? name).getD (lookup name)), assigned)
  | .negative operand, assigned => do
    let (a, assigned) ← evaluate lookup operand assigned
    pure (wrap (-a), assigned)
  | .complement operand, assigned => do
    let (a, assigned) ← evaluate lookup operand assigned
    pure (-a - 1, assigned)
  | .isZero operand, assigned => do
    let (a, assigned) ← evaluate lookup operand assigned
    pure (truth (a = 0), assigned)
  | .binary operator left right, assigned => do
    let (a, assigned) ← evaluate lookup left assigned
    let (b, assigned) ← evaluate lookup right assigned
    pure (← apply operator a b, assigned)
  | .both left right, assigned => do
    let (a, assigned) ← evaluate lookup left assigned
    if a = 0 then pure (0, assigned)
    else
      let (b, assigned) ← evaluate lookup right assigned
      pure (truth (b ≠ 0), assigned)
  | .either left right, assigned => do
    let (a, assigned) ← evaluate lookup left assigned
    if a ≠ 0 then pure (1, assigned)
    else
      let (b, assigned) ← evaluate lookup right assigned
      pure (truth (b ≠ 0), assigned)
  | .conditional condition whenTrue whenFalse, assigned => do
    let (a, assigned) ← evaluate lookup condition assigned
    if a ≠ 0 then evaluate lookup whenTrue assigned else evaluate lookup whenFalse assigned
  | .assign name operator value, assigned => do
    let (b, assigned) ← evaluate lookup value assigned
    let result ← match operator with
      | none => pure b
      | some operator => do
        apply operator (← ofText? ((assigned.get? name).getD (lookup name))) b
    pure (result, assigned.insert name (toString result).toList)

end Sum

end LanguageClient.Shell
