/-!
Unsigned decimal numbers within a bound, as they stand in headers, locations and arguments: a run
of ASCII digits that an optional plus sign may precede. The first fault from the left counts, so a
number that is already too large is not searched for stray characters.
-/
namespace LanguageClient.Text

inductive NumberFault where
  | empty
  | invalidDigit
  | tooLarge
  deriving DecidableEq, Repr

def NumberFault.message : NumberFault → String
  | .empty => "cannot parse integer from empty string"
  | .invalidDigit => "invalid digit found in string"
  | .tooLarge => "number too large to fit in target type"

def isDigit (c : Char) : Bool := '0' ≤ c && c ≤ '9'

def digitValue (c : Char) : Nat := c.toNat - '0'.toNat

def readDigits (limit : Nat) : (value : Nat) → List Char → Except NumberFault Nat
  | value, [] => .ok value
  | value, c :: rest =>
    if isDigit c then
      if value * 10 + digitValue c ≤ limit then readDigits limit (value * 10 + digitValue c) rest
      else .error .tooLarge
    else .error .invalidDigit

def readUnsigned (limit : Nat) : List Char → Except NumberFault Nat
  | [] => .error .empty
  | '+' :: [] => .error .invalidDigit
  | '+' :: rest => readDigits limit 0 rest
  | digits => readDigits limit 0 digits

end LanguageClient.Text
