import LanguageClient.Posix.Shell.Sum
import LanguageClient.Posix.Utility.Basic

/-!
Formatted output: escapes of characters, and formats into which arguments are filled. A format is
used again as long as arguments are left.
-/
namespace LanguageClient.Utility

open Shell (Text Sum)

private def isOctal (c : Char) : Bool := '0' ≤ c && c ≤ '7'

private def octalOf (digits : Text) : Char :=
  Char.ofNat (digits.foldl (fun n c => n * 8 + (c.toNat - '0'.toNat)) 0 % 256)

/-- The character that stands behind a backslash, and what follows. Up to three octal digits stand
for the byte with their number; what has no meaning leaves the backslash. -/
def readEscape : Text → Char × Text
  | 'a' :: rest => ('\x07', rest)
  | 'b' :: rest => ('\x08', rest)
  | 'e' :: rest => ('\x1b', rest)
  | 'f' :: rest => ('\x0c', rest)
  | 'n' :: rest => ('\n', rest)
  | 'r' :: rest => ('\r', rest)
  | 't' :: rest => ('\t', rest)
  | 'v' :: rest => ('\x0b', rest)
  | '\\' :: rest => ('\\', rest)
  | rest =>
    let digits := (rest.take 3).takeWhile isOctal
    if digits.isEmpty then ('\\', rest) else (octalOf digits, rest.drop digits.length)

/-- A text with its escapes replaced, and whether an escape ends all output. A zero may stand before
octal digits. -/
def unescape (text : Text) : Text × Bool := go (text.length + 1) text
where
  go : Nat → Text → Text × Bool
    | 0, _ => ([], false)
    | _, [] => ([], false)
    | _, '\\' :: 'c' :: _ => ([], true)
    | fuel + 1, '\\' :: rest =>
      let rest := match rest with
        | '0' :: d :: more => if isOctal d then d :: more else rest
        | rest => rest
      let (c, after) := readEscape rest
      let (text, stops) := go fuel after
      (c :: text, stops)
    | fuel + 1, c :: rest =>
      let (text, stops) := go fuel rest
      (c :: text, stops)

structure Layout where
  leftAligned : Bool
  signed : Bool
  spaced : Bool
  alternate : Bool
  zeros : Bool
  width : Nat
  precision : Option Nat

namespace Layout

def fill (l : Layout) (text : Text) : Text :=
  let blanks := List.replicate (l.width - text.length) ' '
  if l.leftAligned then text ++ blanks else blanks ++ text

def ofText (l : Layout) (text : Text) : Text :=
  l.fill (match l.precision with
    | some n => text.take n
    | none => text)

def ofDigits (l : Layout) (mark digits : Text) : Text :=
  let digits := match l.precision with
    | some 0 => if digits = ['0'] then [] else digits
    | some n => List.replicate (n - digits.length) '0' ++ digits
    | none =>
      if l.zeros && !l.leftAligned then
        List.replicate (l.width - mark.length - digits.length) '0' ++ digits
      else digits
  l.fill (mark ++ digits)

def sign (l : Layout) (n : Int) : Text :=
  if n < 0 then ['-'] else if l.signed then ['+'] else if l.spaced then [' '] else []

end Layout

def numeric : Text → Int × Bool
  | [] => (0, true)
  | '"' :: c => ((c.head?.map fun c => (c.toNat : Int)).getD 0, true)
  | '\'' :: c => ((c.head?.map fun c => (c.toNat : Int)).getD 0, true)
  | text =>
    let text := text.dropWhile Char.isWhitespace
    let (below, digits) := match text with
      | '-' :: rest => (true, rest)
      | '+' :: rest => (false, rest)
      | rest => (false, rest)
    if !((digits.head?.map Char.isDigit).getD false) then (0, false)
    else
      let (value, rest) := Sum.readNumber digits
      let value : Int := if below then -(value : Int) else value
      (Sum.clamp value, rest.isEmpty && Sum.clamp value = value)

private def decimal? (text : Text) : Option (Int × Nat) :=
  let (below, digits) := match text with
    | '-' :: rest => (true, rest)
    | '+' :: rest => (false, rest)
    | rest => (false, rest)
  let whole := digits.takeWhile Char.isDigit
  let rest := digits.drop whole.length
  let fraction := match rest with
    | '.' :: rest => rest.takeWhile Char.isDigit
    | _ => []
  let after := match rest with
    | '.' :: rest => rest.drop fraction.length
    | rest => rest
  if (whole.isEmpty && fraction.isEmpty) || !after.isEmpty then none
  else
    let value : Int := numberOf (whole ++ fraction)
    some (if below then -value else value, fraction.length)

/-- The text of a decimal number with so many places; a half goes to the even neighbour. -/
private def fixed (places : Nat) (value : Int × Nat) : Text :=
  let numerator := value.1.natAbs * Nat.pow 10 places
  let denominator := Nat.pow 10 value.2
  let quotient := numerator / denominator
  let rest := 2 * (numerator % denominator)
  let rounded := if denominator < rest || (rest = denominator && quotient % 2 = 1) then quotient + 1
    else quotient
  let digits := digitsOf rounded
  let digits := List.replicate (places + 1 - digits.length) '0' ++ digits
  let (whole, fraction) := digits.splitAt (digits.length - places)
  if places = 0 then whole else whole ++ '.' :: fraction

structure Filled where
  text : Text
  left : List Text
  stops : Bool
  fits : Bool
  valid : Bool

namespace Filled

private def add (text : Text) (fits : Bool) (f : Filled) : Filled :=
  { f with text := text ++ f.text, fits := f.fits && fits }

end Filled

private def readLayoutNumber (cs : Text) (arguments : List Text) : Option Int × Text × List Text :=
  match cs with
  | '*' :: rest => (some (numeric (arguments.headD [])).1, rest, arguments.drop 1)
  | cs =>
    let digits := cs.takeWhile Char.isDigit
    (if digits.isEmpty then none else some (numberOf digits), cs.drop digits.length, arguments)

private def readLayout (cs : Text) (arguments : List Text) : Layout × Text × List Text :=
  let flags := cs.takeWhile fun c => ['#', '-', '+', ' ', '0'].contains c
  let (width, rest, arguments) := readLayoutNumber (cs.drop flags.length) arguments
  let (precision, rest, arguments) := match rest with
    | '.' :: rest =>
      let (precision, rest, arguments) := readLayoutNumber rest arguments
      (some (precision.getD 0), rest, arguments)
    | rest => (none, rest, arguments)
  let width := width.getD 0
  (⟨flags.contains '-' || width < 0, flags.contains '+', flags.contains ' ', flags.contains '#',
    flags.contains '0', width.natAbs, precision.bind fun p => if p < 0 then none else some p.toNat⟩,
    rest, arguments)

private def inBase (base : Nat) (n : Nat) : Text := Nat.toDigits base n

private def unsignedOf (n : Int) : Nat := (n % 0x10000000000000000).toNat

private def convert (l : Layout) (conversion : Char) (argument : Option Text) :
    Option (Text × Bool × Bool) :=
  let given := argument.getD []
  let (n, fits) := numeric given
  match conversion with
  | 's' => some (l.ofText given, false, true)
  | 'b' =>
    let (text, stops) := unescape given
    some (l.ofText text, stops, true)
  | 'c' => some (l.fill [given.headD '\x00'], false, true)
  | 'd' => some (l.ofDigits (l.sign n) (digitsOf n.natAbs), false, fits)
  | 'i' => some (l.ofDigits (l.sign n) (digitsOf n.natAbs), false, fits)
  | 'u' => some (l.ofDigits [] (digitsOf (unsignedOf n)), false, fits)
  | 'o' =>
    let digits := inBase 8 (unsignedOf n)
    some (l.ofDigits [] (if l.alternate && digits ≠ ['0'] then '0' :: digits else digits), false, fits)
  | 'x' =>
    let mark := if l.alternate && n ≠ 0 then ['0', 'x'] else []
    some (l.ofDigits mark (inBase 16 (unsignedOf n)), false, fits)
  | 'X' =>
    let mark := if l.alternate && n ≠ 0 then ['0', 'X'] else []
    some (l.ofDigits mark ((inBase 16 (unsignedOf n)).map Char.toUpper), false, fits)
  | 'f' =>
    let value := decimal? given
    let sign := l.sign ((value.map Prod.fst).getD 0)
    let text := fixed (l.precision.getD 6) (value.getD (0, 0))
    some ({ l with precision := none }.ofDigits sign text, false, value.isSome || given.isEmpty)
  | _ => none

def fillOnce : (fuel : Nat) → Text → List Text → Filled
  | 0, _, arguments => ⟨[], arguments, false, true, true⟩
  | _, [], arguments => ⟨[], arguments, false, true, true⟩
  | fuel + 1, '\\' :: rest, arguments =>
    let (c, rest) := readEscape rest
    (fillOnce fuel rest arguments).add [c] true
  | fuel + 1, '%' :: '%' :: rest, arguments => (fillOnce fuel rest arguments).add ['%'] true
  | fuel + 1, '%' :: rest, arguments =>
    let (layout, rest, arguments) := readLayout rest arguments
    match rest with
    | [] => ⟨[], arguments, false, true, false⟩
    | conversion :: rest =>
      match convert layout conversion arguments.head? with
      | none => ⟨[], arguments, false, true, false⟩
      | some (text, true, fits) => ⟨text, arguments.drop 1, true, fits, true⟩
      | some (text, false, fits) => (fillOnce fuel rest (arguments.drop 1)).add text fits
  | fuel + 1, c :: rest, arguments => (fillOnce fuel rest arguments).add [c] true

def formatted (format : Text) (arguments : List Text) : Text × Nat :=
  go (arguments.length + 1) arguments
where
  go : Nat → List Text → Text × Nat
    | 0, _ => ([], 0)
    | fuel + 1, arguments =>
      let f := fillOnce (format.length + 1) format arguments
      let status := if f.fits then 0 else 1
      if !f.valid then (f.text, 2)
      else if f.stops || f.left.isEmpty || f.left.length = arguments.length then (f.text, status)
      else
        let (text, more) := go fuel f.left
        (f.text ++ text, max status more)

def printf (arguments : List Text) : Act Nat := do
  let arguments := if arguments.head? = some ['-', '-'] then arguments.drop 1 else arguments
  match arguments with
  | [] => return 2
  | format :: arguments =>
    if format.head? = some '-' && format.length > 1 then return 2
    else
      let (text, status) := formatted format arguments
      emitting text status

def echo (arguments : List Text) : Act Nat := do
  let (arguments, ending) := match arguments with
    | ['-', 'n'] :: rest => (rest, [])
    | arguments => (arguments, ['\n'])
  let (text, stops) := unescape ([' '].intercalate arguments)
  emitting (if stops then text else text ++ ending) 0

def plainEcho (arguments : List Text) : Act Nat :=
  let isOption (word : Text) : Bool :=
    match word with
    | '-' :: c :: more => (c :: more).all fun c => ['n', 'e', 'E'].contains c
    | _ => false
  let options := (arguments.takeWhile isOption).flatMap (·.drop 1)
  let text := [' '].intercalate (arguments.dropWhile isOption)
  let escapes := (options.filter (· ≠ 'n')).getLast? = some 'e'
  let (text, stops) := if escapes then unescape text else (text, false)
  emitting (if stops || options.contains 'n' then text else text ++ ['\n']) 0

end LanguageClient.Utility
