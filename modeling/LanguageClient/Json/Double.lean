/-!
Double-precision numbers by their bits, and their shortest decimal text. The digits are the fewest
that read back as the same number, the nearest of those, found in exact arithmetic on naturals.
Positional notation is used where the decimal point falls within sixteen digits or at most four
zeros after the point; other numbers carry an exponent.
-/
namespace LanguageClient.Json

structure Double where
  bits : UInt64
  deriving DecidableEq, Repr

namespace Double

def ofFloat (x : Float) : Double := ⟨x.toBits⟩

def toFloat (x : Double) : Float := Float.ofBits x.bits

def isNegative (x : Double) : Bool := x.bits >>> 63 = 1

def exponentField (x : Double) : Nat := ((x.bits >>> 52) &&& 0x7FF).toNat

def fractionField (x : Double) : Nat := (x.bits &&& 0xFFFFFFFFFFFFF).toNat

def isFinite (x : Double) : Bool := x.exponentField ≠ 0x7FF

/-- The absolute value of a finite number is `significand · 2 ^ (scale - 1074)`. -/
def significand (x : Double) : Nat :=
  if x.exponentField = 0 then x.fractionField else x.fractionField + 0x10000000000000

def scale (x : Double) : Nat := x.exponentField - 1

/-- The end points of the interval that rounds to the number, and the number itself, all three
over the denominator `2 ^ 1076`. The lower gap is half as wide at a power of two. -/
def neighbourhood (x : Double) : Nat × Nat × Nat :=
  let unit := Nat.pow 2 x.scale
  let value := 4 * x.significand * unit
  let below := if x.fractionField = 0 && x.exponentField > 1 then unit else 2 * unit
  (value - below, value, value + 2 * unit)

/-- The denominator of `neighbourhood`. It is too large to be computed where terms are compared. -/
@[irreducible] def denominator : Nat := Nat.pow 2 1076

def leadingPower (value : Nat) : Int :=
  if denominator ≤ value then (Nat.toDigits 10 (value / denominator)).length - 1
  else
    match (List.range 340).find? fun j => denominator ≤ value * Nat.pow 10 (j + 1) with
    | some j => -(j + 1 : Int)
    | none => -340

/-- `value / denominator` in units of `10 ^ power`, as a fraction. -/
def inUnits (value : Nat) (power : Int) : Nat × Nat :=
  if 0 ≤ power then (value, denominator * Nat.pow 10 power.toNat)
  else (value * Nat.pow 10 (-power).toNat, denominator)

/-- The multiple `d · 10 ^ power` rounds to the number. -/
def fits (x : Double) (power : Int) (d : Nat) : Bool :=
  let (low, value, high) := x.neighbourhood
  let (lowNum, _) := inUnits low power
  let (_, den) := inUnits value power
  let (highNum, _) := inUnits high power
  let closed := x.significand % 2 = 0
  if closed then lowNum ≤ d * den && d * den ≤ highNum
  else lowNum < d * den && d * den < highNum

/-- The multiple of `10 ^ power` nearest to the number, among its two neighbours on that grid
that round to the number; of two equally near the even one. -/
def nearest? (x : Double) (power : Int) : Option Nat :=
  let (_, value, _) := x.neighbourhood
  let (num, den) := inUnits value power
  let down := num / den
  let up := down + 1
  let twice := 2 * (num % den)
  let upIsNearer := twice > den || (twice = den && down % 2 = 1)
  if x.fits power down && x.fits power up then some (if upIsNearer then up else down)
  else if x.fits power down then some down
  else if x.fits power up then some up
  else none

def digitsAt? (x : Double) (power : Int) : Option (Nat × Int) :=
  (x.nearest? power).bind fun d => if d = 0 then none else some (d, power)

/-- The digits and the power of ten of the last digit: the fewest digits that read back. -/
def shortest (x : Double) : Nat × Int :=
  let (_, value, _) := x.neighbourhood
  let leading := leadingPower value
  ((List.range 17).findSome? fun n => x.digitsAt? (leading - Int.ofNat n)).getD (value / denominator, 0)

def withoutZeros : Nat → Nat × Int → Nat × Int
  | 0, d => d
  | fuel + 1, (d, power) =>
    if d % 10 = 0 && d ≠ 0 then withoutZeros fuel (d / 10, power + 1) else (d, power)

def exponentText (exponent : Int) : List Char :=
  let digits := Nat.toDigits 10 exponent.natAbs
  (if exponent < 0 then '-' else '+') :: (List.replicate (2 - digits.length) '0' ++ digits)

def layout (digits : List Char) (power : Int) : List Char :=
  let count : Int := digits.length
  let point := count + power
  if 0 ≤ power && point ≤ 16 then
    digits ++ List.replicate power.toNat '0' ++ ['.', '0']
  else if 0 < point && point ≤ 16 then
    digits.take point.toNat ++ ['.'] ++ digits.drop point.toNat
  else if -5 < point && point ≤ 0 then
    ['0', '.'] ++ List.replicate (-point).toNat '0' ++ digits
  else
    let exponent := exponentText (point - 1)
    match digits with
    | [d] => d :: 'e' :: exponent
    | d :: rest => d :: '.' :: rest ++ 'e' :: exponent
    | [] => []

def text (x : Double) : String :=
  let sign := if x.isNegative then ['-'] else []
  let body :=
    if x.significand = 0 then ['0', '.', '0']
    else
      let (d, power) := withoutZeros 20 x.shortest
      layout (Nat.toDigits 10 d) power
  String.ofList (sign ++ body)

end Double

end LanguageClient.Json
