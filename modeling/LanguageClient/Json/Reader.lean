import LanguageClient.Json.Basic

/-!
Reading JSON from text. Brackets nest to a bounded depth, of two members with one key the last
counts, and an escaped surrogate must be half of a pair. A number without point and exponent is a
whole number where 64 bits reach; every other number is a double, computed from its first digits
and one power of ten, so the last bit may differ from the nearest double.
-/
namespace LanguageClient.Json

def isSpace (c : Char) : Bool := c = ' ' || c = '\n' || c = '\t' || c = '\r'

def skipSpace (cs : List Char) : List Char := cs.dropWhile isSpace

def isAsciiDigit (c : Char) : Bool := '0' ≤ c && c ≤ '9'

def digitOf (c : Char) : Nat := c.toNat - '0'.toNat

/-- A sign, the leading digits as one natural number below `2 ^ 64`, and a power of ten. -/
structure Scientific where
  negative : Bool
  digits : Nat
  power : Int

private def divideTens : (fuel : Nat) → Float → (power : Nat) → Float
  | 0, x, _ => x
  | fuel + 1, x, power =>
    if power ≤ 308 then x / Float.ofScientific 1 false power
    else if x == 0.0 then x
    else divideTens fuel (x / Float.ofScientific 1 false 308) (power - 308)

def Scientific.toDouble? (n : Scientific) : Option Double :=
  let start := (UInt64.ofNat n.digits).toFloat
  let signed (x : Float) : Double := .ofFloat (if n.negative then -x else x)
  if 0 ≤ n.power then
    if n.power ≤ 308 then
      let x := start * Float.ofScientific 1 false n.power.toNat
      if x.isInf then none else some (signed x)
    else if n.digits = 0 then some (signed start)
    else none
  else some (signed (divideTens ((-n.power).toNat / 308 + 1) start (-n.power).toNat))

/-- Reads digits into `value` while 64 bits reach; `count` counts them. -/
def takeDigits : (value count : Nat) → List Char → Nat × Nat × List Char
  | value, count, [] => (value, count, [])
  | value, count, c :: rest =>
    if isAsciiDigit c && value * 10 + digitOf c < 0x10000000000000000 then
      takeDigits (value * 10 + digitOf c) (count + 1) rest
    else (value, count, c :: rest)

def skipDigits (cs : List Char) : Nat × List Char :=
  ((cs.takeWhile isAsciiDigit).length, cs.dropWhile isAsciiDigit)

private def ofDigits (digits : List Char) : Nat :=
  digits.foldl (fun value c => value * 10 + digitOf c) 0

private def readExponent? (n : Scientific) : List Char → Option (Number × List Char)
  | cs@(e :: rest) =>
    if e = 'e' || e = 'E' then
      let (negative, digits) := match rest with
        | '+' :: r => (false, r)
        | '-' :: r => (true, r)
        | r => (false, r)
      let exponent := digits.takeWhile isAsciiDigit
      let after := digits.dropWhile isAsciiDigit
      if exponent.isEmpty then none
      else
        let size := ofDigits exponent
        if size ≥ 0x80000000 then
          if n.digits ≠ 0 && !negative then none
          else some (.double (.ofFloat (if n.negative then -0.0 else 0.0)), after)
        else
          let power := if negative then n.power - size else n.power + size
          ({ n with power := power } : Scientific).toDouble?.map fun x => (.double x, after)
    else n.toDouble?.map fun x => (.double x, cs)
  | [] => n.toDouble?.map fun x => (.double x, [])

private def readFraction? (n : Scientific) (cs : List Char) : Option (Number × List Char) :=
  let (digits, count, rest) := takeDigits n.digits 0 cs
  let overflowed := match rest with
    | c :: _ => isAsciiDigit c
    | [] => false
  if count = 0 && !overflowed then none
  else readExponent? { n with digits := digits, power := n.power - count } (skipDigits rest).2

def readNumberTail? (negative : Bool) (digits : Nat) : List Char → Option (Number × List Char)
  | '.' :: rest => readFraction? ⟨negative, digits, 0⟩ rest
  | cs@(c :: _) =>
    if c = 'e' || c = 'E' then readExponent? ⟨negative, digits, 0⟩ cs
    else (wholeOrDouble negative digits).map fun n => (n, cs)
  | [] => (wholeOrDouble negative digits).map fun n => (n, [])
where
  /-- A negative number is whole when it is not zero and 64 signed bits reach. -/
  wholeOrDouble (negative : Bool) (digits : Nat) : Option Number :=
    if negative then
      if digits ≠ 0 && digits ≤ 0x8000000000000000 then (Whole.ofInt? (-digits)).map .whole
      else (Scientific.toDouble? ⟨true, digits, 0⟩).map .double
    else (Whole.ofInt? digits).map .whole

def readUnsigned? (negative : Bool) : List Char → Option (Number × List Char)
  | '0' :: rest =>
    match rest with
    | c :: _ => if isAsciiDigit c then none else readNumberTail? negative 0 rest
    | [] => readNumberTail? negative 0 []
  | cs@(c :: _) =>
    if isAsciiDigit c then
      let (digits, _, rest) := takeDigits 0 0 cs
      let (more, after) := skipDigits rest
      if more = 0 then readNumberTail? negative digits rest
      else
        match after with
        | '.' :: fraction => readFraction? ⟨negative, digits, more⟩ fraction
        | _ => readExponent? ⟨negative, digits, more⟩ after
    else none
  | [] => none

def readNumber? : List Char → Option (Number × List Char)
  | '-' :: rest => readUnsigned? true rest
  | cs => readUnsigned? false cs

def hexValue? (c : Char) : Option Nat :=
  if isAsciiDigit c then some (digitOf c)
  else if 'a' ≤ c && c ≤ 'f' then some (c.toNat - 'a'.toNat + 10)
  else if 'A' ≤ c && c ≤ 'F' then some (c.toNat - 'A'.toNat + 10)
  else none

def readHex4? : List Char → Option (Nat × List Char)
  | a :: b :: c :: d :: rest => do
    let a ← hexValue? a
    let b ← hexValue? b
    let c ← hexValue? c
    let d ← hexValue? d
    pure (((a * 16 + b) * 16 + c) * 16 + d, rest)
  | _ => none

def readUnicode? (cs : List Char) : Option (Char × List Char) := do
  let (unit, rest) ← readHex4? cs
  if 0xDC00 ≤ unit && unit ≤ 0xDFFF then none
  else if 0xD800 ≤ unit && unit ≤ 0xDBFF then
    match rest with
    | '\\' :: 'u' :: rest =>
      let (low, rest) ← readHex4? rest
      if 0xDC00 ≤ low && low ≤ 0xDFFF then
        pure (Char.ofNat (0x10000 + (unit - 0xD800) * 0x400 + (low - 0xDC00)), rest)
      else none
    | _ => none
  else pure (Char.ofNat unit, rest)

def readEscape? : List Char → Option (Char × List Char)
  | '"' :: rest => some ('"', rest)
  | '\\' :: rest => some ('\\', rest)
  | '/' :: rest => some ('/', rest)
  | 'b' :: rest => some (Char.ofNat 8, rest)
  | 'f' :: rest => some (Char.ofNat 12, rest)
  | 'n' :: rest => some ('\n', rest)
  | 'r' :: rest => some ('\r', rest)
  | 't' :: rest => some ('\t', rest)
  | 'u' :: rest => readUnicode? rest
  | _ => none

def readString? : (fuel : Nat) → (read : List Char) → List Char → Option (String × List Char)
  | 0, _, _ => none
  | _, _, [] => none
  | fuel + 1, read, c :: rest =>
    if c = '"' then some (String.ofList read.reverse, rest)
    else if c = '\\' then
      match readEscape? rest with
      | some (e, rest) => readString? fuel (e :: read) rest
      | none => none
    else if c.toNat < 32 then none
    else readString? fuel (c :: read) rest

def word? (word : List Char) (value : Json) (cs : List Char) : Option (Json × List Char) :=
  if cs.take word.length = word then some (value, cs.drop word.length) else none

mutual

/-- Reads a value inside which `depth` more brackets may be open at a time. -/
def readValue? : (fuel depth : Nat) → List Char → Option (Json × List Char)
  | 0, _, _ => none
  | fuel + 1, depth, cs =>
    match skipSpace cs with
    | [] => none
    | c :: rest =>
      if c = 'n' then word? ['n', 'u', 'l', 'l'] .null (c :: rest)
      else if c = 't' then word? ['t', 'r', 'u', 'e'] (.bool true) (c :: rest)
      else if c = 'f' then word? ['f', 'a', 'l', 's', 'e'] (.bool false) (c :: rest)
      else if c = '"' then (readString? (rest.length + 1) [] rest).map fun (s, r) => (.string s, r)
      else if c = '[' then
        match depth with
        | 0 => none
        | depth + 1 =>
          match skipSpace rest with
          | ']' :: rest => some (.array [], rest)
          | rest => (readItems? fuel depth rest).map fun (items, r) => (.array items, r)
      else if c = '\x7b' then
        match depth with
        | 0 => none
        | depth + 1 =>
          match skipSpace rest with
          | '\x7d' :: rest => some (.object [], rest)
          | rest => (readMembers? fuel depth rest).map fun (members, r) => (ofMembers members, r)
      else (readNumber? (c :: rest)).map fun (n, r) => (.number n, r)

def readItems? : (fuel depth : Nat) → List Char → Option (List Json × List Char)
  | 0, _, _ => none
  | fuel + 1, depth, cs => do
    let (item, rest) ← readValue? fuel depth cs
    match skipSpace rest with
    | ',' :: rest =>
      let (items, rest) ← readItems? fuel depth rest
      pure (item :: items, rest)
    | ']' :: rest => pure ([item], rest)
    | _ => none

def readMembers? : (fuel depth : Nat) → List Char → Option (List (String × Json) × List Char)
  | 0, _, _ => none
  | fuel + 1, depth, cs => do
    match skipSpace cs with
    | '"' :: rest =>
      let (key, rest) ← readString? (rest.length + 1) [] rest
      match skipSpace rest with
      | ':' :: rest =>
        let (value, rest) ← readValue? fuel depth rest
        match skipSpace rest with
        | ',' :: rest =>
          let (members, rest) ← readMembers? fuel depth rest
          pure ((key, value) :: members, rest)
        | '\x7d' :: rest => pure ([(key, value)], rest)
        | _ => none
      | _ => none
    | _ => none

end

def read? (depth : Nat) (s : String) : Option Json :=
  let cs := s.toList
  match readValue? (2 * cs.length + 2) depth cs with
  | some (value, rest) => if (skipSpace rest).isEmpty then some value else none
  | none => none

def messageDepth : Nat := 127

def parse? (s : String) : Option Json := read? messageDepth s

end LanguageClient.Json
