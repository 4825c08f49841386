import LanguageClient.Toml.Basic

/-!
The parts of a TOML document that have no parts of their own: texts in four kinds of quotes, whole
numbers in four bases, floats, dates and times, and keys. Every reader gives what it has read and
the characters that are left.
-/
namespace LanguageClient.Toml

def isSpace (c : Char) : Bool := c = ' ' || c = '\t'

def skipSpaces (cs : List Char) : List Char := cs.dropWhile isSpace

def newline? : List Char → Option (List Char)
  | '\n' :: rest => some rest
  | '\r' :: '\n' :: rest => some rest
  | _ => none

def isShown (c : Char) : Bool := c = '\t' || (32 ≤ c.toNat && c.toNat ≠ 127)

private def isDigit (c : Char) : Bool := '0' ≤ c && c ≤ '9'

private def digitValue (c : Char) : Nat :=
  if isDigit c then c.toNat - '0'.toNat
  else if 'a' ≤ c && c ≤ 'f' then c.toNat - 'a'.toNat + 10
  else c.toNat - 'A'.toNat + 10

private def isHexDigit (c : Char) : Bool :=
  isDigit c || ('a' ≤ c && c ≤ 'f') || ('A' ≤ c && c ≤ 'F')

private def valueOf (base : Nat) (digits : List Char) : Nat :=
  digits.foldl (fun n c => n * base + digitValue c) 0

private def readCodePoint (count : Nat) (cs : List Char) : Option (Char × List Char) :=
  let digits := cs.take count
  if digits.length = count && digits.all isHexDigit then
    let n := valueOf 16 digits
    if n < 0xD800 || (0xDFFF < n && n < 0x110000) then some (Char.ofNat n, cs.drop count) else none
  else none

def readEscape : List Char → Option (Char × List Char)
  | 'b' :: rest => some (Char.ofNat 8, rest)
  | 'f' :: rest => some (Char.ofNat 12, rest)
  | 'n' :: rest => some ('\n', rest)
  | 'r' :: rest => some ('\r', rest)
  | 't' :: rest => some ('\t', rest)
  | '"' :: rest => some ('"', rest)
  | '\\' :: rest => some ('\\', rest)
  | 'u' :: rest => readCodePoint 4 rest
  | 'U' :: rest => readCodePoint 8 rest
  | _ => none

private def finish (read rest : List Char) : Option (String × List Char) := some (.ofList read.reverse, rest)

def readBasic : (fuel : Nat) → (read : List Char) → List Char → Option (String × List Char)
  | 0, _, _ => none
  | _, _, [] => none
  | _, read, '"' :: rest => finish read rest
  | fuel + 1, read, '\\' :: rest => do
    let (c, rest) ← readEscape rest
    readBasic fuel (c :: read) rest
  | fuel + 1, read, c :: rest => if isShown c then readBasic fuel (c :: read) rest else none

def skipBrokenLine? (cs : List Char) : Option (List Char) :=
  (newline? (skipSpaces cs)).map blanks
where
  blanks : List Char → List Char
    | '\r' :: '\n' :: rest => blanks rest
    | c :: rest => if isSpace c || c = '\n' then blanks rest else c :: rest
    | [] => []

/-- Reads the rest of a text in three double quotes. Up to two quotes before the closing ones
belong to the text. -/
def readBasicLines : (fuel : Nat) → (read : List Char) → List Char → Option (String × List Char)
  | 0, _, _ => none
  | _, _, [] => none
  | _, read, '"' :: '"' :: '"' :: '"' :: '"' :: rest => finish ('"' :: '"' :: read) rest
  | _, read, '"' :: '"' :: '"' :: '"' :: rest => finish ('"' :: read) rest
  | _, read, '"' :: '"' :: '"' :: rest => finish read rest
  | fuel + 1, read, '\\' :: rest =>
    match skipBrokenLine? rest with
    | some rest => readBasicLines fuel read rest
    | none => do
      let (c, rest) ← readEscape rest
      readBasicLines fuel (c :: read) rest
  | fuel + 1, read, c :: rest =>
    match newline? (c :: rest) with
    | some rest => readBasicLines fuel ('\n' :: read) rest
    | none => if isShown c then readBasicLines fuel (c :: read) rest else none

def readLiteral : (read : List Char) → List Char → Option (String × List Char)
  | _, [] => none
  | read, '\'' :: rest => finish read rest
  | read, c :: rest => if isShown c then readLiteral (c :: read) rest else none

def readLiteralLines : (fuel : Nat) → (read : List Char) → List Char → Option (String × List Char)
  | 0, _, _ => none
  | _, _, [] => none
  | _, read, '\'' :: '\'' :: '\'' :: '\'' :: '\'' :: rest => finish ('\'' :: '\'' :: read) rest
  | _, read, '\'' :: '\'' :: '\'' :: '\'' :: rest => finish ('\'' :: read) rest
  | _, read, '\'' :: '\'' :: '\'' :: rest => finish read rest
  | fuel + 1, read, c :: rest =>
    match newline? (c :: rest) with
    | some rest => readLiteralLines fuel ('\n' :: read) rest
    | none => if isShown c then readLiteralLines fuel (c :: read) rest else none

private def openLines (cs : List Char) : List Char := (newline? cs).getD cs

def readString : List Char → Option (String × List Char)
  | '"' :: '"' :: '"' :: rest => readBasicLines (rest.length + 1) [] (openLines rest)
  | '"' :: rest => readBasic (rest.length + 1) [] rest
  | '\'' :: '\'' :: '\'' :: rest => readLiteralLines (rest.length + 1) [] (openLines rest)
  | '\'' :: rest => readLiteral [] rest
  | _ => none

def isBare (c : Char) : Bool := c.isAlphanum || c = '_' || c = '-'

def readKey : List Char → Option (String × List Char)
  | '"' :: rest => readBasic (rest.length + 1) [] rest
  | '\'' :: rest => readLiteral [] rest
  | cs =>
    match cs.takeWhile isBare with
    | [] => none
    | key => some (.ofList key, cs.dropWhile isBare)

def readKeys : (fuel : Nat) → List Char → Option (List String × List Char)
  | 0, _ => none
  | fuel + 1, cs => do
    let (key, rest) ← readKey (skipSpaces cs)
    match skipSpaces rest with
    | '.' :: rest =>
      let (keys, rest) ← readKeys fuel rest
      pure (key :: keys, rest)
    | rest => pure ([key], rest)

/-- The bound on the keys of a path and on the brackets around a value. -/
def depthLimit : Nat := 80

def readPath (cs : List Char) : Option (List String × List Char) := readKeys (depthLimit - 1) cs

private def readDigits (isDigit : Char → Bool) : (read : List Char) → List Char → Option (List Char × List Char)
  | read, [] => if read.isEmpty then none else some (read.reverse, [])
  | read, '_' :: c :: rest =>
    if !read.isEmpty && isDigit c then readDigits isDigit (c :: read) rest else none
  | read, c :: rest =>
    if isDigit c then readDigits isDigit (c :: read) rest
    else if read.isEmpty || c = '_' then none
    else some (read.reverse, c :: rest)

private def readSign : List Char → Bool × List Char
  | '-' :: rest => (true, rest)
  | '+' :: rest => (false, rest)
  | cs => (false, cs)

private def readWholePart : List Char → Option (List Char × List Char)
  | '0' :: rest => some (['0'], rest)
  | cs => readDigits isDigit [] cs

private def inBounds (n : Int) : Bool := -0x8000000000000000 ≤ n && n < 0x8000000000000000

private def wholeNumber (n : Int) (rest : List Char) : Option (Toml × List Char) :=
  if inBounds n then some (.integer n, rest) else none

private def readBased (base : Nat) (isDigit : Char → Bool) (cs : List Char) : Option (Toml × List Char) := do
  let (digits, rest) ← readDigits isDigit [] cs
  wholeNumber (valueOf base digits) rest

def readInteger : List Char → Option (Toml × List Char)
  | '0' :: 'x' :: rest => readBased 16 isHexDigit rest
  | '0' :: 'o' :: rest => readBased 8 (fun c => '0' ≤ c && c ≤ '7') rest
  | '0' :: 'b' :: rest => readBased 2 (fun c => c = '0' || c = '1') rest
  | cs => do
    let (negative, cs) := readSign cs
    let (digits, rest) ← readWholePart cs
    let n : Int := valueOf 10 digits
    wholeNumber (if negative then -n else n) rest

private def readExponent : List Char → Option (Int × List Char)
  | c :: rest =>
    if c = 'e' || c = 'E' then do
      let (negative, cs) := readSign rest
      let (digits, rest) ← readDigits isDigit [] cs
      let n : Int := valueOf 10 digits
      pure (if negative then -n else n, rest)
    else none
  | [] => none

/-- The decimal rounds to a number beyond all doubles. -/
def isBeyond (digits : Nat) (power : Int) : Bool :=
  let length : Int := (Nat.toDigits 10 digits).length
  if digits = 0 || length + power ≤ 308 then false
  else if 310 ≤ length + power then true
  else
    let bound := Nat.pow 2 1024 - Nat.pow 2 970
    if 0 ≤ power then bound ≤ digits * Nat.pow 10 power.toNat
    else bound * Nat.pow 10 (-power).toNat ≤ digits

private def float (negative : Bool) (digits : List Char) (power : Int) (rest : List Char) :
    Option (Toml × List Char) :=
  let value := valueOf 10 digits
  if !isBeyond value power then some (.decimal negative value power, rest)
  else if negative then some (.infinite true, rest)
  else none

private def readDecimal (cs : List Char) : Option (Toml × List Char) := do
  let (negative, cs) := readSign cs
  let (whole, rest) ← readWholePart cs
  match rest with
  | '.' :: rest =>
    let (fraction, rest) ← readDigits isDigit [] rest
    let places : Int := fraction.length
    match readExponent rest with
    | some (exponent, rest) => float negative (whole ++ fraction) (exponent - places) rest
    | none => float negative (whole ++ fraction) (-places) rest
  | rest =>
    let (exponent, rest) ← readExponent rest
    float negative whole exponent rest

private def readNamedFloat (cs : List Char) : Option (Toml × List Char) :=
  let (negative, cs) := readSign cs
  match cs with
  | 'i' :: 'n' :: 'f' :: rest => some (.infinite negative, rest)
  | 'n' :: 'a' :: 'n' :: rest => some (.notANumber, rest)
  | _ => none

def readFloat (cs : List Char) : Option (Toml × List Char) := readDecimal cs <|> readNamedFloat cs

private def readField (count lower upper : Nat) (cs : List Char) : Option (Nat × List Char) :=
  let digits := cs.take count
  let n := valueOf 10 digits
  if digits.length = count && digits.all isDigit && lower ≤ n && n ≤ upper then
    some (n, cs.drop count)
  else none

private def readMark (mark : Char) : List Char → Option (List Char)
  | c :: rest => if c = mark then some rest else none
  | [] => none

def daysOf (year month : Nat) : Nat :=
  if month = 2 then
    if year % 4 = 0 && (year % 100 ≠ 0 || year % 400 = 0) then 29 else 28
  else if month = 4 || month = 6 || month = 9 || month = 11 then 30
  else 31

private def skipDate (cs : List Char) : Option (List Char) := do
  let (year, rest) ← readField 4 0 9999 cs
  let rest ← readMark '-' rest
  let (month, rest) ← readField 2 1 12 rest
  let rest ← readMark '-' rest
  let (_, rest) ← readField 2 1 (daysOf year month) rest
  pure rest

private def skipTime (cs : List Char) : Option (List Char) := do
  let (_, rest) ← readField 2 0 23 cs
  let rest ← readMark ':' rest
  let (_, rest) ← readField 2 0 59 rest
  let rest ← readMark ':' rest
  let (_, rest) ← readField 2 0 60 rest
  match rest with
  | '.' :: c :: more => pure (if isDigit c then more.dropWhile isDigit else rest)
  | rest => pure rest

private def skipOffset (cs : List Char) : Option (List Char) :=
  match cs with
  | c :: rest =>
    if c = 'Z' || c = 'z' then some rest
    else if c = '+' || c = '-' then do
      let (_, rest) ← readField 2 0 23 rest
      let rest ← readMark ':' rest
      let (_, rest) ← readField 2 0 59 rest
      pure rest
    else some cs
  | [] => some []

private def skipDateTime (cs : List Char) : Option (List Char) :=
  match skipDate cs with
  | some rest =>
    match rest with
    | c :: more =>
      if c = 'T' || c = 't' || c = ' ' then
        match skipTime more with
        | some rest => skipOffset rest
        | none => some rest
      else some rest
    | [] => some []
  | none => skipTime cs

def readDateTime (cs : List Char) : Option (Toml × List Char) :=
  (skipDateTime cs).map fun rest =>
    (.dateTime (.ofList (cs.take (cs.length - rest.length))), rest)

end LanguageClient.Toml
