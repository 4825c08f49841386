import LanguageClient.Path

/-!
URIs of files. Outside a small set of characters the bytes of the UTF-8 form of a path are written
as a percent sign and two upper-case hexadecimal digits; `decodePercent?` reads them back.
-/
namespace LanguageClient.Uri

def isPlain (c : Char) : Bool :=
  c.isAlphanum || c = '/' || c = '.' || c = '-' || c = '_' || c = '~'

def hexDigit (n : Nat) : Char :=
  if n < 10 then Char.ofNat ('0'.toNat + n) else Char.ofNat ('A'.toNat + (n - 10))

def percentByte (b : UInt8) : List Char :=
  ['%', hexDigit (b.toNat / 16), hexDigit (b.toNat % 16)]

def encodeChar (c : Char) : List Char :=
  if isPlain c then [c] else (String.utf8EncodeChar c).flatMap percentByte

def ofAbsolute (path : String) : String :=
  "file://" ++ String.ofList (path.toList.flatMap encodeChar)

def ofPath (workingDirectory path : String) : String :=
  ofAbsolute (if Path.isAbsolute path then path else Path.join workingDirectory path)

private def hexValue? (c : Char) : Option Nat :=
  if '0' ≤ c && c ≤ '9' then some (c.toNat - '0'.toNat)
  else if 'A' ≤ c && c ≤ 'F' then some (c.toNat - 'A'.toNat + 10)
  else none

def percentBytes? : List Char → Option (List UInt8)
  | [] => some []
  | '%' :: high :: low :: rest => do
    let high ← hexValue? high
    let low ← hexValue? low
    let bytes ← percentBytes? rest
    pure (UInt8.ofNat (high * 16 + low) :: bytes)
  | c :: rest =>
    if c = '%' then none else (percentBytes? rest).map (String.utf8EncodeChar c ++ ·)

private theorem hexValue?_hexDigit : ∀ n < 16, hexValue? (hexDigit n) = some n := by decide

/-- A byte is read back from its percent sign and digits. -/
theorem percentBytes?_percentByte (b : UInt8) (rest : List Char) :
    percentBytes? (percentByte b ++ rest) = (percentBytes? rest).map (b :: ·) := by
  have few := b.toNat_lt
  have high := hexValue?_hexDigit (b.toNat / 16) (by omega)
  have low := hexValue?_hexDigit (b.toNat % 16) (by omega)
  have whole : b.toNat / 16 * 16 + b.toNat % 16 = b.toNat := by omega
  simp only [percentByte, List.cons_append, List.nil_append, percentBytes?, high, low, whole,
    UInt8.ofNat_toNat, Option.bind_eq_bind, Option.bind_some, Option.pure_def]
  cases percentBytes? rest <;> rfl

def decodePercent? (cs : List Char) : Option String := do
  let bytes ← percentBytes? cs
  String.fromUTF8? ⟨bytes.toArray⟩

private def isSchemeChar (c : Char) : Bool :=
  c.isAlphanum || c = '+' || c = '-' || c = '.'

/-- The scheme of a URI: what stands before the first colon, when it is made of letters, digits
and a few marks. -/
def scheme? (uri : String) : Option String :=
  let cs := uri.toList
  let scheme := cs.takeWhile (· ≠ ':')
  if cs.contains ':' && !scheme.isEmpty && scheme.all isSchemeChar then
    some (String.ofList scheme)
  else none

end LanguageClient.Uri
