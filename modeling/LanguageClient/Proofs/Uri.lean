import LanguageClient.Proofs.Frame.Header
import LanguageClient.Uri

/-! What the URI of a file is made of. It holds letters, digits, a few marks and escaped bytes only, and the
path is read back from it, so no two paths share one. -/
namespace LanguageClient.Uri

def IsHexDigit (c : Char) : Prop := c.isDigit = true ∨ c ∈ ['A', 'B', 'C', 'D', 'E', 'F']

/-- The characters are letters, digits, a few marks, and percent signs with two hexadecimal digits. -/
inductive IsEscaped : List Char → Prop
  | nil : IsEscaped []
  | plain {c : Char} {rest : List Char} (allowed : c.isAlphanum = true ∨ c ∈ ['/', '.', '-', '_', '~'])
      (later : IsEscaped rest) : IsEscaped (c :: rest)
  | byte {high low : Char} {rest : List Char} (first : IsHexDigit high) (second : IsHexDigit low)
      (later : IsEscaped rest) : IsEscaped ('%' :: high :: low :: rest)

private theorem isHexDigit_hexDigit : ∀ n < 16, IsHexDigit (hexDigit n) := by
  unfold IsHexDigit
  decide

private theorem IsEscaped.append {front rest : List Char} (escaped : IsEscaped front) (later : IsEscaped rest) :
    IsEscaped (front ++ rest) := by
  induction escaped with
  | nil => exact later
  | plain allowed _ ih => exact .plain allowed ih
  | byte first second _ ih => exact .byte first second ih

private theorem isEscaped_flatMap {α : Type} {items : List α} {form : α → List Char}
    (each : ∀ item ∈ items, IsEscaped (form item)) : IsEscaped (items.flatMap form) := by
  induction items with
  | nil => exact .nil
  | cons item items ih =>
    rw [List.flatMap_cons]
    exact (each item (by simp)).append (ih fun other inside => each other (by simp [inside]))

private theorem isEscaped_percentByte (b : UInt8) : IsEscaped (percentByte b) := by
  have few := b.toNat_lt
  exact .byte (isHexDigit_hexDigit _ (by omega)) (isHexDigit_hexDigit _ (by omega)) .nil

private theorem isEscaped_encodeChar (c : Char) : IsEscaped (encodeChar c) := by
  unfold encodeChar
  split
  · next plain =>
    refine .plain ?_ .nil
    simpa [isPlain, or_assoc] using plain
  · exact isEscaped_flatMap fun b _ => isEscaped_percentByte b

private theorem percentBytes?_plain {c : Char} (plain : isPlain c = true) (rest : List Char) :
    percentBytes? (c :: rest) = (percentBytes? rest).map (String.utf8EncodeChar c ++ ·) := by
  have notPercent : c ≠ '%' := by
    rintro rfl
    contradiction
  rw [percentBytes?, if_neg notPercent]
  rintro high low more rfl
  exact absurd rfl notPercent

private theorem percentBytes?_bytes (bytes : List UInt8) (rest : List Char) :
    percentBytes? (bytes.flatMap percentByte ++ rest) = (percentBytes? rest).map (bytes ++ ·) := by
  induction bytes with
  | nil => simp
  | cons b bytes ih =>
    rw [List.flatMap_cons, List.append_assoc, percentBytes?_percentByte, ih, Option.map_map]
    rfl

private theorem percentBytes?_encodeChar (c : Char) (rest : List Char) :
    percentBytes? (encodeChar c ++ rest) = (percentBytes? rest).map (String.utf8EncodeChar c ++ ·) := by
  unfold encodeChar
  split
  · next plain => exact percentBytes?_plain plain rest
  · exact percentBytes?_bytes _ rest

private theorem percentBytes?_encoded (cs : List Char) :
    percentBytes? (cs.flatMap encodeChar) = some (cs.flatMap String.utf8EncodeChar) := by
  induction cs with
  | nil => rfl
  | cons c cs ih => rw [List.flatMap_cons, percentBytes?_encodeChar, ih, List.flatMap_cons, Option.map_some]

/-- A path is read back from its encoded characters. -/
theorem decodePercent?_encoded (path : String) :
    decodePercent? (path.toList.flatMap encodeChar) = some path := by
  have bytes := Frame.bytesOf_ofList path.toList
  rw [String.ofList_toList] at bytes
  rw [decodePercent?, percentBytes?_encoded, ← bytes]
  exact Frame.textOf?_bytesOf path

private theorem scheme?_file (cs : List Char) : scheme? ("file://" ++ String.ofList cs) = some "file" := by
  have front : ("file://" ++ String.ofList cs).toList = "file://".toList ++ cs := by
    simp
  rw [scheme?, front]
  rfl

/-- The URI of an absolute path is the scheme of files and then letters, digits, a few marks and escaped bytes.
The path is read back from it, whatever it contains, so no two absolute paths share a URI. -/
theorem ofPath_absolute (workingDirectory path : String) (absolute : Path.isAbsolute path = true) :
    (∃ rest, ofPath workingDirectory path = "file://" ++ String.ofList rest ∧ IsEscaped rest ∧
      decodePercent? rest = some path) ∧
    scheme? (ofPath workingDirectory path) = some "file" ∧
    ∀ elsewhere other, Path.isAbsolute other = true →
      ofPath elsewhere other = ofPath workingDirectory path → other = path := by
  have form (directory : String) {path : String} (absolute : Path.isAbsolute path = true) :
      ofPath directory path = "file://" ++ String.ofList (path.toList.flatMap encodeChar) := by
    rw [ofPath, if_pos absolute, ofAbsolute]
  refine ⟨⟨_, form workingDirectory absolute, isEscaped_flatMap fun c _ => isEscaped_encodeChar c,
    decodePercent?_encoded path⟩, ?_, fun elsewhere other absolute' same => ?_⟩
  · rw [form workingDirectory absolute]
    exact scheme?_file _
  · rw [form workingDirectory absolute, form elsewhere absolute'] at same
    have encoded : other.toList.flatMap encodeChar = path.toList.flatMap encodeChar := by
      simpa using congrArg String.toList same
    have read := decodePercent?_encoded other
    rw [encoded, decodePercent?_encoded] at read
    exact (Option.some.inj read).symm

/-- A path with blanks, colons and letters beyond ASCII, and one that holds what stands for a blank. -/
theorem ofPath_absolute_escaped :
    Path.isAbsolute "/a b/É:~" = true ∧ Path.isAbsolute "/a%20b/É:~" = true ∧
    ofPath "/" "/a b/É:~" = "file:///a%20b/%C3%89%3A~" ∧
    (∃ rest, ofPath "/" "/a b/É:~" = "file://" ++ String.ofList rest ∧ IsEscaped rest ∧
      decodePercent? rest = some "/a b/É:~") ∧
    ofPath "/" "/a%20b/É:~" ≠ ofPath "/" "/a b/É:~" := by
  have absolute : Path.isAbsolute "/a b/É:~" = true := by decide
  have absolute' : Path.isAbsolute "/a%20b/É:~" = true := by decide
  obtain ⟨formed, -, unshared⟩ := ofPath_absolute "/" "/a b/É:~" absolute
  refine ⟨absolute, absolute', by decide +kernel, formed, fun same => ?_⟩
  exact absurd (unshared "/" "/a%20b/É:~" absolute' same) (by decide)

end LanguageClient.Uri
