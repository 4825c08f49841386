import LanguageClient.Frame
import LanguageClient.Proofs.Text.Number

/-! A frame is read back from its bytes, whatever stands behind it. Texts and bytes come first: a byte
below the highest bit belongs to one character alone, so none but the line feed can end a header
line. The header is then read line by line and declares the length in bytes, not in characters. -/
namespace LanguageClient.Frame

private theorem toList_loop (bytes : ByteArray) (i : Nat) (seen : List UInt8) :
    ByteArray.toList.loop bytes i seen = seen.reverse ++ bytes.data.toList.drop i := by
  fun_induction ByteArray.toList.loop bytes i seen with
  | case1 i seen inside ih =>
    have bound : i < bytes.data.toList.length := by simpa using inside
    rw [ih, List.drop_eq_getElem_cons bound]
    simp [ByteArray.get!, getElem!_pos bytes.data i bound]
  | case2 i seen outside =>
    have bound : bytes.data.toList.length ≤ i := by simpa using outside
    simp [List.drop_eq_nil_of_le bound]

private theorem bytesOf_eq (s : String) : bytesOf s = s.toByteArray.data.toList := by
  simp [bytesOf, ByteArray.toList, toList_loop]

@[simp] theorem bytesOf_append (s t : String) : bytesOf (s ++ t) = bytesOf s ++ bytesOf t := by
  simp [bytesOf_eq]

theorem bytesOf_ofList (cs : List Char) :
    bytesOf (String.ofList cs) = cs.flatMap String.utf8EncodeChar := by
  simp [bytesOf_eq, List.utf8Encode]

@[simp] theorem length_bytesOf (s : String) : (bytesOf s).length = s.utf8ByteSize := by
  simp [bytesOf_eq]

@[simp] theorem textOf?_bytesOf (s : String) : textOf? (bytesOf s) = some s := by
  have valid : ByteArray.IsValidUTF8 ⟨(bytesOf s).toArray⟩ := by simpa [bytesOf_eq] using s.isValidUTF8
  simp only [textOf?, String.fromUTF8?, valid, dite_true]
  simp [String.fromUTF8, bytesOf_eq]

theorem textOf?_eq_some {body : Bytes} {text : String} : textOf? body = some text ↔ body = bytesOf text := by
  constructor
  · intro read
    unfold textOf? String.fromUTF8? at read
    split at read
    · cases read
      simp [bytesOf_eq, String.fromUTF8]
    · contradiction
  · rintro rfl
    exact textOf?_bytesOf text

private theorem ofNat_ne {b : UInt8} {n : Nat} (low : b.toNat < n) (high : n < 256) : UInt8.ofNat n ≠ b := by
  intro same
  have value := congrArg UInt8.toNat same
  rw [UInt8.toNat_ofNat'] at value
  omega

/-- A byte below the highest bit stands in no other character than its own. -/
theorem low_mem_utf8EncodeChar {c : Char} {b : UInt8} (low : b.toNat < 128)
    (inside : b ∈ String.utf8EncodeChar c) : c.toNat = b.toNat := by
  have bound := c.val.toNat_lt
  unfold String.utf8EncodeChar at inside
  dsimp only at inside
  split at inside
  · next small =>
    have same : b = UInt8.ofNat c.val.toNat := by simpa using inside
    have value := congrArg UInt8.toNat same
    rw [UInt8.toNat_ofNat'] at value
    change c.val.toNat = _
    omega
  -- The bytes of a longer encoding all have their highest bit set.
  · split at inside
    · simp only [List.mem_cons, List.not_mem_nil, or_false] at inside
      rcases inside with same | same <;>
        exact absurd same.symm (ofNat_ne (by omega) (by omega))
    · split at inside
      · simp only [List.mem_cons, List.not_mem_nil, or_false] at inside
        rcases inside with same | same | same <;>
          exact absurd same.symm (ofNat_ne (by omega) (by omega))
      · simp only [List.mem_cons, List.not_mem_nil, or_false] at inside
        rcases inside with same | same | same | same <;>
          exact absurd same.symm (ofNat_ne (by omega) (by omega))

private theorem utf8EncodeChar_low {c : Char} (low : c.toNat < 128) :
    String.utf8EncodeChar c = [UInt8.ofNat c.toNat] := by
  have small : c.val.toNat ≤ 127 := Nat.le_of_lt_succ low
  simp only [String.utf8EncodeChar, if_pos small]
  rfl

/-- A byte below the highest bit adds its character to a text, and makes no text of what is none. -/
theorem textOf?_concat {c : Char} (low : c.toNat < 128) (bytes : Bytes) :
    textOf? (bytes ++ [UInt8.ofNat c.toNat]) = (textOf? bytes).map (·.push c) := by
  have push (s : String) : bytesOf s ++ [UInt8.ofNat c.toNat] = bytesOf (s.push c) := by
    rw [← String.ofList_toList (s := s.push c), ← String.ofList_toList (s := s), bytesOf_ofList, bytesOf_ofList,
      String.toList_push, String.toList_ofList, List.flatMap_append, List.flatMap_singleton, utf8EncodeChar_low low]
  cases start : textOf? bytes with
  | some text =>
    rw [textOf?_eq_some.1 start, push, textOf?_bytesOf]
    rfl
  | none =>
    refine Option.eq_none_iff_forall_ne_some.2 fun text whole => ?_
    have written := textOf?_eq_some.1 whole
    rw [← String.ofList_toList (s := text), bytesOf_ofList] at written
    rcases text.toList.eq_nil_or_concat with none | ⟨cs, last, split⟩
    · simp [none] at written
    · -- The last byte is the whole of the last character.
      rw [split, List.concat_eq_append, List.flatMap_append, List.flatMap_singleton] at written
      have inside : UInt8.ofNat c.toNat ∈ String.utf8EncodeChar last := by
        have ends := congrArg List.getLast? written
        rw [List.getLast?_concat, List.getLast?_append,
          List.getLast?_eq_some_getLast String.utf8EncodeChar_ne_nil, Option.some_or] at ends
        rw [Option.some.inj ends]
        exact List.getLast_mem _
      have same : last = c := by
        apply Char.toNat_inj.1
        rw [low_mem_utf8EncodeChar (by rw [UInt8.toNat_ofNat']; omega) inside, UInt8.toNat_ofNat']
        omega
      rw [same, utf8EncodeChar_low low, ← bytesOf_ofList] at written
      rw [List.append_cancel_right written, textOf?_bytesOf] at start
      contradiction

theorem textOf?_feed (bytes : Bytes) : textOf? (bytes ++ [10]) = (textOf? bytes).map (·.push '\n') :=
  textOf?_concat (c := '\n') (by decide) bytes

theorem textOf?_return (bytes : Bytes) : textOf? (bytes ++ [13]) = (textOf? bytes).map (·.push '\r') :=
  textOf?_concat (c := '\r') (by decide) bytes
/-- The byte that ends lines stands in no other character. -/
theorem feed_mem_utf8EncodeChar {c : Char} (inside : 10 ∈ String.utf8EncodeChar c) : c = '\n' :=
  Char.toNat_inj.1 (low_mem_utf8EncodeChar (by decide) inside)

theorem feed_notMem_bytesOf {s : String} (absent : '\n' ∉ s.toList) : 10 ∉ bytesOf s := by
  intro inside
  rw [← String.ofList_toList (s := s), bytesOf_ofList] at inside
  obtain ⟨c, member, byte⟩ := List.mem_flatMap.1 inside
  exact absent (feed_mem_utf8EncodeChar byte ▸ member)

theorem readHeaders_within (ended : Bool) (start : Bytes) (length : Option Nat) {line : Bytes}
    (open_ : 10 ∉ line) (rest : Bytes) :
    readHeaders ended start length (line ++ rest) =
      readHeaders ended (line.reverse ++ start) length rest := by
  induction line generalizing start with
  | nil => rfl
  | cons b line ih =>
    have differs : b ≠ 10 := fun same => open_ (by simp [same])
    have later : 10 ∉ line := fun inside => open_ (by simp [inside])
    simp only [List.cons_append, readHeaders, if_neg differs, ih _ later]
    simp

private theorem readHeaders_length (ended : Bool) (length : Option Nat) {line : Bytes} {n : Nat}
    (whole : 10 ∉ line) (meant : readHeaderLine (line ++ [10]) = .ok (.length n)) (rest : Bytes) :
    readHeaders ended [] length (line ++ 10 :: rest) = readHeaders ended [] (some n) rest := by
  rw [readHeaders_within ended [] length whole]
  simp [readHeaders.eq_def ended _ length (10 :: rest), meant]

private theorem readHeaders_blank (ended : Bool) {line : Bytes} {n : Nat}
    (whole : 10 ∉ line) (meant : readHeaderLine (line ++ [10]) = .ok .blank) (rest : Bytes) :
    readHeaders ended [] (some n) (line ++ 10 :: rest) = .done n rest := by
  rw [readHeaders_within ended [] (some n) whole]
  simp [readHeaders.eq_def ended _ (some n) (10 :: rest), meant]

def header (length : Nat) : String := "Content-Length: " ++ toString length ++ "\r\n\r\n"

/-- A body of any bytes, behind its header. -/
def enframe (body : Bytes) : Bytes := bytesOf (header body.length) ++ body

theorem encode_eq (body : String) : encode body = enframe (bytesOf body) := by
  rw [enframe, length_bytesOf]
  rfl

def lengthLine (length : Nat) : String := "Content-Length: " ++ toString length ++ "\r"

private theorem toList_lengthLine (length : Nat) :
    (lengthLine length).toList = "Content-Length: ".toList ++ Nat.toDigits 10 length ++ ['\r'] := by
  unfold lengthLine
  simp

theorem bytesOf_feed : bytesOf "\n" = [10] := by
  rw [show "\n" = String.ofList ['\n'] by simp, bytesOf_ofList]
  rfl

theorem bytesOf_header (length : Nat) :
    bytesOf (header length) = bytesOf (lengthLine length) ++ 10 :: (bytesOf "\r" ++ [10]) := by
  have shape : header length = lengthLine length ++ "\n" ++ ("\r" ++ "\n") := by
    apply String.toList_inj.1
    unfold header
    simp [toList_lengthLine]
  rw [shape, bytesOf_append, bytesOf_append, bytesOf_append, bytesOf_feed]
  simp

private theorem isDigit_of_mem {length : Nat} {c : Char} (inside : c ∈ Nat.toDigits 10 length) :
    c.isDigit = true :=
  Nat.isDigit_of_mem_toDigits (by decide) (by decide) inside

theorem feed_notMem_lengthLine (length : Nat) : '\n' ∉ (lengthLine length).toList := by
  intro inside
  have digits : '\n' ∈ Nat.toDigits 10 length := by simpa [toList_lengthLine] using inside
  have digit := isDigit_of_mem digits
  simp at digit

theorem trimChars_lengthLine (length : Nat) :
    Text.trimChars (lengthLine length ++ "\n").toList =
      "Content-Length:".toList ++ ' ' :: Nat.toDigits 10 length := by
  have last : ∀ c ∈ ("Content-Length:".toList ++ ' ' :: Nat.toDigits 10 length).getLast?,
      Text.isBlank c = false := by
    intro c inside
    have digit : c ∈ (Nat.toDigits 10 length).getLast? := by
      simpa [List.getLast?_cons, List.getLast?_eq_some_getLast Nat.toDigits_ne_nil] using inside
    exact Text.isBlank_of_isDigit (isDigit_of_mem (List.mem_of_getLast? digit))
  have surrounded := Text.trimChars_surrounded []
    ("Content-Length:".toList ++ ' ' :: Nat.toDigits 10 length) ['\r', '\n'] (by simp)
    (by simp [Text.isBlank]) (by simp [Text.isBlank]) last
  simpa [toList_lengthLine] using surrounded

theorem trimChars_value (length : Nat) :
    Text.trimChars (' ' :: Nat.toDigits 10 length) = Nat.toDigits 10 length := by
  have surrounded := Text.trimChars_surrounded [' '] (Nat.toDigits 10 length) [] (by simp [Text.isBlank]) (by simp)
    (fun c inside => Text.isBlank_of_isDigit (isDigit_of_mem (List.mem_of_head? inside)))
    (fun c inside => Text.isBlank_of_isDigit (isDigit_of_mem (List.mem_of_getLast? inside)))
  simpa using surrounded

private theorem readHeaderLine_lengthLine {length : Nat} (small : length ≤ lengthLimit) :
    readHeaderLine (bytesOf (lengthLine length) ++ [10]) = .ok (.length length) := by
  rw [← bytesOf_feed, ← bytesOf_append, readHeaderLine, textOf?_bytesOf]
  simp only [trimChars_lengthLine, Text.dropStart?_append, trimChars_value, Text.readUnsigned_toDigits small]
  simp

private theorem readHeaderLine_blank : readHeaderLine (bytesOf "\r" ++ [10]) = .ok .blank := by
  rw [← bytesOf_feed, ← bytesOf_append, readHeaderLine, textOf?_bytesOf]
  simp [Text.trimChars, Text.isBlank]

/-- The header of a body declares the length of the body. -/
theorem readHeaders_header (ended : Bool) {length : Nat} (small : length ≤ lengthLimit) (rest : Bytes) :
    readHeaders ended [] none (bytesOf (header length) ++ rest) = .done length rest := by
  have first := readHeaders_length ended none (feed_notMem_bytesOf (feed_notMem_lengthLine length))
    (readHeaderLine_lengthLine small) (bytesOf "\r" ++ 10 :: rest)
  have second := readHeaders_blank ended (n := length) (feed_notMem_bytesOf (s := "\r") (by simp))
    readHeaderLine_blank rest
  rw [bytesOf_header, List.append_assoc, List.cons_append, List.append_assoc]
  exact first.trans second

def bodyText (body : Bytes) : Except Fault String :=
  match textOf? body with
  | some text => .ok text
  | none => .error .bodyNotText

theorem bodyText_bytesOf (s : String) : bodyText (bytesOf s) = .ok s := by
  rw [bodyText, textOf?_bytesOf]

def Progress.reached (rest : Bytes) : Except Fault String → Progress String
  | .ok text => .done text rest
  | .error cause => .fault cause rest

/-- The reader is behind the body, whether the body is a text or not. -/
theorem readBody_whole (ended : Bool) {body : Bytes} (small : body.length ≤ bufferLimit) (rest : Bytes) :
    readBody ended body.length (body ++ rest) = .reached rest (bodyText body) := by
  have inside : body.length ≤ (body ++ rest).length := by simp
  rw [readBody, if_neg (by omega), if_pos inside, List.take_left, List.drop_left, bodyText]
  cases textOf? body <;> rfl

/-- A frame is read whatever its body is and whatever follows it. -/
theorem next_enframe (ended : Bool) {body : Bytes} (small : body.length ≤ bufferLimit) (rest : Bytes) :
    next ended (enframe body ++ rest) = .reached rest (bodyText body) := by
  have declared : body.length ≤ lengthLimit := Nat.le_trans small (by decide)
  rw [next, enframe, List.append_assoc, readHeaders_header ended declared]
  exact readBody_whole ended small rest

end LanguageClient.Frame
