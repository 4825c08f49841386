import LanguageClient.Proofs.Frame.Lines
import LanguageClient.Proofs.Frame.Stream

/-! Which lengths a stream can announce, and what becomes of those that are too large. A length that needs more
than 64 bits is refused while the header is read; of the others, those beyond the largest buffer are accepted
there, and no room is found for their bodies. -/
namespace LanguageClient.Frame

def LineEnds (ended : Bool) (bytes behind : Bytes) : Prop := ended = true ∨ ∃ front, bytes = front ++ 10 :: behind

def Progress.Leaves {α : Type} (p : Progress α) (behind : Bytes) : Prop :=
  (∃ value, p = .done value behind) ∨ ∃ cause, p = .fault cause behind ∧ cause ≠ .closed

section
variable {line bytes front behind : Bytes} {length : Option Nat} {p : Progress Nat}

/-- What is read of a header up to the end of a line does not depend on the end of the stream. -/
theorem readHeaders_unended (read : readHeaders true line length bytes = p) (leaves : p.Leaves behind)
    (split : bytes = front ++ 10 :: behind) : readHeaders false line length bytes = p := by
  induction bytes generalizing line length front with
  | nil => simp at split
  | cons b rest ih =>
    -- At the line feed that is to be the last one, the header cannot go on.
    have goesOn {declared : Option Nat} (feed : b = 10) (read : readHeaders true [] declared rest = p) :
        readHeaders false [] declared rest = p := by
      cases front with
      | cons c front => exact ih read (List.cons.inj split).2
      | nil =>
        obtain rfl : rest = behind := (List.cons.inj split).2
        have below := readHeaders_below true [] declared rest
        rw [read] at below
        have none_left : rest = [] := by
          cases rest with
          | nil => rfl
          | cons c more =>
            rcases leaves with ⟨value, rfl⟩ | ⟨cause, rfl, -⟩ <;>
              simp [Progress.LeavesBelow] at below
        subst none_left
        have closed : p = .fault .closed [] := read.symm
        rcases leaves with ⟨value, rfl⟩ | ⟨cause, rfl, other⟩
        · contradiction
        · cases closed
          contradiction
    rw [readHeaders.eq_def] at read ⊢
    dsimp only at read ⊢
    by_cases feed : b = 10
    · rw [if_pos feed] at read ⊢
      cases meant : readHeaderLine (b :: line).reverse with
      | error cause =>
        rw [meant] at read
        exact read
      | ok meaning =>
        rw [meant] at read
        cases meaning with
        | blank => exact read
        | length n => exact goesOn feed read
        | other => exact goesOn feed read
    · rw [if_neg feed] at read ⊢
      cases front with
      | nil => exact absurd (List.cons.inj split).1 feed
      | cons c front => exact ih read (List.cons.inj split).2

/-- Without the end of the stream a header is read up to the end of a line. -/
theorem feed_of_readHeaders (read : readHeaders false line length bytes = p) (leaves : p.Leaves behind) :
    ∃ front, bytes = front ++ 10 :: behind := by
  induction bytes generalizing line length with
  | nil =>
    have waits : p = .waiting := by
      rw [← read, readHeaders.eq_def]
      simp
    rcases leaves with ⟨value, rfl⟩ | ⟨cause, rfl, -⟩ <;> contradiction
  | cons b rest ih =>
    have later {line : Bytes} {declared : Option Nat} (read : readHeaders false line declared rest = p) :
        ∃ front, b :: rest = front ++ 10 :: behind := by
      obtain ⟨front, split⟩ := ih read
      exact ⟨b :: front, by rw [split]; rfl⟩
    have here (feed : b = 10) (left : behind = rest) : ∃ front, b :: rest = front ++ 10 :: behind :=
      ⟨[], by rw [feed, left]; rfl⟩
    rw [readHeaders.eq_def] at read
    dsimp only at read
    by_cases feed : b = 10
    · rw [if_pos feed] at read
      cases meant : readHeaderLine (b :: line).reverse with
      | error cause =>
        rw [meant] at read
        subst read
        refine here feed ?_
        rcases leaves with ⟨value, same⟩ | ⟨cause', same, -⟩ <;> cases same
        rfl
      | ok meaning =>
        rw [meant] at read
        cases meaning with
        | blank =>
          refine here feed ?_
          cases length <;> subst read <;> rcases leaves with ⟨value, same⟩ | ⟨cause', same, -⟩ <;> cases same <;> rfl
        | length n => exact later read
        | other => exact later read
    · rw [if_neg feed] at read
      exact later read

private theorem readHeaders_eq_iff (ended : Bool) (leaves : p.Leaves behind) :
    readHeaders ended line length bytes = p ↔
      readHeaders true line length bytes = p ∧ LineEnds ended bytes behind := by
  cases ended with
  | true => exact ⟨fun read => ⟨read, .inl rfl⟩, And.left⟩
  | false =>
    constructor
    · intro read
      have decided : readHeaders false line length bytes ≠ .waiting := by
        rw [read]
        rcases leaves with ⟨value, rfl⟩ | ⟨cause, rfl, -⟩ <;> nofun
      have same := readHeaders_extend true [] line length bytes decided
      rw [List.append_nil, read] at same
      refine ⟨same.trans ?_, .inr (feed_of_readHeaders read leaves)⟩
      rcases leaves with ⟨value, rfl⟩ | ⟨cause, rfl, -⟩ <;> simp [Progress.extend]
    · rintro ⟨read, ends⟩
      obtain ⟨front, split⟩ := ends.resolve_left Bool.false_ne_true
      exact readHeaders_unended read leaves split

end

/-- The bytes that have arrived begin with a whole header, which announces a body of `n` bytes. -/
structure Announces (ended : Bool) (bytes : Bytes) (n : Nat) (behind : Bytes) : Prop where
  headed : ∃ before, Headed bytes before n behind
  whole : LineEnds ended bytes behind

/-- A line of the header declares a length that needs more than 64 bits; the lines before it are in order. -/
def Exceeds (ended : Bool) (bytes : Bytes) : Prop :=
  ∃ before line value after n, lines bytes = before ++ line :: after ∧
    (∀ other ∈ before, trimmed? other ≠ some [] ∧ trimmed? other ≠ none ∧
      ∀ value, trimmed? other = some ("Content-Length:".toList ++ value) → ∃ m, IsLength value m) ∧
    trimmed? line = some ("Content-Length:".toList ++ value) ∧ Text.IsDecimal n (Text.trimChars value) ∧
    UInt64.size ≤ n ∧ LineEnds ended bytes after.flatten

private theorem readHeaders_announces {ended : Bool} {bytes : Bytes} {n : Nat} {behind : Bytes} :
    readHeaders ended [] none bytes = .done n behind ↔ Announces ended bytes n behind := by
  rw [readHeaders_eq_iff ended (.inl ⟨n, rfl⟩), readHeaders_eq_done_iff]
  exact ⟨fun ⟨headed, whole⟩ => ⟨headed, whole⟩, fun ⟨headed, whole⟩ => ⟨headed, whole⟩⟩

/-- What is announced fits into 64 bits. -/
theorem Announces.lt_size {ended : Bool} {bytes : Bytes} {n : Nat} {behind : Bytes}
    (announces : Announces ended bytes n behind) : n < UInt64.size := by
  obtain ⟨before, headed⟩ := announces.headed
  obtain ⟨value, -, length⟩ := headed.last
  exact length.2

private theorem readHeaders_exceeds {ended : Bool} {bytes : Bytes} (exceeds : Exceeds ended bytes) :
    ∃ rest, readHeaders ended [] none bytes = .fault (.badLength .tooLarge) rest := by
  obtain ⟨before, line, value, after, n, split, inOrder, text, decimal, large, ends⟩ := exceeds
  have leaves : (Progress.fault (.badLength .tooLarge) after.flatten : Progress Nat).Leaves after.flatten :=
    .inr ⟨_, rfl, nofun⟩
  refine ⟨after.flatten, (readHeaders_eq_iff ended leaves).2 ⟨?_, ends⟩⟩
  have filled : ∀ other ∈ before, IsFilled other := fun other inside =>
    isFilled_iff.2 ⟨(inOrder other inside).1, (inOrder other inside).2.1⟩
  obtain ⟨declared, accepted⟩ := (foldlM_declare_ok_iff (before.filterMap lengthValue?)).2 (by
    intro value inside
    obtain ⟨other, listed, meaning⟩ := List.mem_filterMap.1 inside
    exact (inOrder other listed).2.2 value (lengthValue?_eq_some_iff.1 meaning))
  have read := readLines_append filled none (line :: after)
  rw [accepted] at read
  have beyond : lengthLimit < n := Nat.lt_of_lt_of_le (by decide) large
  have meaning := readHeaderLine_eq line
  rw [text, lengthValue?_eq_some_iff.2 text] at meaning
  simp only [Text.readUnsigned_tooLarge decimal beyond] at meaning
  have refused : readHeaderLine line = .error (.badLength .tooLarge) := meaning
  rw [readHeaders_eq_readLines, split, read, readLines.eq_def]
  dsimp only
  rw [refused]

/-- A header announces the length it is written for, if this fits into 64 bits. -/
theorem announces_header (ended : Bool) {n : Nat} (fits : n < UInt64.size) (rest : Bytes) :
    Announces ended (bytesOf (header n) ++ rest) n rest :=
  readHeaders_announces.1 (readHeaders_header ended (Nat.le_of_lt_succ fits) rest)

/-- Otherwise the length exceeds what can be declared. -/
theorem exceeds_header (ended : Bool) {n : Nat} (large : UInt64.size ≤ n) (rest : Bytes) :
    Exceeds ended (bytesOf (header n) ++ rest) := by
  let behind := bytesOf "\r" ++ 10 :: rest
  have shape : bytesOf (header n) ++ rest = bytesOf (lengthLine n) ++ 10 :: behind := by
    rw [bytesOf_header]
    simp [behind]
  have split : lines (bytesOf (header n) ++ rest) = (bytesOf (lengthLine n) ++ [10]) :: lines behind := by
    rw [shape, lines_feed (feed_notMem_bytesOf (feed_notMem_lengthLine n))]
  have text : trimmed? (bytesOf (lengthLine n) ++ [10]) =
      some ("Content-Length:".toList ++ ' ' :: Nat.toDigits 10 n) := by
    rw [trimmed?, ← bytesOf_feed, ← bytesOf_append, textOf?_bytesOf, Option.map_some, trimChars_lengthLine]
  have decimal : Text.IsDecimal n (Text.trimChars (' ' :: Nat.toDigits 10 n)) := by
    rw [trimChars_value]
    exact (Text.isDigits_toDigits n).isDecimal
  refine ⟨[], _, _, lines behind, n, split, fun _ inside => absurd inside List.not_mem_nil, text, decimal, large,
    .inr ⟨bytesOf (lengthLine n), ?_⟩⟩
  rw [flatten_lines, shape]

private theorem readHeaderLine_ne_unallocatable (line : Bytes) : readHeaderLine line ≠ .error .unallocatable := by
  rw [readHeaderLine_eq]
  repeat' split
  all_goals nofun

private theorem readHeaders_ne_unallocatable (ended : Bool) (line : Bytes) (length : Option Nat)
    (bytes rest : Bytes) :
    readHeaders ended line length bytes ≠ .fault .unallocatable rest := by
  intro read
  induction bytes generalizing line length with
  | nil =>
    rw [readHeaders.eq_def] at read
    dsimp only at read
    split at read
    · split at read
      · cases read
      · split at read
        · next meant =>
          cases read
          exact readHeaderLine_ne_unallocatable _ meant
        · cases length <;> cases read
        · cases read
    · cases read
  | cons b bytes ih =>
    rw [readHeaders.eq_def] at read
    dsimp only at read
    split at read
    · split at read
      · next meant =>
        cases read
        exact readHeaderLine_ne_unallocatable _ meant
      · cases length <;> cases read
      · exact ih [] _ read
      · exact ih [] _ read
    · exact ih _ _ read

private theorem readBody_unallocatable_iff {ended : Bool} {n : Nat} {bytes : Bytes} :
    (∃ rest, readBody ended n bytes = .fault .unallocatable rest) ↔ bufferLimit < n := by
  unfold readBody
  by_cases huge : bufferLimit < n
  · rw [if_pos huge]
    exact iff_of_true ⟨bytes, rfl⟩ huge
  · rw [if_neg huge]
    refine iff_of_false ?_ huge
    rintro ⟨rest, read⟩
    repeat' split at read
    all_goals cases read

/-- No room is found for a body just where its announced length is beyond the largest buffer. -/
theorem next_unallocatable_iff {ended : Bool} {bytes : Bytes} :
    (∃ rest, next ended bytes = .fault .unallocatable rest) ↔
      ∃ n behind, Announces ended bytes n behind ∧ bufferLimit < n := by
  simp only [← readHeaders_announces]
  unfold next
  cases headers : readHeaders ended [] none bytes with
  | waiting => simp
  | fault cause rest =>
    have other : cause ≠ .unallocatable := by
      rintro rfl
      exact readHeaders_ne_unallocatable _ _ _ _ _ headers
    simp [other]
  | done n behind =>
    dsimp only
    rw [readBody_unallocatable_iff]
    constructor
    · exact fun huge => ⟨n, behind, rfl, huge⟩
    · rintro ⟨_, _, ⟨⟩, huge⟩
      exact huge

private theorem nextMessage_eq_fault_iff {ended : Bool} {bytes rest : Bytes} {cause : Fault} :
    nextMessage ended bytes = .fault cause rest ↔ next ended bytes = .fault cause rest := by
  unfold nextMessage
  cases next ended bytes <;> simp

/-- No room is found for a message just where the announced length of its body is beyond the largest
buffer. -/
theorem nextMessage_unallocatable_iff {ended : Bool} {bytes : Bytes} :
    (∃ rest, nextMessage ended bytes = .fault .unallocatable rest) ↔
      ∃ n behind, Announces ended bytes n behind ∧ bufferLimit < n := by
  simp only [nextMessage_eq_fault_iff]
  exact next_unallocatable_iff

/-- A length of more than 64 bits is refused. -/
theorem nextMessage_exceeds {ended : Bool} {bytes : Bytes} (exceeds : Exceeds ended bytes) :
    ∃ rest, nextMessage ended bytes = .fault (.badLength .tooLarge) rest := by
  obtain ⟨rest, read⟩ := readHeaders_exceeds exceeds
  exact ⟨rest, nextMessage_eq_fault_iff.2 (by rw [next, read])⟩

end LanguageClient.Frame
