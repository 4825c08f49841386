import Mathlib.Data.List.Induction
import LanguageClient.Proofs.Frame.Header

/-! Headers line by line. What a header line says shows when it is trimmed, so it makes no difference how
the line ends; of all header lines only the values of the lengths have an influence, the last one on
what is declared and the others on whether the header is read at all. -/
namespace LanguageClient

private theorem Text.dropStart?_eq_some_iff {start cs rest : List Char} :
    dropStart? start cs = some rest ↔ cs = start ++ rest := by
  constructor
  · intro found
    induction start generalizing cs with
    | nil =>
      cases found
      rfl
    | cons a start ih =>
      cases cs with
      | nil => contradiction
      | cons c cs =>
        unfold dropStart? at found
        split at found
        · next same => rw [same, ih found, List.cons_append]
        · contradiction
  · rintro rfl
    exact dropStart?_append start rest

namespace Frame

/-- The lines of a stream. A line ends at a line feed, which belongs to it, or, if it is not empty, at the
end of the stream. -/
def lines : Bytes → List Bytes
  | [] => []
  | b :: rest =>
    if b = 10 then [b] :: lines rest
    else
      match lines rest with
      | [] => [[b]]
      | line :: later => (b :: line) :: later

theorem lines_feed {inner : Bytes} (open_ : 10 ∉ inner) (rest : Bytes) :
    lines (inner ++ 10 :: rest) = (inner ++ [10]) :: lines rest := by
  induction inner with
  | nil => simp [lines]
  | cons b inner ih =>
    have differs : b ≠ 10 := fun same => open_ (by simp [same])
    have later : 10 ∉ inner := fun inside => open_ (by simp [inside])
    rw [List.cons_append, lines, if_neg differs, ih later, List.cons_append]

private theorem lines_open {line : Bytes} (open_ : 10 ∉ line) (nonempty : line ≠ []) : lines line = [line] := by
  induction line with
  | nil => contradiction
  | cons b inner ih =>
    have differs : b ≠ 10 := fun same => open_ (by simp [same])
    have later : 10 ∉ inner := fun inside => open_ (by simp [inside])
    rw [lines, if_neg differs]
    cases inner with
    | nil => rfl
    | cons c inner => rw [ih later (by simp)]

theorem flatten_lines (bytes : Bytes) : (lines bytes).flatten = bytes := by
  induction bytes with
  | nil => rfl
  | cons b rest ih =>
    unfold lines
    split
    · rw [List.flatten_cons, ih, List.singleton_append]
    · cases later : lines rest with
      | nil => simpa [later] using ih
      | cons line more => simpa [later] using ih

def IsWhole (line : Bytes) : Prop := ∃ inner, line = inner ++ [10] ∧ 10 ∉ inner

private theorem lines_whole {line : Bytes} (whole : IsWhole line) (rest : Bytes) :
    lines (line ++ rest) = line :: lines rest := by
  obtain ⟨inner, rfl, open_⟩ := whole
  rw [List.append_assoc]
  exact lines_feed open_ rest

theorem lines_wholes {header : List Bytes} (whole : ∀ line ∈ header, IsWhole line) (rest : Bytes) :
    lines (header.flatten ++ rest) = header ++ lines rest := by
  induction header with
  | nil => rfl
  | cons line header ih =>
    obtain ⟨first, later⟩ := List.forall_mem_cons.1 whole
    rw [List.flatten_cons, List.append_assoc, lines_whole first, ih later, List.cons_append]

/-- The text of a line without the blanks around it, if the line is a text. -/
def trimmed? (line : Bytes) : Option (List Char) := (textOf? line).map fun text => Text.trimChars text.toList

/-- What stands behind the key in a line that declares a length. -/
def lengthValue? (line : Bytes) : Option (List Char) :=
  (trimmed? line).bind (Text.dropStart? "Content-Length:".toList)

theorem lengthValue?_eq_some_iff {line : Bytes} {value : List Char} :
    lengthValue? line = some value ↔ trimmed? line = some ("Content-Length:".toList ++ value) := by
  rw [lengthValue?, Option.bind_eq_some_iff]
  constructor
  · rintro ⟨cs, text, start⟩
    rw [text, Text.dropStart?_eq_some_iff.1 start]
  · intro text
    exact ⟨_, text, Text.dropStart?_append _ _⟩

def IsLength (value : List Char) (n : Nat) : Prop := Text.IsDecimal n (Text.trimChars value) ∧ n < UInt64.size

def declare (_ : Option Nat) (value : List Char) : Except Fault (Option Nat) :=
  match Text.readUnsigned lengthLimit (Text.trimChars value) with
  | .ok n => .ok (some n)
  | .error fault => .error (.badLength fault)

private theorem declare_eq_ok_iff {length declared : Option Nat} {value : List Char} :
    declare length value = .ok declared ↔ ∃ n, IsLength value n ∧ declared = some n := by
  have bound (n : Nat) : n ≤ lengthLimit ↔ n < UInt64.size := by
    unfold lengthLimit UInt64.size
    omega
  unfold declare
  cases read : Text.readUnsigned lengthLimit (Text.trimChars value) with
  | ok n =>
    obtain ⟨decimal, small⟩ := Text.readUnsigned_eq_ok_iff.1 read
    constructor
    · rintro ⟨⟩
      exact ⟨n, ⟨decimal, (bound n).1 small⟩, rfl⟩
    · rintro ⟨m, ⟨decimal', small'⟩, rfl⟩
      have same := Text.readUnsigned_eq_ok_iff.2 ⟨decimal', (bound m).2 small'⟩
      rw [read] at same
      cases same
      rfl
  | error fault =>
    constructor
    · nofun
    · rintro ⟨m, ⟨decimal', small'⟩, rfl⟩
      have same := Text.readUnsigned_eq_ok_iff.2 ⟨decimal', (bound m).2 small'⟩
      rw [read] at same
      contradiction

/-- A line is what it is when trimmed. -/
theorem readHeaderLine_eq (line : Bytes) : readHeaderLine line =
    match trimmed? line with
    | none => .error .headerNotText
    | some [] => .ok .blank
    | some (_ :: _) =>
      match lengthValue? line with
      | none => .ok .other
      | some value =>
        match Text.readUnsigned lengthLimit (Text.trimChars value) with
        | .ok n => .ok (.length n)
        | .error fault => .error (.badLength fault) := by
  unfold readHeaderLine lengthValue? trimmed?
  cases textOf? line with
  | none => rfl
  | some text =>
    simp only [Option.map_some, Option.bind_some]
    cases Text.trimChars text.toList with
    | nil => rfl
    | cons c cs =>
      cases Text.dropStart? "Content-Length:".toList (c :: cs) <;> rfl

/-- A line with a return before its line feed says the same as without. -/
theorem trimmed?_return (inner : Bytes) : trimmed? (inner ++ [13, 10]) = trimmed? (inner ++ [10]) := by
  have feed : ∀ c ∈ ['\n'], Text.isBlank c = true := List.forall_mem_singleton.2 rfl
  have blank : ∀ c ∈ ['\r', '\n'], Text.isBlank c = true := List.forall_mem_cons.2 ⟨rfl, feed⟩
  have split : inner ++ [13, 10] = (inner ++ [13]) ++ [10] := by simp
  rw [split, trimmed?, trimmed?, textOf?_feed, textOf?_return, textOf?_feed]
  cases textOf? inner with
  | none => rfl
  | some text =>
    simp only [Option.map_some, String.toList_push, List.append_assoc]
    exact congrArg some ((Text.trimChars_append_blank _ blank).trans (Text.trimChars_append_blank _ feed).symm)

/-- Reads header lines up to the blank one and gives the length they declare; `length` is what was declared
before. -/
def readLines : (length : Option Nat) → List Bytes → Progress Nat
  | _, [] => .fault .closed []
  | length, line :: later =>
    match readHeaderLine line with
    | .error fault => .fault fault later.flatten
    | .ok .blank =>
      match length with
      | some n => .done n later.flatten
      | none => .fault .missingLength later.flatten
    | .ok (.length n) => readLines (some n) later
    | .ok .other => readLines length later

/-- A header is read line by line. -/
theorem readHeaders_eq_readLines (length : Option Nat) (bytes : Bytes) :
    readHeaders true [] length bytes = readLines length (lines bytes) := by
  -- The first line goes up to a line feed or up to the end, so the induction is on the bytes behind it.
  induction size : bytes.length using Nat.strongRecOn generalizing length bytes with
  | ind n ih =>
    by_cases fed : 10 ∈ bytes
    · obtain ⟨inner, rest, rfl, open_⟩ := List.eq_append_cons_of_mem fed
      have shorter : rest.length < n := by
        rw [← size, List.length_append, List.length_cons]
        omega
      have again (declared : Option Nat) := ih rest.length shorter declared rest rfl
      rw [readHeaders_within true [] length open_, lines_feed open_, readLines.eq_def, List.append_nil,
        readHeaders.eq_def]
      dsimp only
      rw [if_pos rfl, List.reverse_cons, List.reverse_reverse, flatten_lines]
      cases readHeaderLine (inner ++ [10]) with
      | error fault => rfl
      | ok meaning =>
        cases meaning with
        | blank => rfl
        | length n => exact again (some n)
        | other => exact again length
    · cases bytes with
      | nil => rfl
      | cons b rest =>
        have within := readHeaders_within true [] length fed []
        rw [List.append_nil, List.append_nil] at within
        rw [within, lines_open fed (by simp), readLines.eq_def, readHeaders.eq_def]
        dsimp only
        rw [if_pos rfl, List.reverse_reverse, if_neg (by simp)]
        cases readHeaderLine (b :: rest) with
        | error fault => rfl
        | ok meaning => cases meaning <;> rfl

def IsFilled (line : Bytes) : Prop := ∃ c cs, trimmed? line = some (c :: cs)

/-- Of the lines before the blank one only the values of the lengths count. -/
theorem readLines_append {before : List Bytes} (filled : ∀ line ∈ before, IsFilled line) (length : Option Nat)
    (rest : List Bytes) :
    match (before.filterMap lengthValue?).foldlM declare length with
    | .ok declared => readLines length (before ++ rest) = readLines declared rest
    | .error fault => ∃ left, readLines length (before ++ rest) = .fault fault left := by
  induction before generalizing length with
  | nil => rfl
  | cons line before ih =>
    obtain ⟨⟨c, cs, text⟩, later⟩ := List.forall_mem_cons.1 filled
    have meaning := readHeaderLine_eq line
    rw [text] at meaning
    cases value : lengthValue? line with
    | none =>
      rw [value] at meaning
      simp only [List.filterMap_cons_none value, List.cons_append, readLines, meaning]
      exact ih later length
    | some value' =>
      rw [value] at meaning
      simp only [List.filterMap_cons_some value, List.foldlM_cons, List.cons_append, readLines, meaning, declare]
      cases Text.readUnsigned lengthLimit (Text.trimChars value') with
      | ok n => exact ih later (some n)
      | error fault => exact ⟨_, rfl⟩

private theorem foldlM_declare_concat (values : List (List Char)) (value : List Char) (declared : Option Nat) :
    (values ++ [value]).foldlM declare none = .ok declared ↔
      (∃ earlier, values.foldlM declare none = .ok earlier) ∧ ∃ n, IsLength value n ∧ declared = some n := by
  rw [List.foldlM_append]
  cases values.foldlM declare none with
  | error fault =>
    constructor
    · nofun
    · rintro ⟨⟨_, ⟨⟩⟩, -⟩
  | ok earlier =>
    change declare earlier value >>= pure = _ ↔ _
    rw [bind_pure, declare_eq_ok_iff]
    exact ⟨fun last => ⟨⟨earlier, rfl⟩, last⟩, And.right⟩

/-- Something is declared, or nothing for lack of a value, unless a value is no length. -/
theorem foldlM_declare_ok_iff (values : List (List Char)) :
    (∃ declared, values.foldlM declare none = .ok declared) ↔ ∀ value ∈ values, ∃ n, IsLength value n := by
  induction values using List.reverseRecOn with
  | nil => exact ⟨fun _ => by simp, fun _ => ⟨none, rfl⟩⟩
  | append_singleton values value ih =>
    simp only [foldlM_declare_concat, List.forall_mem_append, List.forall_mem_singleton, ← ih]
    constructor
    · rintro ⟨_, earlier, n, last, -⟩
      exact ⟨earlier, n, last⟩
    · rintro ⟨earlier, n, last⟩
      exact ⟨some n, earlier, n, last, rfl⟩

/-- What is declared is the last value, provided that all values are lengths. -/
theorem foldlM_declare_eq_some_iff {values : List (List Char)} {n : Nat} :
    values.foldlM declare none = .ok (some n) ↔
      (∀ value ∈ values, ∃ m, IsLength value m) ∧ ∃ value, values.getLast? = some value ∧ IsLength value n := by
  cases values using List.reverseRecOn with
  | nil =>
    constructor
    · nofun
    · rintro ⟨-, _, ⟨⟩, -⟩
  | append_singleton values value =>
    simp only [foldlM_declare_concat, foldlM_declare_ok_iff, List.forall_mem_append, List.forall_mem_singleton,
      List.getLast?_concat, Option.some.injEq]
    constructor
    · rintro ⟨earlier, m, last, rfl⟩
      exact ⟨⟨earlier, n, last⟩, value, rfl, last⟩
    · rintro ⟨⟨earlier, _⟩, _, rfl, last⟩
      exact ⟨earlier, n, last, rfl⟩

private theorem readLines_eq_done_iff {stream : List Bytes} {length : Option Nat} {n : Nat} {behind : Bytes} :
    readLines length stream = .done n behind ↔ ∃ before blank after, stream = before ++ blank :: after ∧
      trimmed? blank = some [] ∧ behind = after.flatten ∧ (∀ line ∈ before, IsFilled line) ∧
      (before.filterMap lengthValue?).foldlM declare length = .ok (some n) := by
  constructor
  · intro read
    induction stream generalizing length with
    | nil => contradiction
    | cons line later ih =>
      have meaning := readHeaderLine_eq line
      rw [readLines.eq_def] at read
      cases text : trimmed? line with
      | none =>
        rw [text] at meaning
        simp only [meaning] at read
        contradiction
      | some cs =>
        rw [text] at meaning
        cases cs with
        | nil =>
          simp only [meaning] at read
          cases length with
          | none => contradiction
          | some declared =>
            cases read
            exact ⟨[], line, later, rfl, text, rfl, by simp, rfl⟩
        | cons c cs =>
          have filled : IsFilled line := ⟨c, cs, text⟩
          cases value : lengthValue? line with
          | none =>
            simp only [meaning, value] at read
            obtain ⟨before, blank, after, rfl, ends, rest, others, declared⟩ := ih read
            refine ⟨line :: before, blank, after, rfl, ends, rest, List.forall_mem_cons.2 ⟨filled, others⟩, ?_⟩
            rwa [List.filterMap_cons_none value]
          | some value' =>
            simp only [meaning, value] at read
            cases number : Text.readUnsigned lengthLimit (Text.trimChars value') with
            | error fault =>
              simp only [number] at read
              contradiction
            | ok m =>
              simp only [number] at read
              obtain ⟨before, blank, after, rfl, ends, rest, others, declared⟩ := ih read
              refine ⟨line :: before, blank, after, rfl, ends, rest, List.forall_mem_cons.2 ⟨filled, others⟩, ?_⟩
              rw [List.filterMap_cons_some value, List.foldlM_cons, declare, number]
              exact declared
  · rintro ⟨before, blank, after, rfl, ends, rfl, filled, declared⟩
    have read := readLines_append filled length (blank :: after)
    rw [declared] at read
    have meaning := readHeaderLine_eq blank
    rw [ends] at meaning
    simp only [read, readLines, meaning]

/-- The stream begins with a header: the lines `before` the first blank one are texts, the lengths among
them are numbers, of which the last is `n`, and `behind` is what follows the blank line. -/
structure Headed (bytes : Bytes) (before : List Bytes) (n : Nat) (behind : Bytes) : Prop where
  ends : ∃ blank after, lines bytes = before ++ blank :: after ∧ trimmed? blank = some [] ∧
    behind = after.flatten
  first : ∀ line ∈ before, trimmed? line ≠ some []
  texts : ∀ line ∈ before, trimmed? line ≠ none
  lengths : ∀ line ∈ before, ∀ value, trimmed? line = some ("Content-Length:".toList ++ value) →
    ∃ m, IsLength value m
  last : ∃ value, (before.filterMap lengthValue?).getLast? = some value ∧ IsLength value n

theorem isFilled_iff {line : Bytes} : IsFilled line ↔ trimmed? line ≠ some [] ∧ trimmed? line ≠ none := by
  unfold IsFilled
  cases trimmed? line with
  | none => simp
  | some cs => cases cs <;> simp

theorem readHeaders_eq_done_iff {bytes : Bytes} {n : Nat} {behind : Bytes} :
    readHeaders true [] none bytes = .done n behind ↔ ∃ before, Headed bytes before n behind := by
  rw [readHeaders_eq_readLines, readLines_eq_done_iff]
  simp only [foldlM_declare_eq_some_iff, isFilled_iff, List.mem_filterMap, lengthValue?_eq_some_iff]
  constructor
  · rintro ⟨before, blank, after, split, blankEnd, rest, filled, numbers, last⟩
    exact ⟨before, ⟨blank, after, split, blankEnd, rest⟩, fun line inside => (filled line inside).1,
      fun line inside => (filled line inside).2,
      fun line inside value text => numbers value ⟨line, inside, text⟩, last⟩
  · rintro ⟨before, ⟨blank, after, split, blankEnd, rest⟩, first, texts, lengths, last⟩
    exact ⟨before, blank, after, split, blankEnd, rest, fun line inside => ⟨first line inside, texts line inside⟩,
      fun value ⟨line, inside, text⟩ => lengths line inside value text, last⟩

/-- A body is read where a header is in front of it and all of its bytes are there and are a text. -/
theorem next_eq_done_iff {bytes : Bytes} {body : String} {rest : Bytes} :
    next true bytes = .done body rest ↔ ∃ before n behind, Headed bytes before n behind ∧ n ≤ bufferLimit ∧
      n ≤ behind.length ∧ behind.take n = bytesOf body ∧ rest = behind.drop n := by
  have readBody (n : Nat) (behind : Bytes) : readBody true n behind = .done body rest ↔
      n ≤ bufferLimit ∧ n ≤ behind.length ∧ behind.take n = bytesOf body ∧ rest = behind.drop n := by
    unfold Frame.readBody
    split
    · next huge => exact ⟨nofun, fun fits => absurd huge (Nat.not_lt.2 fits.1)⟩
    · next fits =>
      split
      · next enough =>
        rw [← textOf?_eq_some]
        cases textOf? (behind.take n) with
        | none => simp
        | some text => simp [Nat.not_lt.1 fits, enough, eq_comm]
      · next short => simp [short]
  unfold next
  cases headers : readHeaders true [] none bytes with
  | done n behind =>
    rw [readBody]
    constructor
    · intro body
      obtain ⟨before, headed⟩ := readHeaders_eq_done_iff.1 headers
      exact ⟨before, n, behind, headed, body⟩
    · rintro ⟨before, m, behind', headed, body⟩
      have same := readHeaders_eq_done_iff.2 ⟨before, headed⟩
      rw [headers] at same
      cases same
      exact body
  | waiting | fault =>
    constructor
    · nofun
    · rintro ⟨before, m, behind', headed, -⟩
      have same := readHeaders_eq_done_iff.2 ⟨before, headed⟩
      rw [headers] at same
      contradiction

end Frame

end LanguageClient
