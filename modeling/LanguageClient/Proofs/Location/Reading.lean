import LanguageClient.Location
import LanguageClient.Proofs.Json.Record
import LanguageClient.Proofs.Text.Number

/-! Which texts are locations. A location is read just where its file, its line and its column are written as
they should be, and it is read back from its display. -/
namespace LanguageClient.Location

/-- A colon begins the text, and a digit or a minus sign follows it. -/
def BeginsPosition (cs : List Char) : Prop :=
  ∃ c rest, cs = ':' :: c :: rest ∧ (c.isDigit = true ∨ c = '-')

/-- The colon behind the file is the first of the text that a digit or a minus sign follows. -/
structure SplitsAt (cs file position : List Char) : Prop where
  whole : cs = file ++ ':' :: position
  begins : BeginsPosition (':' :: position)
  first : ∀ before after, cs = before ++ after → BeginsPosition after → file.length ≤ before.length

/-- A line and a column as they are written, the column with or without a plus sign; the first column need not
be written. -/
inductive IsPosition (line column : UInt32) : List Char → Prop
  | line {digits : List Char} (reads : Text.IsDigits line.toNat digits) (least : 1 ≤ line.toNat)
      (leftmost : column = 1) : IsPosition line column digits
  | column {digits more : List Char} (reads : Text.IsDigits line.toNat digits) (least : 1 ≤ line.toNat)
      (reads' : Text.IsDecimal column.toNat more) (least' : 1 ≤ column.toNat) :
      IsPosition line column (digits ++ ':' :: more)

structure Legible (l : Location) : Prop where
  line : 1 ≤ l.line.toNat
  column : 1 ≤ l.column.toNat
  named : l.file ≠ ""
  unindented : ∀ c ∈ l.file.toList.head?, Text.isBlank c = false
  unmarked : ∀ before after, l.file.toList = before ++ after → ¬ BeginsPosition after

private theorem beginsPosition_iff {c : Char} {rest : List Char} :
    BeginsPosition (':' :: c :: rest) ↔ (Text.isDigit c || decide (c = '-')) = true := by
  rw [Text.isDigit_eq, Bool.or_eq_true, decide_eq_true_eq]
  constructor
  · rintro ⟨d, more, same, marks⟩
    cases same
    exact marks
  · exact fun marks => ⟨c, rest, rfl, marks⟩

private theorem splitAtPosition?_begins {c : Char} {rest : List Char} (begins : BeginsPosition (':' :: c :: rest)) :
    splitAtPosition? (':' :: c :: rest) = some ([], c :: rest) := by
  rw [splitAtPosition?, if_pos (beginsPosition_iff.1 begins)]

private theorem splitAtPosition?_cons {c : Char} {rest : List Char} (other : ¬ BeginsPosition (c :: rest)) :
    splitAtPosition? (c :: rest) =
      (splitAtPosition? rest).map fun (file, position) => (c :: file, position) := by
  rw [splitAtPosition?.eq_def]
  split
  · contradiction
  · next same =>
    cases same
    rw [if_neg fun marks => other (beginsPosition_iff.2 marks)]
  · next same =>
    cases same
    rfl

/-- Cutting finds the first colon that begins a position, and fails only where there is none. -/
theorem splitAtPosition?_cases (cs : List Char) :
    (splitAtPosition? cs = none ∧ ∀ before after, cs = before ++ after → ¬ BeginsPosition after) ∨
    ∃ file position, splitAtPosition? cs = some (file, position) ∧ SplitsAt cs file position := by
  induction cs with
  | nil =>
    refine .inl ⟨rfl, ?_⟩
    rintro before after empty ⟨c, rest, rfl, -⟩
    simp at empty
  | cons c cs ih =>
    by_cases begins : BeginsPosition (c :: cs)
    · obtain ⟨d, rest, same, -⟩ := id begins
      cases same
      exact .inr ⟨[], d :: rest, splitAtPosition?_begins begins, rfl, begins, fun _ _ _ _ => Nat.zero_le _⟩
    · have later {before after : List Char} (split : c :: cs = before ++ after) (starts : BeginsPosition after) :
          ∃ before', before = c :: before' ∧ cs = before' ++ after := by
        cases before with
        | nil => exact absurd (split ▸ starts) begins
        | cons d before' =>
          cases split
          exact ⟨before', rfl, rfl⟩
      rw [splitAtPosition?_cons begins]
      rcases ih with ⟨uncut, absent⟩ | ⟨file, position, found, splits⟩
      · refine .inl ⟨by rw [uncut]; rfl, fun before after split starts => ?_⟩
        obtain ⟨before', -, shorter⟩ := later split starts
        exact absent before' after shorter starts
      · refine .inr ⟨c :: file, position, by rw [found]; rfl, ?_, splits.begins, ?_⟩
        · rw [splits.whole]
          rfl
        · intro before after split starts
          obtain ⟨before', rfl, shorter⟩ := later split starts
          exact Nat.succ_le_succ (splits.first before' after shorter starts)

private theorem SplitsAt.unique {cs file position file' position' : List Char} (splits : SplitsAt cs file position)
    (splits' : SplitsAt cs file' position') : file = file' ∧ position = position' := by
  have one := splits.first file' _ splits'.whole splits'.begins
  have two := splits'.first file _ splits.whole splits.begins
  obtain ⟨same, rest⟩ := List.append_inj (splits.whole.symm.trans splits'.whole) (Nat.le_antisymm one two)
  exact ⟨same, (List.cons.inj rest).2⟩

private theorem splitAtPosition?_eq_some_iff {cs file position : List Char} :
    splitAtPosition? cs = some (file, position) ↔ SplitsAt cs file position := by
  rcases splitAtPosition?_cases cs with ⟨uncut, absent⟩ | ⟨file', position', found, splits'⟩
  · rw [uncut]
    exact iff_of_false nofun fun splits => absent file _ splits.whole splits.begins
  · rw [found]
    constructor
    · intro same
      cases same
      exact splits'
    · intro splits
      obtain ⟨rfl, rfl⟩ := splits.unique splits'
      rfl

private theorem toNat_ofNat_le {n : Nat} (small : n ≤ limit) : (UInt32.ofNat n).toNat = n :=
  UInt32.toNat_ofNat_of_lt' (Nat.lt_succ_of_le small)

/-- Numbers that have been read are a line and a column unless one of them is zero. -/
theorem position_eq_ok_iff (line column : UInt32) {n m : Nat} (small : n ≤ limit) (small' : m ≤ limit) :
    (if n = 0 then .error .zeroLine else if m = 0 then .error .zeroColumn
      else .ok (UInt32.ofNat n, UInt32.ofNat m) : Except LocationError (UInt32 × UInt32)) = .ok (line, column) ↔
      n = line.toNat ∧ m = column.toNat ∧ 1 ≤ line.toNat ∧ 1 ≤ column.toNat := by
  have line_eq := toNat_ofNat_le small
  have column_eq := toNat_ofNat_le small'
  constructor
  · intro read
    split at read
    · contradiction
    · split at read
      · contradiction
      · cases read
        omega
  · rintro ⟨rfl, rfl, least, least'⟩
    rw [if_neg (by omega), if_neg (by omega), UInt32.ofNat_toNat, UInt32.ofNat_toNat]

/-- What stands before the first colon is the line; the column follows the colon, if there is one. -/
theorem cut_digits {digits : List Char} (before : ':' ∉ digits) (tail : List Char)
    (cut : ∀ c ∈ tail.head?, c = ':') :
    (digits ++ tail).takeWhile (· ≠ ':') = digits ∧ (digits ++ tail).dropWhile (· ≠ ':') = tail := by
  have each : ∀ c ∈ digits, decide (c ≠ ':') = true := by
    intro c inside
    exact decide_eq_true fun same => before (same ▸ inside)
  rw [List.takeWhile_append_of_pos each, List.dropWhile_append_of_pos each]
  cases tail with
  | nil => simp
  | cons c more =>
    obtain rfl := cut c rfl
    simp

/-- Without a colon a line is read alone. -/
theorem readPosition_line {digits : List Char} (line column : UInt32) (alone : ':' ∉ digits) :
    readPosition digits = .ok (line, column) ↔
      Text.readUnsigned limit digits = .ok line.toNat ∧ 1 ≤ line.toNat ∧ column = 1 := by
  obtain ⟨front, back⟩ := cut_digits alone [] nofun
  rw [List.append_nil] at front back
  simp only [readPosition, front, back]
  cases read : Text.readUnsigned limit digits with
  | error fault => exact iff_of_false nofun fun h => nomatch h.1
  | ok n =>
    refine (position_eq_ok_iff line column (Text.readUnsigned_eq_ok_iff.1 read).2 (by decide)).trans ?_
    constructor
    · rintro ⟨rfl, one, least, -⟩
      exact ⟨rfl, least, UInt32.toNat_inj.1 one.symm⟩
    · rintro ⟨same, least, rfl⟩
      cases same
      exact ⟨rfl, rfl, least, by decide⟩

/-- With a colon a line and a column are read. -/
theorem readPosition_column {digits more : List Char} (line column : UInt32) (before : ':' ∉ digits) :
    readPosition (digits ++ ':' :: more) = .ok (line, column) ↔
      Text.readUnsigned limit digits = .ok line.toNat ∧ Text.readUnsigned limit more = .ok column.toNat ∧
        1 ≤ line.toNat ∧ 1 ≤ column.toNat := by
  obtain ⟨front, back⟩ := cut_digits before (':' :: more) (by simp)
  simp only [readPosition, front, back]
  cases read : Text.readUnsigned limit digits with
  | error fault => exact iff_of_false nofun fun h => nomatch h.1
  | ok n =>
    cases read' : Text.readUnsigned limit more with
    | error fault => exact iff_of_false nofun fun h => nomatch h.2.1
    | ok m =>
      refine (position_eq_ok_iff line column (Text.readUnsigned_eq_ok_iff.1 read).2
        (Text.readUnsigned_eq_ok_iff.1 read').2).trans ?_
      rw [Except.ok.injEq, Except.ok.injEq]

private theorem colon_notMem {digits : List Char} (all : ∀ c ∈ digits, c.isDigit = true) : ':' ∉ digits :=
  fun inside => absurd (all ':' inside) (by decide)

private theorem toNat_le_limit (n : UInt32) : n.toNat ≤ limit :=
  Nat.le_of_lt_succ n.toNat_lt

/-- What begins with a digit is read as a position just if it is written as one. -/
theorem readPosition_eq_ok_iff {cs : List Char} (line column : UInt32) (signless : cs.head? ≠ some '+') :
    readPosition cs = .ok (line, column) ↔ IsPosition line column cs := by
  have digits {part : List Char} (starts : part.head? ≠ some '+')
      (read : Text.readUnsigned limit part = .ok line.toNat) : Text.IsDigits line.toNat part := by
    cases (Text.readUnsigned_eq_ok_iff.1 read).1 with
    | plain nonempty all worth => exact ⟨nonempty, all, worth⟩
    | signed => exact absurd rfl starts
  constructor
  · intro read
    by_cases colon : ':' ∈ cs
    · obtain ⟨front, more, rfl, before⟩ := List.eq_append_cons_of_mem colon
      obtain ⟨read, read', least, least'⟩ := (readPosition_column line column before).1 read
      have starts : front.head? ≠ some '+' := by
        cases front with
        | nil => exact nofun
        | cons c front => exact signless
      exact .column (digits starts read) least (Text.readUnsigned_eq_ok_iff.1 read').1 least'
    · obtain ⟨read, least, leftmost⟩ := (readPosition_line line column colon).1 read
      exact .line (digits signless read) least leftmost
  · intro written
    cases written with
    | line reads least leftmost =>
      exact (readPosition_line line column (colon_notMem reads.all)).2
        ⟨Text.readUnsigned_eq_ok_iff.2 ⟨reads.isDecimal, toNat_le_limit line⟩, least, leftmost⟩
    | column reads least reads' least' =>
      exact (readPosition_column line column (colon_notMem reads.all)).2
        ⟨Text.readUnsigned_eq_ok_iff.2 ⟨reads.isDecimal, toNat_le_limit line⟩,
          Text.readUnsigned_eq_ok_iff.2 ⟨reads', toNat_le_limit column⟩, least, least'⟩

private theorem IsPosition.digit_first {cs : List Char} {line column : UInt32}
    (written : IsPosition line column cs) :
    ∃ c rest, cs = c :: rest ∧ c.isDigit = true := by
  cases written with
  | line reads =>
    obtain ⟨c, rest, rfl⟩ := List.exists_cons_of_ne_nil reads.nonempty
    exact ⟨c, rest, rfl, reads.all c (by simp)⟩
  | column reads =>
    obtain ⟨c, rest, rfl⟩ := List.exists_cons_of_ne_nil reads.nonempty
    exact ⟨c, _, rfl, reads.all c (by simp)⟩

private theorem SplitsAt.signless {cs file position : List Char} (splits : SplitsAt cs file position) :
    position.head? ≠ some '+' := by
  obtain ⟨c, rest, same, marks⟩ := splits.begins
  cases same
  rintro ⟨⟩
  exact absurd marks (by decide)

/-- A text is read as a location just if, but for the blanks around it, it is written as one. -/
theorem parse_eq_ok_iff {text : String} {l : Location} :
    parse text = .ok l ↔ ∃ position, SplitsAt (Text.trimChars text.toList) l.file.toList position ∧
      l.file ≠ "" ∧ IsPosition l.line l.column position := by
  unfold parse
  generalize Text.trimChars text.toList = cs
  split
  · refine iff_of_false nofun ?_
    rintro ⟨position, splits, -⟩
    simpa using splits.whole
  · split
    · next uncut =>
      refine iff_of_false nofun ?_
      rintro ⟨position, splits, -⟩
      rw [splitAtPosition?_eq_some_iff.2 splits] at uncut
      contradiction
    · next found =>
      refine iff_of_false nofun ?_
      rintro ⟨position, splits, -, written⟩
      obtain ⟨-, rfl⟩ := splits.unique (splitAtPosition?_eq_some_iff.1 found)
      obtain ⟨c, rest, same, digit⟩ := written.digit_first
      cases same
      contradiction
    · next found =>
      refine iff_of_false nofun ?_
      rintro ⟨position, splits, named, -⟩
      obtain ⟨unnamed, -⟩ := splits.unique (splitAtPosition?_eq_some_iff.1 found)
      exact named (String.toList_inj.1 unnamed)
    · next file position _ named found =>
      have splits := splitAtPosition?_eq_some_iff.1 found
      rw [Json.map_eq_ok_iff]
      constructor
      · rintro ⟨⟨line, column⟩, read, rfl⟩
        rw [readPosition_eq_ok_iff line column splits.signless] at read
        refine ⟨position, by rwa [String.toList_ofList], fun unnamed => named ?_, read⟩
        simpa using congrArg String.toList unnamed
      · rintro ⟨position', splits', -, written⟩
        obtain ⟨same, rfl⟩ := splits'.unique splits
        refine ⟨(l.line, l.column), (readPosition_eq_ok_iff _ _ splits.signless).2 written, ?_⟩
        rw [← same, String.ofList_toList]

private theorem toList_display (l : Location) :
    l.display.toList = l.file.toList ++ ':' :: (Nat.toDigits 10 l.line.toNat ++
      ':' :: Nat.toDigits 10 l.column.toNat) := by
  have shown (n : UInt32) : (toString n).toList = Nat.toDigits 10 n.toNat := by
    change (toString n.toNat).toList = _
    rw [Nat.toString_eq_ofList_toDigits, String.toList_ofList]
  simp [display, shown]

/-- What is left of a text by trimming does not begin with a blank. -/
theorem trimChars_head (cs : List Char) : ∀ c ∈ (Text.trimChars cs).head?, Text.isBlank c = false := by
  intro c first
  have rest : Text.trimChars cs <+: cs.dropWhile Text.isBlank := by
    have ending := List.dropWhile_suffix (l := (cs.dropWhile Text.isBlank).reverse) Text.isBlank
    rw [← List.reverse_prefix, List.reverse_reverse] at ending
    exact ending
  obtain ⟨trimmed, same⟩ := List.head?_eq_some_iff.1 first
  have opens : (cs.dropWhile Text.isBlank).head? = some c := by
    obtain ⟨more, whole⟩ := rest
    rw [← whole, same]
    rfl
  have head := List.head?_dropWhile_not Text.isBlank cs
  rw [opens] at head
  exact head

/-- The display of a legible location begins and ends with no blank. -/
theorem Legible.trimChars_display {l : Location} (legible : Legible l) :
    Text.trimChars l.display.toList = l.display.toList := by
  have first : ∀ c ∈ l.display.toList.head?, Text.isBlank c = false := by
    intro c inside
    obtain ⟨d, rest, file⟩ := List.exists_cons_of_ne_nil (l := l.file.toList) (by simpa using legible.named)
    refine legible.unindented c ?_
    rw [toList_display, file] at inside
    rw [file]
    exact inside
  have last : ∀ c ∈ l.display.toList.getLast?, Text.isBlank c = false := by
    intro c inside
    have digit : c ∈ (Nat.toDigits 10 l.column.toNat).getLast? := by
      simpa [toList_display, List.getLast?_cons, List.getLast?_eq_some_getLast Nat.toDigits_ne_nil] using inside
    exact Text.isBlank_of_isDigit ((Text.isDigits_toDigits _).all c (List.mem_of_getLast? digit))
  have trimmed := Text.trimChars_surrounded [] l.display.toList [] nofun nofun first last
  rwa [List.nil_append, List.append_nil] at trimmed

private theorem BeginsPosition.append {cs : List Char} (begins : BeginsPosition cs) (more : List Char) :
    BeginsPosition (cs ++ more) := by
  obtain ⟨c, rest, rfl, marks⟩ := begins
  exact ⟨c, rest ++ more, rfl, marks⟩

/-- A colon behind a text does not make a position of its last character. -/
theorem BeginsPosition.of_append {cs more : List Char} (begins : BeginsPosition (cs ++ ':' :: more))
    (nonempty : cs ≠ []) : BeginsPosition cs := by
  obtain ⟨c, rest, same, marks⟩ := begins
  match cs, nonempty with
  | [d], _ =>
    cases same
    exact absurd marks (by decide)
  | d :: d' :: cs, _ =>
    cases same
    exact ⟨c, cs, rfl, marks⟩

/-- The first colon of a display that begins a position is the one behind the file. -/
theorem Legible.splitsAt_display {l : Location} (legible : Legible l) :
    SplitsAt l.display.toList l.file.toList
      (Nat.toDigits 10 l.line.toNat ++ ':' :: Nat.toDigits 10 l.column.toNat) where
  whole := toList_display l
  begins := by
    have digits := Text.isDigits_toDigits l.line.toNat
    obtain ⟨c, rest, same⟩ := List.exists_cons_of_ne_nil digits.nonempty
    exact ⟨c, _, by rw [same]; rfl, .inl (digits.all c (by simp [same]))⟩
  first before after split begins := by
    rw [toList_display] at split
    rcases List.append_eq_append_iff.1 split with ⟨between, outside, -⟩ | ⟨between, inside, behind⟩
    · rw [outside, List.length_append]
      exact Nat.le_add_right _ _
    · rw [behind] at begins
      by_cases empty : between = []
      · exact Nat.le_of_eq (by rw [inside, empty, List.append_nil])
      · exact absurd (begins.of_append empty) (legible.unmarked before between inside)

private theorem Legible.parse_display {l : Location} (legible : Legible l) : parse l.display = .ok l := by
  refine parse_eq_ok_iff.2 ⟨_, ?_, legible.named, .column (Text.isDigits_toDigits _) legible.line
    (Text.isDigits_toDigits _).isDecimal legible.column⟩
  rw [legible.trimChars_display]
  exact legible.splitsAt_display

/-- A location that has been read from a text is legible. -/
theorem legible_of_parse {text : String} {l : Location} (read : parse text = .ok l) : Legible l := by
  obtain ⟨position, splits, named, written⟩ := parse_eq_ok_iff.1 read
  refine ⟨?_, ?_, named, ?_, ?_⟩
  · cases written with
    | line _ least | column _ least => exact least
  · cases written with
    | line _ _ leftmost => exact leftmost ▸ by decide
    | column _ _ _ least' => exact least'
  · intro c inside
    refine trimChars_head text.toList c ?_
    rw [splits.whole, List.head?_append, inside]
    rfl
  · intro before after file begins
    have whole := splits.whole
    rw [file, List.append_assoc] at whole
    have short := splits.first before _ whole (begins.append _)
    obtain ⟨c, rest, rfl, -⟩ := begins
    rw [file, List.length_append, List.length_cons] at short
    omega

/-- A text is read as a location just if the trimmed text is the file, a colon and the position, where this
colon is the first that a digit or a minus sign follows. So every location that has been read is read again from
its display, and so is each that has a line, a column and a file whose name does not look like a position or
begin with a blank. -/
theorem parse_written :
    (∀ (text : String) (l : Location), parse text = .ok l ↔
      ∃ position, SplitsAt (Text.trimChars text.toList) l.file.toList position ∧ l.file ≠ "" ∧
        IsPosition l.line l.column position) ∧
    (∀ (text : String) (l : Location), parse text = .ok l → parse l.display = .ok l) ∧
    ∀ l : Location, 1 ≤ l.line.toNat → 1 ≤ l.column.toNat → l.file ≠ "" →
      (∀ c ∈ l.file.toList.head?, Text.isBlank c = false) →
      (∀ before after, l.file.toList = before ++ after → ¬ BeginsPosition after) → parse l.display = .ok l :=
  ⟨fun _ _ => parse_eq_ok_iff, fun _ _ read => (legible_of_parse read).parse_display,
    fun _ line column named unindented unmarked =>
      Legible.parse_display ⟨line, column, named, unindented, unmarked⟩⟩

/-- A file with colons in it and one at its end, and positions as people may write them. -/
theorem parse_written_colons :
    parse " dir:x/É:.lean::007:+3\n" = .ok ⟨"dir:x/É:.lean:", 7, 3⟩ ∧
    parse "dir:x/É:.lean::7:3" = .ok ⟨"dir:x/É:.lean:", 7, 3⟩ ∧
    (∃ position, SplitsAt "dir:x/É:.lean::007:+3".toList "dir:x/É:.lean:".toList position ∧
      IsPosition 7 3 position) ∧
    parse (⟨": ", 4294967295, 1⟩ : Location).display = .ok ⟨": ", 4294967295, 1⟩ := by
  obtain ⟨written, again, back⟩ := parse_written
  have read : parse " dir:x/É:.lean::007:+3\n" = .ok ⟨"dir:x/É:.lean:", 7, 3⟩ := rfl
  have shown : (⟨"dir:x/É:.lean:", 7, 3⟩ : Location).display = "dir:x/É:.lean::7:3" := by decide +kernel
  have trimmed : Text.trimChars " dir:x/É:.lean::007:+3\n".toList = "dir:x/É:.lean::007:+3".toList := by
    decide +kernel
  refine ⟨read, shown ▸ again _ _ read, ?_, back _ (by decide) (by decide) (by decide) ?_ ?_⟩
  · obtain ⟨position, splits, -, placed⟩ := (written _ _).1 read
    rw [trimmed] at splits
    exact ⟨position, splits, placed⟩
  · rintro c ⟨⟩
    decide
  · rintro before after split ⟨c, rest, rfl, marks⟩
    obtain ⟨-, rfl, -⟩ : before = [] ∧ c = ' ' ∧ rest = [] := by simpa [List.cons_eq_append_iff] using split
    exact absurd marks (by decide)

end LanguageClient.Location
