import LanguageClient.Json.Reader
import LanguageClient.Json.Printer
import LanguageClient.Proofs.Text.Number

/-! The tokens of JSON, read from their written form. A whole number is read back from its decimal
digits where no digit, point or exponent stands behind it, and a quoted text from its escaped
characters, whatever stands behind its closing quote. -/
namespace LanguageClient.Json

/-- What may stand behind a value: its end, the end of its line, or the mark that divides or closes. -/
def Ends (rest : List Char) : Prop := ∀ c ∈ rest.head?, c = ',' ∨ c = ']' ∨ c = '\x7d' ∨ c = '\n'

private theorem isAsciiDigit_eq (c : Char) : isAsciiDigit c = c.isDigit := by
  simp [isAsciiDigit, Char.isDigit, Char.le_def]

private theorem Ends.notDigit {rest : List Char} (ends : Ends rest) : ∀ c ∈ rest.head?, isAsciiDigit c = false := by
  intro c first
  rcases ends c first with rfl | rfl | rfl | rfl <;> rfl

private theorem takeDigits_append {digits rest : List Char} {value count : Nat}
    (all : ∀ c ∈ digits, c.isDigit = true) (behind : ∀ c ∈ rest.head?, isAsciiDigit c = false)
    (small : Nat.ofDigitChars 10 digits value < 0x10000000000000000) :
    takeDigits value count (digits ++ rest) =
      (Nat.ofDigitChars 10 digits value, count + digits.length, rest) := by
  induction digits generalizing value count with
  | nil =>
    cases rest with
    | nil => rfl
    | cons c rest => simp [takeDigits, behind c rfl]
  | cons c digits ih =>
    have digit : isAsciiDigit c = true := by rw [isAsciiDigit_eq]; exact all c List.mem_cons_self
    have next : Nat.ofDigitChars 10 (c :: digits) value =
        Nat.ofDigitChars 10 digits (value * 10 + digitOf c) := by
      rw [Nat.ofDigitChars_cons, Nat.mul_comm, digitOf]
    rw [next] at small ⊢
    have below := Nat.lt_of_le_of_lt (Text.le_ofDigitChars digits _) small
    rw [List.cons_append, takeDigits, digit, Bool.true_and, if_pos (by simpa using below),
      ih (fun d inside => all d (List.mem_cons_of_mem _ inside)) small]
    simp only [List.length_cons, Nat.add_assoc, Nat.add_comm 1]

private theorem skipDigits_of_notDigit {rest : List Char} (behind : ∀ c ∈ rest.head?, isAsciiDigit c = false) :
    skipDigits rest = (0, rest) := by
  cases rest with
  | nil => rfl
  | cons c rest => simp [skipDigits, behind c rfl]

/-- The digits of a positive number do not begin with a zero. -/
theorem toDigits_head {n : Nat} (positive : 0 < n) :
    ∃ c digits, Nat.toDigits 10 n = c :: digits ∧ c ≠ '0' := by
  induction n using Nat.strongRecOn with
  | _ n ih =>
    by_cases small : n < 10
    · refine ⟨n.digitChar, [], Nat.toDigits_of_lt_base small, ?_⟩
      have all : ∀ m < 10, 0 < m → m.digitChar ≠ '0' := by decide
      exact all n small positive
    · obtain ⟨c, digits, shape, notZero⟩ := ih (n / 10) (by omega) (by omega)
      refine ⟨c, digits ++ [(n % 10).digitChar], ?_, notZero⟩
      rw [Nat.toDigits_of_base_le (by decide) (by omega), shape, List.cons_append]

private theorem readNumberTail?_ends {rest : List Char} (ends : Ends rest) (negative : Bool) (digits : Nat) :
    readNumberTail? negative digits rest =
      (readNumberTail?.wholeOrDouble negative digits).map fun n => (n, rest) := by
  cases rest with
  | nil => rfl
  | cons c rest => rcases ends c rfl with rfl | rfl | rfl | rfl <;> rfl

private theorem readUnsigned?_toDigits {n : Nat} {rest : List Char} (ends : Ends rest) (negative : Bool)
    (small : n < 0x10000000000000000) : readUnsigned? negative (Nat.toDigits 10 n ++ rest) =
      (readNumberTail?.wholeOrDouble negative n).map fun number => (number, rest) := by
  by_cases zero : n = 0
  · subst zero
    rw [Nat.toDigits_zero, List.singleton_append]
    cases rest with
    | nil => rfl
    | cons c rest =>
      rw [readUnsigned?, if_neg (by simp [ends.notDigit c rfl]), readNumberTail?_ends ends]
  · have all : ∀ c ∈ Nat.toDigits 10 n, c.isDigit = true := fun c inside =>
      Nat.isDigit_of_mem_toDigits (by decide) (by decide) inside
    have taken := @takeDigits_append _ _ 0 0 all ends.notDigit (by simpa using small)
    rw [Nat.ofDigitChars_ten_toDigits] at taken
    obtain ⟨c, digits, shape, notZero⟩ := toDigits_head (Nat.pos_of_ne_zero zero)
    have digit : isAsciiDigit c = true := by rw [isAsciiDigit_eq]; exact all c (by simp [shape])
    rw [shape, List.cons_append] at taken ⊢
    unfold readUnsigned?
    split
    · next same => exact absurd (List.cons.inj same).1 notZero
    · next first _ _ same =>
      cases same
      rw [if_pos digit, taken]
      dsimp only
      rw [skipDigits_of_notDigit ends.notDigit]
      exact readNumberTail?_ends ends negative n
    · next same => contradiction

theorem toString_ofNat (n : Nat) : (toString (n : Int)).toList = Nat.toDigits 10 n := by
  change (toString n).toList = _
  rw [Nat.toString_eq_ofList_toDigits, String.toList_ofList]

theorem toString_neg {n : Nat} (positive : 0 < n) :
    (toString (-(n : Int))).toList = '-' :: Nat.toDigits 10 n := by
  obtain ⟨m, rfl⟩ := Nat.exists_eq_succ_of_ne_zero (Nat.ne_of_gt positive)
  change ("-" ++ toString (m + 1)).toList = _
  rw [String.toList_append, Nat.toString_eq_ofList_toDigits]
  simp

private theorem Whole.ofInt?_val (n : Whole) : Whole.ofInt? n.val = some n :=
  dif_pos ⟨n.lower, n.upper⟩

theorem Whole.val_cases (n : Whole) :
    (∃ m : Nat, n.val = m) ∨ ∃ m : Nat, 0 < m ∧ n.val = -(m : Int) := by
  by_cases sign : 0 ≤ n.val
  · exact .inl ⟨n.val.toNat, by omega⟩
  · exact .inr ⟨(-n.val).toNat, by omega, by omega⟩

/-- A whole number is read back from its text. -/
theorem readNumber?_text (n : Whole) {rest : List Char} (ends : Ends rest) :
    readNumber? ((toString n.val).toList ++ rest) = some (.whole n, rest) := by
  obtain ⟨m, unsigned⟩ | ⟨m, positive, signed⟩ := n.val_cases
  · have upper := n.upper
    have value : readNumberTail?.wholeOrDouble false m = some (.whole n) := by
      rw [readNumberTail?.wholeOrDouble, if_neg nofun, ← unsigned, n.ofInt?_val, Option.map_some]
    have read := readUnsigned?_toDigits ends false (n := m) (by omega)
    rw [value, Option.map_some] at read
    rw [unsigned, toString_ofNat]
    -- The digits do not begin with a sign.
    unfold readNumber?
    split
    · next after same =>
      have digit : ('-').isDigit = true :=
        Nat.isDigit_of_mem_toDigits (b := 10) (n := m) (by decide) (by decide) (by
          cases shape : Nat.toDigits 10 m with
          | nil => exact absurd shape Nat.toDigits_ne_nil
          | cons c digits =>
            rw [shape] at same
            cases same
            exact List.mem_cons_self)
      exact absurd digit (by decide)
    · exact read
  · have lower := n.lower
    have value : readNumberTail?.wholeOrDouble true m = some (.whole n) := by
      have fits : (decide (m ≠ 0) && decide (m ≤ 0x8000000000000000)) = true := by
        simp only [Bool.and_eq_true, decide_eq_true_eq]
        omega
      simp only [readNumberTail?.wholeOrDouble, if_true, fits, ← signed, n.ofInt?_val, Option.map_some]
    have read := readUnsigned?_toDigits ends true (n := m) (by omega)
    rw [value, Option.map_some] at read
    rw [signed, toString_neg positive]
    exact read

private theorem hexValue?_hexDigit : ∀ n < 16, hexValue? (hexDigit n) = some n := by decide

/-- A control character is read back from its number. The first digit is 0 or 1, the second one of
sixteen. -/
theorem readUnicode?_control {c : Char} (control : c.toNat < 32) (tail : List Char) :
    readUnicode? ('0' :: '0' :: hexDigit (c.toNat / 16) :: hexDigit (c.toNat % 16) :: tail) =
      some (c, tail) := by
  have first := hexValue?_hexDigit (c.toNat / 16) (by omega)
  have second := hexValue?_hexDigit (c.toNat % 16) (by omega)
  have zero : hexValue? '0' = some 0 := rfl
  have whole : ((0 * 16 + 0) * 16 + c.toNat / 16) * 16 + c.toNat % 16 = c.toNat := by omega
  have low : ¬ 0xDC00 ≤ c.toNat := by omega
  have high : ¬ 0xD800 ≤ c.toNat := by omega
  simp only [readUnicode?, readHex4?, zero, first, second, Option.bind_eq_bind, Option.bind_some,
    Option.pure_def, whole, low, high, decide_false, Bool.false_and, Bool.false_eq_true, if_false,
    Char.ofNat_toNat]

/-- A character is written as it is, or as an escape that is read as it. -/
theorem quoteChar_cases (c : Char) :
    (quoteChar c = [c] ∧ c ≠ '"' ∧ c ≠ '\\' ∧ ¬c.toNat < 32) ∨
      ∃ form, quoteChar c = '\\' :: form ∧ ∀ tail, readEscape? (form ++ tail) = some (c, tail) := by
  unfold quoteChar
  repeat' split
  · next same => exact .inr ⟨_, rfl, fun _ => by subst same; rfl⟩
  · next same => exact .inr ⟨_, rfl, fun _ => by subst same; rfl⟩
  · next same => exact .inr ⟨_, rfl, fun _ => by subst same; rfl⟩
  · next same => exact .inr ⟨_, rfl, fun _ => by subst same; rfl⟩
  · next same => exact .inr ⟨_, rfl, fun _ => by subst same; rfl⟩
  · next same =>
    have known : c = Char.ofNat 8 := by rw [← same, Char.ofNat_toNat]
    exact .inr ⟨_, rfl, fun _ => known ▸ rfl⟩
  · next same =>
    have known : c = Char.ofNat 12 := by rw [← same, Char.ofNat_toNat]
    exact .inr ⟨_, rfl, fun _ => known ▸ rfl⟩
  · next control => exact .inr ⟨_, rfl, readUnicode?_control control⟩
  · next notQuote notSlash _ _ _ _ _ plain => exact .inl ⟨rfl, notQuote, notSlash, plain⟩

/-- A character is read back from its written form. -/
theorem readString?_quoteChar (fuel : Nat) (read : List Char) (c : Char) (tail : List Char) :
    readString? (fuel + 1) read (quoteChar c ++ tail) = readString? fuel (c :: read) tail := by
  obtain ⟨shape, notQuote, notSlash, plain⟩ | ⟨form, shape, meant⟩ := quoteChar_cases c
  · rw [shape, List.singleton_append, readString?, if_neg notQuote, if_neg notSlash, if_neg plain]
  · rw [shape, List.cons_append, readString?, if_neg (by decide), if_pos rfl, meant]

private theorem readString?_quoted (cs : List Char) {fuel : Nat} (read rest : List Char) (long : cs.length < fuel) :
    readString? fuel read (cs.flatMap quoteChar ++ '"' :: rest) =
      some (String.ofList (read.reverse ++ cs), rest) := by
  induction cs generalizing fuel read with
  | nil =>
    obtain ⟨fuel, rfl⟩ := Nat.exists_eq_add_of_lt long
    simp [readString?]
  | cons c cs ih =>
    obtain ⟨fuel, rfl⟩ : ∃ more, fuel = more + 1 := ⟨fuel - 1, by omega⟩
    rw [List.flatMap_cons, List.append_assoc, readString?_quoteChar, ih (c :: read) (by simpa using long)]
    simp

private theorem length_quoteChar_pos (c : Char) : 0 < (quoteChar c).length := by
  unfold quoteChar
  repeat' split
  all_goals exact Nat.succ_pos _

private theorem length_le_quoted (cs : List Char) : cs.length ≤ (cs.flatMap quoteChar).length := by
  induction cs with
  | nil => exact Nat.le_refl 0
  | cons c cs ih =>
    have := length_quoteChar_pos c
    rw [List.flatMap_cons, List.length_append, List.length_cons]
    omega

/-- A text is read back from what stands behind its opening quote. -/
theorem readString?_quote (s : String) (rest : List Char) : ∃ cs, (quote s).toList ++ rest = '"' :: cs ∧
    readString? (cs.length + 1) [] cs = some (s, rest) := by
  refine ⟨s.toList.flatMap quoteChar ++ '"' :: rest, by simp [quote], ?_⟩
  have fits := length_le_quoted s.toList
  rw [readString?_quoted s.toList [] rest (by simp only [List.length_append]; omega), List.reverse_nil,
    List.nil_append, String.ofList_toList]

end LanguageClient.Json
