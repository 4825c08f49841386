import LanguageClient.Text.Blank
import LanguageClient.Text.Digits

/-! Decimal numbers and the blanks around them. What is read from the digits of a number is the
number, provided that it stays within the bound, and trimming finds the digits again where blanks
stand before or behind them. -/
namespace LanguageClient.Text

private theorem dropWhile_append_blank {blank : List Char} (core : List Char)
    (before : ∀ c ∈ blank, isBlank c = true)
    (first : ∀ c ∈ core.head?, isBlank c = false) :
    (blank ++ core).dropWhile isBlank = core := by
  rw [List.dropWhile_append_of_pos before]
  cases core with
  | nil => rfl
  | cons c rest => simp [first c (by simp)]

/-- Trimming takes away the blanks around a text that neither begins nor ends with one. -/
theorem trimChars_surrounded (left core right : List Char)
    (before : ∀ c ∈ left, isBlank c = true) (after : ∀ c ∈ right, isBlank c = true)
    (first : ∀ c ∈ core.head?, isBlank c = false) (last : ∀ c ∈ core.getLast?, isBlank c = false) :
    trimChars (left ++ core ++ right) = core := by
  cases core with
  | nil =>
    have blank : ∀ c ∈ left ++ right, isBlank c = true := fun c inside =>
      (List.mem_append.1 inside).elim (before c) (after c)
    have gone := dropWhile_append_blank [] blank (by simp)
    simp only [List.append_nil] at gone
    simp [trimChars, gone]
  | cons c rest =>
    have opened : (left ++ (c :: rest) ++ right).dropWhile isBlank = (c :: rest) ++ right := by
      rw [List.append_assoc]
      exact dropWhile_append_blank _ before (by simpa using first)
    have closed : ((c :: rest) ++ right).reverse.dropWhile isBlank = (c :: rest).reverse := by
      rw [List.reverse_append]
      exact dropWhile_append_blank _ (by simpa using after) (by simpa only [List.head?_reverse] using last)
    rw [trimChars, opened, closed, List.reverse_reverse]

/-- Blanks at the end are trimmed away with what is there already. -/
theorem trimChars_append_blank (cs : List Char) {blank : List Char} (after : ∀ c ∈ blank, isBlank c = true) :
    trimChars (cs ++ blank) = trimChars cs := by
  have gone : blank.dropWhile isBlank = [] := by simpa using dropWhile_append_blank [] after (by simp)
  unfold trimChars
  rw [List.dropWhile_append]
  split
  · next empty => rw [gone, List.isEmpty_iff.1 empty]
  · rw [List.reverse_append, List.dropWhile_append_of_pos (by simpa using after)]

theorem isDigit_eq (c : Char) : isDigit c = c.isDigit := by
  simp [isDigit, Char.isDigit, Char.le_def]

theorem isBlank_of_isDigit {c : Char} (digit : c.isDigit = true) : isBlank c = false := by
  simp only [Char.isDigit, Bool.and_eq_true, decide_eq_true_eq] at digit
  have value : 48 ≤ c.toNat ∧ c.toNat ≤ 57 := digit
  simp only [isBlank, Bool.or_eq_false_iff, Bool.and_eq_false_iff, decide_eq_false_iff_not]
  omega

theorem le_ofDigitChars (cs : List Char) (value : Nat) : value ≤ Nat.ofDigitChars 10 cs value := by
  induction cs generalizing value with
  | nil => simp
  | cons c rest ih =>
    rw [Nat.ofDigitChars_cons]
    exact Nat.le_trans (by omega) (ih _)

private theorem readDigits_ok {limit value : Nat} {cs : List Char} (digits : ∀ c ∈ cs, c.isDigit = true)
    (small : Nat.ofDigitChars 10 cs value ≤ limit) :
    readDigits limit value cs = .ok (Nat.ofDigitChars 10 cs value) := by
  induction cs generalizing value with
  | nil => simp [readDigits]
  | cons c rest ih =>
    have digit : isDigit c = true := by rw [isDigit_eq]; exact digits c (by simp)
    have step : Nat.ofDigitChars 10 (c :: rest) value = Nat.ofDigitChars 10 rest (value * 10 + digitValue c) := by
      rw [Nat.ofDigitChars_cons, Nat.mul_comm, digitValue]
    rw [step] at small ⊢
    have below : value * 10 + digitValue c ≤ limit := Nat.le_trans (le_ofDigitChars rest _) small
    rw [readDigits, if_pos digit, if_pos below]
    exact ih (fun d inside => digits d (by simp [inside])) small

/-- A number within the bound is read back from its decimal digits. -/
theorem readUnsigned_toDigits {limit n : Nat} (small : n ≤ limit) :
    readUnsigned limit (Nat.toDigits 10 n) = .ok n := by
  have digits : ∀ c ∈ Nat.toDigits 10 n, c.isDigit = true := fun c inside =>
    Nat.isDigit_of_mem_toDigits (by decide) (by decide) inside
  have within : Nat.ofDigitChars 10 (Nat.toDigits 10 n) 0 ≤ limit := by simpa using small
  have read := readDigits_ok digits within
  rw [Nat.ofDigitChars_ten_toDigits] at read
  cases shape : Nat.toDigits 10 n with
  | nil => exact absurd shape Nat.toDigits_ne_nil
  | cons c rest =>
    have notPlus : c ≠ '+' := by
      rintro rfl
      exact absurd (digits '+' (by simp [shape])) (by decide)
    rw [shape] at read
    unfold readUnsigned
    split
    · simp_all
    · simp_all
    · simp_all
    · exact read

private theorem readDigits_eq_ok_iff {limit value n : Nat} {cs : List Char} (within : value ≤ limit) :
    readDigits limit value cs = .ok n ↔
      (∀ c ∈ cs, c.isDigit = true) ∧ Nat.ofDigitChars 10 cs value = n ∧ n ≤ limit := by
  constructor
  · intro read
    induction cs generalizing value with
    | nil =>
      cases read
      exact ⟨by simp, by simp, within⟩
    | cons c rest ih =>
      unfold readDigits at read
      split at read
      · next digit =>
        split at read
        · next small =>
          obtain ⟨digits, worth, bound⟩ := ih small read
          refine ⟨List.forall_mem_cons.2 ⟨isDigit_eq c ▸ digit, digits⟩, ?_, bound⟩
          rw [Nat.ofDigitChars_cons, Nat.mul_comm]
          exact worth
        · contradiction
      · contradiction
  · rintro ⟨digits, rfl, bound⟩
    exact readDigits_ok digits bound

inductive IsDecimal (n : Nat) : List Char → Prop
  | plain {digits : List Char} (nonempty : digits ≠ []) (all : ∀ c ∈ digits, c.isDigit = true)
      (worth : Nat.ofDigitChars 10 digits 0 = n) : IsDecimal n digits
  | signed {digits : List Char} (nonempty : digits ≠ []) (all : ∀ c ∈ digits, c.isDigit = true)
      (worth : Nat.ofDigitChars 10 digits 0 = n) : IsDecimal n ('+' :: digits)

structure IsDigits (n : Nat) (cs : List Char) : Prop where
  nonempty : cs ≠ []
  all : ∀ c ∈ cs, c.isDigit = true
  worth : Nat.ofDigitChars 10 cs 0 = n

theorem IsDigits.isDecimal {n : Nat} {cs : List Char} (digits : IsDigits n cs) : IsDecimal n cs :=
  .plain digits.nonempty digits.all digits.worth

theorem isDigits_toDigits (n : Nat) : IsDigits n (Nat.toDigits 10 n) where
  nonempty := Nat.toDigits_ne_nil
  all _ inside := Nat.isDigit_of_mem_toDigits (by decide) (by decide) inside
  worth := Nat.ofDigitChars_ten_toDigits

/-- Just the decimal numbers within the bound are read, with zeros in front or without. -/
theorem readUnsigned_eq_ok_iff {limit n : Nat} {cs : List Char} :
    readUnsigned limit cs = .ok n ↔ IsDecimal n cs ∧ n ≤ limit := by
  constructor
  · intro read
    unfold readUnsigned at read
    split at read
    · contradiction
    · contradiction
    · next rest notAlone =>
      obtain ⟨all, worth, bound⟩ := (readDigits_eq_ok_iff (Nat.zero_le limit)).1 read
      exact ⟨.signed notAlone all worth, bound⟩
    · next digits _ _ =>
      obtain ⟨all, worth, bound⟩ := (readDigits_eq_ok_iff (Nat.zero_le limit)).1 read
      exact ⟨.plain ‹_› all worth, bound⟩
  · rintro ⟨decimal, bound⟩
    cases decimal with
    | plain nonempty all worth =>
      have read := (readDigits_eq_ok_iff (Nat.zero_le limit)).2 ⟨all, worth, bound⟩
      unfold readUnsigned
      split
      · contradiction
      -- A plus sign is no digit.
      · simp at all
      · simp at all
      · exact read
    | signed nonempty all worth =>
      have read := (readDigits_eq_ok_iff (Nat.zero_le limit)).2 ⟨all, worth, bound⟩
      unfold readUnsigned
      split <;> simp_all

private theorem readDigits_tooLarge {limit value : Nat} {cs : List Char} (digits : ∀ c ∈ cs, c.isDigit = true)
    (within : value ≤ limit) (beyond : limit < Nat.ofDigitChars 10 cs value) :
    readDigits limit value cs = .error .tooLarge := by
  induction cs generalizing value with
  | nil => exact absurd beyond (Nat.not_lt.2 within)
  | cons c rest ih =>
    obtain ⟨digit, later⟩ := List.forall_mem_cons.1 digits
    rw [Nat.ofDigitChars_cons, Nat.mul_comm] at beyond
    rw [readDigits, isDigit_eq, if_pos digit]
    split
    · next small => exact ih later small beyond
    · rfl

/-- A decimal number beyond the bound is refused as too large. -/
theorem readUnsigned_tooLarge {limit n : Nat} {cs : List Char} (decimal : IsDecimal n cs) (beyond : limit < n) :
    readUnsigned limit cs = .error .tooLarge := by
  cases decimal with
  | plain nonempty all worth =>
    have read := readDigits_tooLarge all (Nat.zero_le limit) (worth ▸ beyond)
    unfold readUnsigned
    split
    · contradiction
    -- A plus sign is no digit.
    · simp at all
    · simp at all
    · exact read
  | signed nonempty all worth =>
    have read := readDigits_tooLarge all (Nat.zero_le limit) (worth ▸ beyond)
    unfold readUnsigned
    split <;> simp_all

end LanguageClient.Text
