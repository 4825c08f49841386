import LanguageClient.Proofs.Json.Rounding
import LanguageClient.Proofs.Json.Tokens

/-! How numbers are written. A numeral has digits before the point, digits behind it and a power of ten, of
which the last two may be missing. A whole number is written with its own value, and a double with a size
that rounds to it. -/
namespace LanguageClient.Json

open Text (IsDigits isDigits_toDigits)

inductive IsWholePart : List Char → Prop
  | zero : IsWholePart ['0']
  | positive {c : Char} {more : List Char} (nonzero : c ≠ '0') (all : ∀ d ∈ c :: more, d.isDigit = true) :
      IsWholePart (c :: more)

/-- The digits behind a point, and the text of both; the point is left out when there are none. -/
inductive IsFraction : List Char → List Char → Prop
  | none : IsFraction [] []
  | some (digits : List Char) (nonempty : digits ≠ []) (all : ∀ d ∈ digits, d.isDigit = true) :
      IsFraction digits ('.' :: digits)

inductive IsExponent : Int → List Char → Prop
  | none : IsExponent 0 []
  | positive {n : Nat} {digits : List Char} (mark : List Char)
      (marked : mark ∈ [['e'], ['E'], ['e', '+'], ['E', '+']]) (isDigits : IsDigits n digits) :
      IsExponent n (mark ++ digits)
  | negative {n : Nat} {digits : List Char} (mark : List Char) (marked : mark ∈ [['e', '-'], ['E', '-']])
      (isDigits : IsDigits n digits) : IsExponent (-n) (mark ++ digits)

/-- The characters write a number without a sign: the digits on both sides of the point, as one number, times
the power of ten that is left when the point is taken away. -/
inductive IsUnsigned : ℚ → List Char → Prop
  | mk {whole fraction point mark : List Char} {exponent : Int} (wholePart : IsWholePart whole)
      (fractional : IsFraction fraction point) (powered : IsExponent exponent mark) :
      IsUnsigned (Nat.ofDigitChars 10 (whole ++ fraction) 0 * 10 ^ (exponent - fraction.length))
        (whole ++ point ++ mark)

def IsNumeral (negative : Bool) (size : ℚ) (cs : List Char) : Prop :=
  ∃ body, IsUnsigned size body ∧ cs = (if negative then ['-'] else []) ++ body

/-- The characters write a JSON number: a whole number by its value, a double by a size that rounds to it. -/
inductive Number.IsWrittenAs : Number → List Char → Prop
  | whole {n : Whole} {size : ℚ} {cs : List Char} (negative : Bool) (numeral : IsNumeral negative size cs)
      (value : (n.val : ℚ) = if negative then -size else size) : IsWrittenAs (.whole n) cs
  | double {x : Double} {size : ℚ} {cs : List Char} (numeral : IsNumeral x.isNegative size cs)
      (rounds : x.Rounds size) : IsWrittenAs (.double x) cs

private theorem IsUnsigned.of_parts {whole fraction point mark cs : List Char} {exponent : Int} {size : ℚ}
    (wholePart : IsWholePart whole) (fractional : IsFraction fraction point) (powered : IsExponent exponent mark)
    (value : Nat.ofDigitChars 10 (whole ++ fraction) 0 * 10 ^ (exponent - fraction.length) = size)
    (text : whole ++ point ++ mark = cs) : IsUnsigned size cs :=
  value ▸ text ▸ .mk wholePart fractional powered

private theorem isWholePart_toDigits (n : Nat) : IsWholePart (Nat.toDigits 10 n) := by
  rcases Nat.eq_zero_or_pos n with rfl | positive
  · exact .zero
  · obtain ⟨c, more, shape, nonzero⟩ := toDigits_head positive
    rw [shape]
    exact .positive nonzero (shape ▸ (isDigits_toDigits n).all)

private theorem isUnsigned_toDigits (n : Nat) : IsUnsigned n (Nat.toDigits 10 n) :=
  .of_parts (isWholePart_toDigits n) .none .none (by simp) (by simp)

private theorem Whole.isWrittenAs (n : Whole) : (Number.whole n).IsWrittenAs (toString n.val).toList := by
  obtain ⟨m, unsigned⟩ | ⟨m, positive, signed⟩ := n.val_cases
  · rw [unsigned, toString_ofNat]
    exact .whole false ⟨_, isUnsigned_toDigits m, rfl⟩ (by simp [unsigned])
  · rw [signed, toString_neg positive]
    exact .whole true ⟨_, isUnsigned_toDigits m, rfl⟩ (by simp [signed])

namespace Double

private theorem isDigit_zeros (count : Nat) : ∀ d ∈ List.replicate count '0', d.isDigit = true :=
  fun _ zero => List.eq_of_mem_replicate zero ▸ rfl

private theorem isDigits_padded (count n : Nat) : IsDigits n (List.replicate count '0' ++ Nat.toDigits 10 n) where
  nonempty := by simp [Nat.toDigits_ne_nil]
  all := List.forall_mem_append.2 ⟨isDigit_zeros count, (isDigits_toDigits n).all⟩
  worth := by simp [Nat.ofDigitChars_append]

private theorem isExponent_exponentText (exponent : Int) : IsExponent exponent ('e' :: exponentText exponent) := by
  have digits := isDigits_padded (2 - (Nat.toDigits 10 exponent.natAbs).length) exponent.natAbs
  unfold exponentText
  split
  · next negative =>
    have written := IsExponent.negative ['e', '-'] (by simp) digits
    rwa [Int.ofNat_natAbs_of_nonpos (by omega), neg_neg] at written
  · next positive =>
    have written := IsExponent.positive ['e', '+'] (by simp) digits
    rwa [Int.natAbs_of_nonneg (by omega)] at written

section Layout

-- The four ways to lay out digits. The first of them is no zero.
variable {c : Char} {more : List Char} (nonzero : c ≠ '0') (all : ∀ d ∈ c :: more, d.isDigit = true)

include nonzero all

private theorem isUnsigned_large (n : Nat) : IsUnsigned (Nat.ofDigitChars 10 (c :: more) 0 * 10 ^ (n : Int))
    (c :: more ++ List.replicate n '0' ++ ['.', '0']) := by
  have digits : ∀ d ∈ c :: (more ++ List.replicate n '0'), d.isDigit = true := by
    rw [← List.cons_append, List.forall_mem_append]
    exact ⟨all, isDigit_zeros n⟩
  have worth : Nat.ofDigitChars 10 (c :: (more ++ List.replicate n '0') ++ ['0']) 0 =
      Nat.ofDigitChars 10 (c :: more) 0 * 10 ^ n * 10 := by
    rw [← List.cons_append, Nat.ofDigitChars_append, Nat.ofDigitChars_append, Nat.ofDigitChars_replicate_zero,
      Nat.ofDigitChars_cons, Nat.ofDigitChars_nil, Nat.sub_self]
    ring
  refine .of_parts (.positive nonzero digits) (.some ['0'] (by simp) (by simp)) .none ?_ (by simp)
  rw [worth]
  simp

private theorem isUnsigned_split {n : Nat} (inside : n < more.length) :
    IsUnsigned (Nat.ofDigitChars 10 (c :: more) 0 * 10 ^ ((n : Int) - more.length))
      (c :: more.take n ++ '.' :: more.drop n) := by
  obtain ⟨before, behind⟩ : (∀ d ∈ c :: more.take n, d.isDigit = true) ∧ ∀ d ∈ more.drop n, d.isDigit = true := by
    rw [← List.forall_mem_append, List.cons_append, List.take_append_drop]
    exact all
  refine .of_parts (.positive nonzero before) (.some _ (by simpa using inside) behind) .none ?_ (by simp)
  rw [List.cons_append, List.take_append_drop, List.length_drop, Nat.cast_sub inside.le]
  congr 2
  omega

omit nonzero in
private theorem isUnsigned_small (n : Nat) :
    IsUnsigned (Nat.ofDigitChars 10 (c :: more) 0 * 10 ^ (-(n + (c :: more).length : Nat) : Int))
      ('0' :: '.' :: (List.replicate n '0' ++ c :: more)) := by
  have digits : ∀ d ∈ List.replicate n '0' ++ c :: more, d.isDigit = true :=
    List.forall_mem_append.2 ⟨isDigit_zeros n, all⟩
  have worth : Nat.ofDigitChars 10 (['0'] ++ (List.replicate n '0' ++ c :: more)) 0 =
      Nat.ofDigitChars 10 (c :: more) 0 := by
    rw [Nat.ofDigitChars_append, Nat.ofDigitChars_append]
    change Nat.ofDigitChars 10 (c :: more) (Nat.ofDigitChars 10 (List.replicate n '0') 0) = _
    rw [Nat.ofDigitChars_replicate_zero, Nat.mul_zero]
  refine .of_parts .zero (.some _ (by simp) digits) .none ?_ (by simp)
  rw [worth, List.length_append, List.length_replicate, zero_sub]

/-- With an exponent, one digit stands before the point. -/
theorem isUnsigned_scientific {power exponent : Int} (same : exponent = more.length + power) :
    IsUnsigned (Nat.ofDigitChars 10 (c :: more) 0 * 10 ^ power) (match c :: more with
      | [d] => d :: 'e' :: exponentText exponent
      | d :: rest => d :: '.' :: rest ++ 'e' :: exponentText exponent
      | [] => []) := by
  have first : ∀ d ∈ [c], d.isDigit = true := fun d alone => all d (List.mem_singleton.1 alone ▸ List.mem_cons_self)
  cases more with
  | nil =>
    refine .of_parts (.positive nonzero first) .none (isExponent_exponentText exponent) ?_ (by simp)
    simp [same]
  | cons second rest =>
    refine .of_parts (.positive nonzero first) (.some _ (List.cons_ne_nil second rest) fun d inside =>
      all d (List.mem_cons_of_mem _ inside)) (isExponent_exponentText exponent) ?_ (by simp)
    rw [same, add_sub_cancel_left, List.singleton_append]

/-- Digits that do not begin with a zero are laid out as a numeral of their size. -/
theorem isUnsigned_layout (power : Int) :
    IsUnsigned (Nat.ofDigitChars 10 (c :: more) 0 * 10 ^ power) (layout (c :: more) power) := by
  unfold layout
  simp only [Bool.and_eq_true, decide_eq_true_eq, List.length_cons]
  -- The power fixes where the point stands: behind the digits, among them or before them.
  split
  · next large =>
    obtain ⟨n, rfl⟩ := Int.eq_ofNat_of_zero_le large.1
    exact isUnsigned_large nonzero all n
  · next notLarge =>
    split
    · next inside =>
      obtain ⟨n, point⟩ : ∃ n : Nat, power = n - more.length := ⟨(more.length + power).toNat, by omega⟩
      have place : (((more.length + 1 : Nat) : Int) + power).toNat = n + 1 := by omega
      rw [place, point]
      have laidOut := isUnsigned_split nonzero all (n := n) (by omega)
      simpa using laidOut
    · split
      · next small =>
        obtain ⟨n, zeros⟩ : ∃ n : Nat, power = -(n + (more.length + 1) : Nat) :=
          ⟨(-(more.length + 1 + power)).toNat, by omega⟩
        have place : (-(((more.length + 1 : Nat) : Int) + power)).toNat = n := by omega
        rw [place, zeros]
        exact isUnsigned_small all n
      · exact isUnsigned_scientific nonzero all (by omega)

end Layout

private theorem withoutZeros_spec (fuel : Nat) (digits : Nat × Int) (nonzero : digits.1 ≠ 0) :
    ((withoutZeros fuel digits).1 : ℚ) * 10 ^ (withoutZeros fuel digits).2 = digits.1 * 10 ^ digits.2 ∧
      (withoutZeros fuel digits).1 ≠ 0 := by
  induction fuel generalizing digits with
  | zero => exact ⟨rfl, nonzero⟩
  | succ fuel ih =>
    obtain ⟨d, power⟩ := digits
    unfold withoutZeros
    split
    · next ends =>
      simp only [Bool.and_eq_true, decide_eq_true_eq] at ends
      obtain ⟨same, kept⟩ := ih (d / 10, power + 1) (Nat.div_ne_zero_iff.2 ⟨by decide, by omega⟩)
      refine ⟨same.trans ?_, kept⟩
      have whole : (d : ℚ) = (d / 10 : Nat) * 10 := by
        exact_mod_cast (Nat.div_mul_cancel (Nat.dvd_of_mod_eq_zero ends.1)).symm
      rw [whole, zpow_add_one₀ (by norm_num)]
      ring
    · exact ⟨rfl, nonzero⟩

private theorem rounds_zero {x : Double} (zero : x.significand = 0) : x.Rounds 0 := by
  simp [Rounds, neighbourhood, zero]

/-- The text of a double denotes a size that rounds to it. -/
theorem isWrittenAs (x : Double) : (Number.double x).IsWrittenAs x.text.toList := by
  unfold text
  rw [String.toList_ofList]
  by_cases zero : x.significand = 0
  · rw [if_pos zero]
    have written : IsUnsigned 0 ['0', '.', '0'] :=
      .of_parts .zero (.some ['0'] (by simp) (by simp)) .none (by simp [Nat.ofDigitChars_cons]) rfl
    exact .double ⟨_, written, rfl⟩ (rounds_zero zero)
  · rw [if_neg zero]
    obtain ⟨nonzero, rounds⟩ := shortest_rounds zero
    obtain ⟨same, kept⟩ := withoutZeros_spec 20 x.shortest nonzero
    generalize withoutZeros 20 x.shortest = digits at same kept ⊢
    obtain ⟨d, power⟩ := digits
    obtain ⟨c, more, shape, notZero⟩ := toDigits_head (Nat.pos_of_ne_zero kept)
    have written := isUnsigned_layout notZero (shape ▸ (isDigits_toDigits d).all) power
    rw [← shape, Nat.ofDigitChars_ten_toDigits, same] at written
    exact .double ⟨_, written, rfl⟩ rounds

end Double

theorem Number.isWrittenAs_text : (n : Number) → n.IsWrittenAs n.text.toList
  | .whole n => n.isWrittenAs
  | .double x => x.isWrittenAs

end LanguageClient.Json
