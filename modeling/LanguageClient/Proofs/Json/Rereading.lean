import LanguageClient.Proofs.Json.Tokens
import LanguageClient.Proofs.Table
import Mathlib.Logic.Basic

/-! JSON values, read from their compact text. A value without doubles is read back from it as it is,
but for the order of its members, if its brackets nest no deeper than the reader goes; whatever stands
behind the value is left over. -/
namespace LanguageClient.Json

mutual

/-- No number in the value is a double. -/
def isExact : Json → Bool
  | .null | .bool _ | .string _ | .number (.whole _) => true
  | .number (.double _) => false
  | .array items => areExact items
  | .object members => haveExact members
termination_by structural j => j

def areExact : List Json → Bool
  | [] => true
  | j :: rest => isExact j && areExact rest
termination_by structural items => items

def haveExact : List (String × Json) → Bool
  | [] => true
  | (_, j) :: rest => isExact j && haveExact rest
termination_by structural members => members

end

mutual

/-- How deep the brackets of the value nest. -/
def nesting : Json → Nat
  | .null | .bool _ | .string _ | .number _ => 0
  | .array items => nestingOfItems items + 1
  | .object members => nestingOfMembers members + 1
termination_by structural j => j

def nestingOfItems : List Json → Nat
  | [] => 0
  | j :: rest => max (nesting j) (nestingOfItems rest)
termination_by structural items => items

def nestingOfMembers : List (String × Json) → Nat
  | [] => 0
  | (_, j) :: rest => max (nesting j) (nestingOfMembers rest)
termination_by structural members => members

end

mutual

/-- The members of every object in the value stand in ascending key order. -/
def IsOrdered : Json → Prop
  | .null | .bool _ | .string _ | .number _ => True
  | .array items => AreOrdered items
  | .object members => Table.Sorted members ∧ HaveOrdered members
termination_by structural j => j

def AreOrdered : List Json → Prop
  | [] => True
  | j :: rest => IsOrdered j ∧ AreOrdered rest
termination_by structural items => items

def HaveOrdered : List (String × Json) → Prop
  | [] => True
  | (_, j) :: rest => IsOrdered j ∧ HaveOrdered rest
termination_by structural members => members

end

mutual

def ordered : Json → Json
  | .null => .null
  | .bool b => .bool b
  | .string s => .string s
  | .number n => .number n
  | .array items => .array (orderedItems items)
  | .object members => ofMembers (orderedMembers members)
termination_by structural j => j

def orderedItems : List Json → List Json
  | [] => []
  | j :: rest => ordered j :: orderedItems rest
termination_by structural items => items

def orderedMembers : List (String × Json) → List (String × Json)
  | [] => []
  | (key, j) :: rest => (key, ordered j) :: orderedMembers rest
termination_by structural members => members

end

mutual

theorem IsOrdered.ordered_eq : {j : Json} → j.IsOrdered → j.ordered = j
  | .null, _ | .bool _, _ | .string _, _ | .number _, _ => rfl
  | .array _, sorted => congrArg Json.array (AreOrdered.orderedItems_eq sorted)
  | .object members, sorted => by
    rw [Json.ordered, HaveOrdered.orderedMembers_eq sorted.2, ofMembers, sorted.1.ofList_eq]

theorem AreOrdered.orderedItems_eq : {items : List Json} → AreOrdered items → orderedItems items = items
  | [], _ => rfl
  | _ :: _, sorted => congrArg₂ List.cons (IsOrdered.ordered_eq sorted.1) (AreOrdered.orderedItems_eq sorted.2)

theorem HaveOrdered.orderedMembers_eq :
    {members : List (String × Json)} → HaveOrdered members → orderedMembers members = members
  | [], _ => rfl
  | (key, _) :: _, sorted => congrArg₂ (fun j rest => (key, j) :: rest) (IsOrdered.ordered_eq sorted.1)
      (HaveOrdered.orderedMembers_eq sorted.2)

end

private theorem keys_orderedMembers (members : List (String × Json)) :
    Table.keys (orderedMembers members) = Table.keys members := by
  induction members with
  | nil => rfl
  | cons member rest ih => exact congrArg (member.1 :: ·) ih

private theorem get?_orderedMembers (members : List (String × Json)) (key : String) :
    Table.get? (orderedMembers members) key = (Table.get? members key).map ordered := by
  induction members with
  | nil => rfl
  | cons member rest ih =>
    by_cases same : member.1 = key
    · simp [orderedMembers, Table.get?, same]
    · simpa [orderedMembers, Table.get?, same] using ih

/-- Ordering an object leaves its members in their places as long as no key comes twice. -/
theorem ordered_object {members : List (String × Json)} (once : (Table.keys members).Nodup) :
    ∃ t, (object members).ordered = object t ∧
      ∀ key, Table.get? t key = (Table.get? members key).map ordered := by
  refine ⟨Table.ofList (orderedMembers members), rfl, fun key => ?_⟩
  rw [Table.get?_ofList (by rwa [keys_orderedMembers]), get?_orderedMembers]

theorem skipSpace_cons {c : Char} (mark : isSpace c = false) (cs : List Char) : skipSpace (c :: cs) = c :: cs := by
  simp [skipSpace, mark]

private theorem ends_item (rest : List Char) :
    Ends (']' :: rest) := fun _ same => .inr (.inl (Option.some.inj same).symm)

theorem ends_comma (rest : List Char) : Ends (',' :: rest) := fun _ same => .inl (Option.some.inj same).symm

private theorem ends_member (rest : List Char) : Ends ('\x7d' :: rest) :=
  fun _ same => .inr (.inr (.inl (Option.some.inj same).symm))

/-- The first character of a whole number's text. -/
theorem text_head (n : Whole) : ∃ c tail, (toString n.val).toList = c :: tail ∧ (c = '-' ∨ c.isDigit = true) := by
  obtain ⟨m, unsigned⟩ | ⟨m, positive, signed⟩ := n.val_cases
  · rw [unsigned, toString_ofNat]
    cases shape : Nat.toDigits 10 m with
    | nil => exact absurd shape Nat.toDigits_ne_nil
    | cons c tail =>
      have digit : c.isDigit = true :=
        Nat.isDigit_of_mem_toDigits (b := 10) (n := m) (by decide) (by decide) (by simp [shape])
      exact ⟨c, tail, rfl, .inr digit⟩
  · rw [signed, toString_neg positive]
    exact ⟨'-', _, rfl, .inl rfl⟩

private theorem digit_ne {c d : Char} (digit : c.isDigit = true) (mark : d.isDigit = false) : c ≠ d := by
  rintro rfl
  rw [digit] at mark
  contradiction

private theorem digit_notSpace {c : Char} (digit : c.isDigit = true) : isSpace c = false := by
  have other (d : Char) (mark : d.isDigit = false) : decide (c = d) = false := by
    simpa using digit_ne digit mark
  simp [isSpace, digit_ne digit]

theorem readValue?_number (n : Whole) {fuel depth : Nat} {rest : List Char} (ends : Ends rest) :
    readValue? (fuel + 1) depth ((toString n.val).toList ++ rest) = some (whole n, rest) := by
  have read := readNumber?_text n ends
  obtain ⟨c, tail, shape, first⟩ := text_head n
  rw [shape, List.cons_append] at read ⊢
  have other (d : Char) (mark : d ≠ '-' ∧ d.isDigit = false) : c ≠ d := by
    rintro rfl
    rcases first with rfl | digit
    · exact mark.1 rfl
    · simp [mark.2] at digit
  have solid : isSpace c = false := by
    simp [isSpace, other ' ' (by decide), other '\n' (by decide), other '\t' (by decide), other '\r' (by decide)]
  rw [readValue?, skipSpace_cons solid]
  dsimp only
  rw [if_neg (other 'n' (by decide)), if_neg (other 't' (by decide)), if_neg (other 'f' (by decide)),
    if_neg (other '"' (by decide)), if_neg (other '[' (by decide)), if_neg (other '\x7b' (by decide)), read]
  rfl

private theorem compact_array (items : List Json) :
    (array items).compact.toList = '[' :: ((compactItems items).toList ++ [']']) := by
  simp [compact]

private theorem compact_object (members : List (String × Json)) :
    (object members).compact.toList = '\x7b' :: ((compactMembers members).toList ++ ['\x7d']) := by
  simp [compact]

theorem compact_head : (j : Json) → j.isExact = true →
    ∃ c tail, j.compact.toList = c :: tail ∧ isSpace c = false ∧ c ≠ ']'
  | .null, _ => ⟨'n', _, rfl, rfl, by decide⟩
  | .bool true, _ => ⟨'t', _, rfl, rfl, by decide⟩
  | .bool false, _ => ⟨'f', _, rfl, rfl, by decide⟩
  | .string s, _ => ⟨'"', _, by rw [compact, quote, String.toList_ofList], rfl, by decide⟩
  | .array items, _ => ⟨'[', _, by rw [compact, String.toList_append, String.toList_append]; rfl, rfl, by decide⟩
  | .object members, _ =>
    ⟨'\x7b', _, by rw [compact, String.toList_append, String.toList_append]; rfl, rfl, by decide⟩
  | .number (.whole n), _ => by
    obtain ⟨c, tail, shape, first⟩ := text_head n
    refine ⟨c, tail, shape, ?_, ?_⟩
    · rcases first with rfl | digit
      · rfl
      · exact digit_notSpace digit
    · rintro rfl
      rcases first with first | digit
      · exact absurd first (by decide)
      · exact absurd digit (by decide)

private theorem compactItems_cons_cons (j k : Json) (more : List Json) : (compactItems (j :: k :: more)).toList =
    j.compact.toList ++ ',' :: (compactItems (k :: more)).toList := by
  rw [compactItems.eq_3 j (k :: more) nofun, String.toList_append, String.toList_append, List.append_assoc]
  rfl

private theorem compactMembers_singleton (key : String) (j : Json) :
    (compactMembers [(key, j)]).toList = (quote key).toList ++ ':' :: j.compact.toList := by
  simp [compactMembers]

private theorem compactMembers_cons_cons (key : String) (j : Json) (next : String × Json)
    (more : List (String × Json)) : (compactMembers ((key, j) :: next :: more)).toList =
      (quote key).toList ++ ':' :: (j.compact.toList ++ ',' :: (compactMembers (next :: more)).toList) := by
  rw [compactMembers.eq_3 key j (next :: more) nofun]
  simp

private theorem compactItems_head {items : List Json} (nonempty : items ≠ []) (exact : areExact items = true) :
    ∃ c tail, (compactItems items).toList = c :: tail ∧ isSpace c = false ∧ c ≠ ']' := by
  cases items with
  | nil => exact absurd rfl nonempty
  | cons j more =>
    rw [areExact, Bool.and_eq_true] at exact
    obtain ⟨c, tail, shape, mark⟩ := compact_head j exact.1
    cases more with
    | nil => exact ⟨c, tail, shape, mark⟩
    | cons k more => exact ⟨c, _, by rw [compactItems_cons_cons, shape, List.cons_append], mark⟩

private theorem length_compact_pos {j : Json} (exact : j.isExact = true) : 0 < j.compact.toList.length := by
  obtain ⟨c, tail, shape, -⟩ := compact_head j exact
  simp [shape]

private theorem compactMembers_head (key : String) (j : Json) (more : List (String × Json)) :
    ∃ tail, (compactMembers ((key, j) :: more)).toList = '"' :: tail := by
  cases more with
  | nil => exact ⟨_, by rw [compactMembers_singleton, quote, String.toList_ofList]; rfl⟩
  | cons next more => exact ⟨_, by rw [compactMembers_cons_cons, quote, String.toList_ofList]; rfl⟩

private theorem readValue?_bracket {fuel depth : Nat} {c : Char} {tail : List Char} (solid : isSpace c = false)
    (notClosing : c ≠ ']') : readValue? (fuel + 1) (depth + 1) ('[' :: c :: tail) =
      (readItems? fuel depth (c :: tail)).map fun (items, rest) => (.array items, rest) := by
  rw [readValue?, skipSpace_cons (c := '[') rfl]
  simp [skipSpace_cons solid, notClosing]

private theorem readValue?_brace {fuel depth : Nat} {tail : List Char} :
    readValue? (fuel + 1) (depth + 1) ('\x7b' :: '"' :: tail) =
      (readMembers? fuel depth ('"' :: tail)).map fun (members, rest) => (ofMembers members, rest) := by
  rw [readValue?, skipSpace_cons (c := '\x7b') rfl]
  simp [skipSpace_cons (c := '"') rfl]

mutual

/-- A value is read back from its compact text, and what stands behind it is left over. -/
theorem readValue?_compact : (j : Json) → (fuel depth : Nat) → (rest : List Char) → j.isExact = true →
    j.nesting ≤ depth → Ends rest → 2 * j.compact.toList.length ≤ fuel + 1 →
    readValue? (fuel + 1) depth (j.compact.toList ++ rest) = some (j.ordered, rest)
  | .null => fun _ _ _ _ _ _ _ => rfl
  | .bool true => fun _ _ _ _ _ _ _ => rfl
  | .bool false => fun _ _ _ _ _ _ _ => rfl
  | .number (.whole n) => fun _ _ _ _ _ ends _ => readValue?_number n ends
  | .number (.double _) => fun _ _ _ exact => by contradiction
  | .string s => by
    intro fuel depth rest _ _ _ _
    obtain ⟨cs, shape, read⟩ := readString?_quote s rest
    rw [compact, shape]
    change (readString? (cs.length + 1) [] cs).map _ = _
    rw [read]
    rfl
  | .array [] => by
    intro fuel depth rest _ shallow _ _
    cases depth with
    | zero => exact absurd shallow (Nat.not_succ_le_zero _)
    | succ depth => rfl
  | .array (j :: more) => by
    intro fuel depth rest exact shallow ends long
    obtain ⟨depth, rfl⟩ : ∃ less, depth = less + 1 :=
      Nat.exists_eq_add_one.2 (Nat.lt_of_lt_of_le (Nat.succ_pos _) shallow)
    have ih := readItems?_compact (j :: more)
    obtain ⟨c, tail, shape, solid, notClosing⟩ := compactItems_head (List.cons_ne_nil j more) exact
    rw [compact_array] at long ⊢
    simp only [List.length_cons, List.length_append] at long
    -- Each bracket pays for one step with the fuel of its character.
    obtain ⟨fuel, rfl⟩ : ∃ less, fuel = less + 1 := ⟨fuel - 1, by omega⟩
    have read := ih fuel _ rest (List.cons_ne_nil j more) exact
      (Nat.le_of_succ_le_succ shallow) (by omega)
    rw [shape, List.cons_append] at read
    rw [List.cons_append, List.append_assoc, shape, List.cons_append, List.singleton_append,
      readValue?_bracket solid notClosing, read]
    rfl
  | .object [] => by
    intro fuel depth rest _ shallow _ _
    cases depth with
    | zero => exact absurd shallow (Nat.not_succ_le_zero _)
    | succ depth => rfl
  | .object ((key, j) :: more) => by
    intro fuel depth rest exact shallow ends long
    obtain ⟨depth, rfl⟩ : ∃ less, depth = less + 1 :=
      Nat.exists_eq_add_one.2 (Nat.lt_of_lt_of_le (Nat.succ_pos _) shallow)
    have ih := readMembers?_compact ((key, j) :: more)
    obtain ⟨tail, shape⟩ := compactMembers_head key j more
    rw [compact_object] at long ⊢
    simp only [List.length_cons, List.length_append] at long
    obtain ⟨fuel, rfl⟩ : ∃ less, fuel = less + 1 := ⟨fuel - 1, by omega⟩
    have read := ih fuel _ rest (List.cons_ne_nil (key, j) more) exact
      (Nat.le_of_succ_le_succ shallow) (by omega)
    rw [shape, List.cons_append] at read
    rw [List.cons_append, List.append_assoc, shape, List.cons_append, List.singleton_append,
      readValue?_brace, read]
    rfl

theorem readItems?_compact : (items : List Json) → (fuel depth : Nat) → (rest : List Char) → items ≠ [] →
    areExact items = true → nestingOfItems items ≤ depth → 2 * (compactItems items).toList.length ≤ fuel →
    readItems? (fuel + 1) depth ((compactItems items).toList ++ ']' :: rest) = some (orderedItems items, rest)
  | [] => fun _ _ _ nonempty => absurd rfl nonempty
  | j :: more => by
    intro fuel depth rest _ exact shallow long
    have ihHead := readValue?_compact j
    have ih := readItems?_compact more
    have exacts := Bool.and_eq_true_iff.1 exact
    have shallows := Nat.max_le.1 shallow
    have length := length_compact_pos exacts.1
    cases more with
    | nil =>
      -- Behind the last item stands the closing bracket, and behind any other a comma.
      change 2 * j.compact.toList.length ≤ fuel at long
      obtain ⟨fuel, rfl⟩ : ∃ less, fuel = less + 1 := ⟨fuel - 1, by omega⟩
      have read := ihHead fuel _ (']' :: rest) exacts.1 shallows.1 (ends_item rest) (by omega)
      change readItems? (fuel + 2) depth (j.compact.toList ++ ']' :: rest) = _
      rw [readItems?, read]
      rfl
    | cons k more =>
      rw [compactItems_cons_cons] at long ⊢
      simp only [List.length_append, List.length_cons] at long
      obtain ⟨fuel, rfl⟩ : ∃ less, fuel = less + 1 := ⟨fuel - 1, by omega⟩
      have read := ihHead fuel _ _ exacts.1 shallows.1
        (ends_comma ((compactItems (k :: more)).toList ++ ']' :: rest)) (by omega)
      have readMore := ih fuel _ rest (List.cons_ne_nil k more) exacts.2 shallows.2 (by omega)
      rw [List.append_assoc, List.cons_append, readItems?, read]
      simp only [Option.bind_eq_bind, Option.bind_some, skipSpace_cons (c := ',') rfl, readMore]
      rfl

theorem readMembers?_compact : (members : List (String × Json)) → (fuel depth : Nat) → (rest : List Char) →
    members ≠ [] → haveExact members = true → nestingOfMembers members ≤ depth →
    2 * (compactMembers members).toList.length ≤ fuel →
    readMembers? (fuel + 1) depth ((compactMembers members).toList ++ '\x7d' :: rest) =
      some (orderedMembers members, rest)
  | [] => fun _ _ _ nonempty => absurd rfl nonempty
  | (key, j) :: more => by
    intro fuel depth rest _ exact shallow long
    have ihHead := readValue?_compact j
    have ih := readMembers?_compact more
    have exacts := Bool.and_eq_true_iff.1 exact
    have shallows := Nat.max_le.1 shallow
    have length := length_compact_pos exacts.1
    cases more with
    | nil =>
      rw [compactMembers_singleton] at long ⊢
      simp only [List.length_append, List.length_cons] at long
      obtain ⟨fuel, rfl⟩ : ∃ less, fuel = less + 1 := ⟨fuel - 1, by omega⟩
      have read := ihHead fuel _ ('\x7d' :: rest) exacts.1 shallows.1 (ends_member rest) (by omega)
      obtain ⟨cs, quoted, readKey⟩ := readString?_quote key (':' :: (j.compact.toList ++ '\x7d' :: rest))
      rw [List.append_assoc, List.cons_append, quoted, readMembers?]
      simp only [skipSpace_cons (c := '"') rfl, readKey, Option.bind_eq_bind, Option.bind_some,
        skipSpace_cons (c := ':') rfl, read]
      rfl
    | cons next more =>
      rw [compactMembers_cons_cons] at long ⊢
      simp only [List.length_append, List.length_cons] at long
      obtain ⟨fuel, rfl⟩ : ∃ less, fuel = less + 1 := ⟨fuel - 1, by omega⟩
      have read := ihHead fuel _ _ exacts.1 shallows.1
        (ends_comma ((compactMembers (next :: more)).toList ++ '\x7d' :: rest)) (by omega)
      have readMore := ih fuel _ rest (List.cons_ne_nil next more) exacts.2 shallows.2 (by omega)
      obtain ⟨cs, quoted, readKey⟩ := readString?_quote key
        (':' :: (j.compact.toList ++ ',' :: ((compactMembers (next :: more)).toList ++ '\x7d' :: rest)))
      rw [List.append_assoc, List.cons_append, List.append_assoc, List.cons_append, quoted, readMembers?]
      simp only [skipSpace_cons (c := '"') rfl, readKey, Option.bind_eq_bind, Option.bind_some,
        skipSpace_cons (c := ':') rfl, read, skipSpace_cons (c := ',') rfl, readMore]
      rfl

end

/-- A value without doubles, nested within bounds, is read back from its text with its members in order. -/
theorem parse?_compact {j : Json} (exact : j.isExact = true) (shallow : j.nesting ≤ messageDepth) :
    parse? j.compact = some j.ordered := by
  have read := readValue?_compact j (2 * j.compact.toList.length + 1) _ [] exact shallow
    (by simp [Ends]) (by omega)
  rw [List.append_nil] at read
  rw [parse?, read?]
  simp only [read]
  rfl

end LanguageClient.Json
