import LanguageClient.Proofs.Json.Indented
import LanguageClient.Proofs.Json.Numerals

/-! The grammar of JSON, with what a text means. The indented text of a value is a text of that value,
however deep its brackets nest and whatever numbers it holds. -/
namespace LanguageClient.Json

inductive IsCharText : Char → List Char → Prop
  | plain {c : Char} (printable : 32 ≤ c.toNat) (notQuote : c ≠ '"') (notSlash : c ≠ '\\') : IsCharText c [c]
  | escaped {c : Char} {form : List Char} (meant : readEscape? form = some (c, [])) : IsCharText c ('\\' :: form)

def IsQuoted (s : String) (cs : List Char) : Prop :=
  ∃ forms, List.Forall₂ IsCharText s.toList forms ∧ cs = '"' :: (forms.flatten ++ ['"'])

def IsBlank (cs : List Char) : Prop := ∀ c ∈ cs, isSpace c = true

mutual

inductive IsText : Json → List Char → Prop
  | null : IsText .null ['n', 'u', 'l', 'l']
  | true : IsText (.bool true) ['t', 'r', 'u', 'e']
  | false : IsText (.bool false) ['f', 'a', 'l', 's', 'e']
  | number {n : Number} {cs : List Char} (written : n.IsWrittenAs cs) : IsText (.number n) cs
  | string {s : String} {cs : List Char} (quoted : IsQuoted s cs) : IsText (.string s) cs
  | emptyArray {blank : List Char} (isBlank : IsBlank blank) : IsText (.array []) ('[' :: (blank ++ [']']))
  | array {items : List Json} {cs : List Char} (inside : AreItems items cs) :
      IsText (.array items) ('[' :: (cs ++ [']']))
  | emptyObject {blank : List Char} (isBlank : IsBlank blank) :
      IsText (.object []) ('\x7b' :: (blank ++ ['\x7d']))
  | object {members : List (String × Json)} {cs : List Char} (inside : AreMembers members cs) :
      IsText (.object members) ('\x7b' :: (cs ++ ['\x7d']))

/-- The characters write a value, with white space before it and behind it. -/
inductive IsPadded : Json → List Char → Prop
  | mk {j : Json} {before cs behind : List Char} (front : IsBlank before) (text : IsText j cs)
      (back : IsBlank behind) : IsPadded j (before ++ cs ++ behind)

inductive AreItems : List Json → List Char → Prop
  | last {j : Json} {cs : List Char} (text : IsPadded j cs) : AreItems [j] cs
  | more {j : Json} {items : List Json} {cs others : List Char} (text : IsPadded j cs)
      (rest : AreItems items others) : AreItems (j :: items) (cs ++ ',' :: others)

inductive IsMember : String → Json → List Char → Prop
  | mk {key : String} {j : Json} {before name behind cs : List Char} (front : IsBlank before)
      (named : IsQuoted key name) (back : IsBlank behind) (text : IsPadded j cs) :
      IsMember key j (before ++ name ++ behind ++ ':' :: cs)

inductive AreMembers : List (String × Json) → List Char → Prop
  | last {key : String} {j : Json} {cs : List Char} (text : IsMember key j cs) : AreMembers [(key, j)] cs
  | more {key : String} {j : Json} {members : List (String × Json)} {cs others : List Char}
      (text : IsMember key j cs) (rest : AreMembers members others) :
      AreMembers ((key, j) :: members) (cs ++ ',' :: others)

end

private theorem isCharText_quoteChar (c : Char) : IsCharText c (quoteChar c) := by
  obtain ⟨shape, notQuote, notSlash, plain⟩ | ⟨form, shape, meant⟩ := quoteChar_cases c
  · rw [shape]
    exact .plain (Nat.le_of_not_lt plain) notQuote notSlash
  · rw [shape]
    exact .escaped (by simpa using meant [])

private theorem isQuoted_quote (s : String) : IsQuoted s (quote s).toList := by
  refine ⟨s.toList.map quoteChar, ?_, ?_⟩
  · exact List.forall₂_map_right_iff.2 (List.forall₂_same.2 fun c _ => isCharText_quoteChar c)
  · rw [quote, String.toList_ofList, List.flatMap_def]

theorem isBlank_nil : IsBlank [] := nofun

private theorem isBlank_breakLine (level : Nat) : IsBlank (breakLine level).toList := by
  rw [breakLine_toList]
  exact List.forall_mem_cons.2 ⟨rfl, fun c blank => List.eq_of_mem_replicate blank ▸ rfl⟩

/-- On a line of its own, a value stands behind white space. -/
theorem IsText.onLine {j : Json} {cs : List Char} (text : IsText j cs) (level : Nat) {behind : List Char}
    (back : IsBlank behind) : IsPadded j ((breakLine level).toList ++ (cs ++ behind)) :=
  List.append_assoc _ _ _ ▸ .mk (isBlank_breakLine level) text back

/-- On a line of its own, a member has one blank behind its colon. -/
theorem IsText.member {j : Json} {cs : List Char} (text : IsText j cs) (key : String) (level : Nat)
    {behind : List Char} (back : IsBlank behind) :
    IsMember key j ((breakLine level).toList ++ ((quote key).toList ++ ':' :: ' ' :: (cs ++ behind))) := by
  have blank : IsBlank [' '] := fun c inside => List.mem_singleton.1 inside ▸ rfl
  have written := IsMember.mk (isBlank_breakLine level) (isQuoted_quote key) isBlank_nil (.mk blank text back)
  simpa using written

mutual

/-- The indented text of a value is a text of it. -/
theorem isText_prettyAt : (j : Json) → (level : Nat) → IsText j (prettyAt level j).toList
  | .null => fun _ => by rw [prettyAt]; exact .null
  | .bool true => fun _ => by rw [prettyAt]; exact .true
  | .bool false => fun _ => by rw [prettyAt]; exact .false
  | .number n => fun _ => by rw [prettyAt]; exact .number n.isWrittenAs_text
  | .string s => fun _ => by rw [prettyAt]; exact .string (isQuoted_quote s)
  | .array [] => fun _ => by rw [prettyAt]; exact .emptyArray isBlank_nil
  | .array (j :: more) => fun level => by
    rw [prettyAt_array]
    exact .array (areItems_prettyItems (j :: more) (level + 1) level (List.cons_ne_nil j more))
  | .object [] => fun _ => by rw [prettyAt]; exact .emptyObject isBlank_nil
  | .object (member :: more) => fun level => by
    rw [prettyAt_object]
    exact .object (areMembers_prettyMembers (member :: more) (level + 1) level (List.cons_ne_nil member more))

/-- The line break before the closing bracket is the white space behind the last item. -/
theorem areItems_prettyItems : (items : List Json) → (level outer : Nat) → items ≠ [] →
    AreItems items ((prettyItems level items).toList ++ (breakLine outer).toList)
  | [] => fun _ _ nonempty => absurd rfl nonempty
  | [j] => fun level outer _ => by
    rw [prettyItems_singleton, List.append_assoc]
    exact .last ((isText_prettyAt j level).onLine level (isBlank_breakLine outer))
  | j :: k :: more => fun level outer _ => by
    have text := (isText_prettyAt j level).onLine level isBlank_nil
    have rest := areItems_prettyItems (k :: more) level outer (List.cons_ne_nil k more)
    rw [prettyItems_cons_cons]
    simpa using AreItems.more text rest

theorem areMembers_prettyMembers : (members : List (String × Json)) → (level outer : Nat) → members ≠ [] →
    AreMembers members ((prettyMembers level members).toList ++ (breakLine outer).toList)
  | [] => fun _ _ nonempty => absurd rfl nonempty
  | [(key, j)] => fun level outer _ => by
    have text := (isText_prettyAt j level).member key level (isBlank_breakLine outer)
    rw [prettyMembers_singleton]
    simpa using AreMembers.last text
  | (key, j) :: next :: more => fun level outer _ => by
    have text := (isText_prettyAt j level).member key level isBlank_nil
    have rest := areMembers_prettyMembers (next :: more) level outer (List.cons_ne_nil next more)
    rw [prettyMembers_cons_cons]
    simpa using AreMembers.more text rest

end

end LanguageClient.Json
