import LanguageClient.Proofs.Json.Rereading

/-! JSON values, read from their indented text. The line breaks and blanks of that form stand where the
reader skips them, so a value is read back from it just as from its compact text. -/
namespace LanguageClient.Json

private theorem skipSpace_skipSpace (cs : List Char) : skipSpace (skipSpace cs) = skipSpace cs := by
  induction cs with
  | nil => rfl
  | cons c rest ih =>
    cases mark : isSpace c with
    | true => simpa [skipSpace, mark] using ih
    | false => rw [skipSpace_cons mark, skipSpace_cons mark]

theorem breakLine_toList (level : Nat) :
    (breakLine level).toList = '\n' :: List.replicate (2 * level) ' ' := by
  rw [breakLine, String.toList_ofList]

private theorem skipSpace_blanks (count : Nat) (cs : List Char) :
    skipSpace (List.replicate count ' ' ++ cs) = skipSpace cs := by
  induction count with
  | zero => rfl
  | succ count ih =>
    rw [List.replicate_succ, List.cons_append, skipSpace, List.dropWhile_cons_of_pos (by rfl)]
    exact ih

private theorem skipSpace_breakLine (level : Nat) (cs : List Char) :
    skipSpace ((breakLine level).toList ++ cs) = skipSpace cs := by
  rw [breakLine_toList, List.cons_append, skipSpace, List.dropWhile_cons_of_pos (by rfl)]
  exact skipSpace_blanks _ cs

private theorem ends_breakLine (level : Nat) (rest : List Char) : Ends ((breakLine level).toList ++ rest) := by
  rw [breakLine_toList]
  exact fun _ same => .inr (.inr (.inr (Option.some.inj same).symm))

private theorem readValue?_skipSpace (fuel depth : Nat) (cs : List Char) :
    readValue? fuel depth (skipSpace cs) = readValue? fuel depth cs := by
  cases fuel with
  | zero => rfl
  | succ fuel => rw [readValue?, readValue?, skipSpace_skipSpace]

private theorem readItems?_skipSpace (fuel depth : Nat) (cs : List Char) :
    readItems? fuel depth (skipSpace cs) = readItems? fuel depth cs := by
  cases fuel with
  | zero => rfl
  | succ fuel => rw [readItems?, readItems?, readValue?_skipSpace]

private theorem readMembers?_skipSpace (fuel depth : Nat) (cs : List Char) :
    readMembers? fuel depth (skipSpace cs) = readMembers? fuel depth cs := by
  cases fuel with
  | zero => rfl
  | succ fuel => rw [readMembers?, readMembers?, skipSpace_skipSpace]

private theorem readValue?_breakLine (fuel depth level : Nat) (cs : List Char) :
    readValue? fuel depth ((breakLine level).toList ++ cs) = readValue? fuel depth cs := by
  rw [← readValue?_skipSpace, skipSpace_breakLine, readValue?_skipSpace]

private theorem readValue?_blank (fuel depth : Nat) (cs : List Char) :
    readValue? fuel depth (' ' :: cs) = readValue? fuel depth cs := by
  rw [← readValue?_skipSpace, skipSpace, List.dropWhile_cons_of_pos (by rfl)]
  exact readValue?_skipSpace fuel depth cs

private theorem readMembers?_breakLine (fuel depth level : Nat) (cs : List Char) :
    readMembers? fuel depth ((breakLine level).toList ++ cs) = readMembers? fuel depth cs := by
  rw [← readMembers?_skipSpace, skipSpace_breakLine, readMembers?_skipSpace]

private theorem readValue?_openBracket {fuel depth : Nat} {cs : List Char} {c : Char} {tail : List Char}
    (solid : skipSpace cs = c :: tail) (notClosing : c ≠ ']') :
    readValue? (fuel + 1) (depth + 1) ('[' :: cs) =
      (readItems? fuel depth cs).map fun (items, rest) => (.array items, rest) := by
  rw [← readItems?_skipSpace, readValue?, skipSpace_cons (c := '[') rfl, solid]
  simp [notClosing, solid]

private theorem readValue?_openBrace {fuel depth : Nat} {cs tail : List Char}
    (solid : skipSpace cs = '"' :: tail) :
    readValue? (fuel + 1) (depth + 1) ('\x7b' :: cs) =
      (readMembers? fuel depth cs).map fun (members, rest) => (ofMembers members, rest) := by
  rw [← readMembers?_skipSpace, readValue?, skipSpace_cons (c := '\x7b') rfl, solid]
  simp [solid]

theorem prettyAt_array (level : Nat) (j : Json) (more : List Json) :
    (prettyAt level (.array (j :: more))).toList =
      '[' :: ((prettyItems (level + 1) (j :: more)).toList ++ (breakLine level).toList ++ [']']) := by
  simp [prettyAt]

theorem prettyAt_object (level : Nat) (member : String × Json) (more : List (String × Json)) :
    (prettyAt level (.object (member :: more))).toList =
      '\x7b' :: ((prettyMembers (level + 1) (member :: more)).toList ++ (breakLine level).toList ++
        ['\x7d']) := by
  simp [prettyAt]

theorem prettyItems_singleton (level : Nat) (j : Json) :
    (prettyItems level [j]).toList = (breakLine level).toList ++ (prettyAt level j).toList := by
  simp [prettyItems]

theorem prettyItems_cons_cons (level : Nat) (j k : Json) (more : List Json) :
    (prettyItems level (j :: k :: more)).toList = (breakLine level).toList ++
      ((prettyAt level j).toList ++ ',' :: (prettyItems level (k :: more)).toList) := by
  rw [prettyItems.eq_3 level j (k :: more) nofun]
  simp

theorem prettyMembers_singleton (level : Nat) (key : String) (j : Json) :
    (prettyMembers level [(key, j)]).toList = (breakLine level).toList ++
      ((quote key).toList ++ ':' :: ' ' :: (prettyAt level j).toList) := by
  simp [prettyMembers]

theorem prettyMembers_cons_cons (level : Nat) (key : String) (j : Json) (next : String × Json)
    (more : List (String × Json)) : (prettyMembers level ((key, j) :: next :: more)).toList =
      (breakLine level).toList ++ ((quote key).toList ++ ':' :: ' ' :: ((prettyAt level j).toList ++
        ',' :: (prettyMembers level (next :: more)).toList)) := by
  rw [prettyMembers.eq_3 level key j (next :: more) nofun]
  simp

private theorem prettyAt_head (level : Nat) : (j : Json) → j.isExact = true →
    ∃ c tail, (prettyAt level j).toList = c :: tail ∧ isSpace c = false ∧ c ≠ ']'
  | .null, _ => ⟨'n', ['u', 'l', 'l'], by rw [prettyAt]; rfl, rfl, by decide⟩
  | .bool true, _ => ⟨'t', ['r', 'u', 'e'], by rw [prettyAt]; rfl, rfl, by decide⟩
  | .bool false, _ => ⟨'f', ['a', 'l', 's', 'e'], by rw [prettyAt]; rfl, rfl, by decide⟩
  | .string s, _ => ⟨'"', _, by rw [prettyAt, quote, String.toList_ofList], rfl, by decide⟩
  | .array [], _ => ⟨'[', [']'], by rw [prettyAt]; rfl, rfl, by decide⟩
  | .array (j :: more), _ => ⟨'[', _, prettyAt_array level j more, rfl, by decide⟩
  | .object [], _ => ⟨'\x7b', ['\x7d'], by rw [prettyAt]; rfl, rfl, by decide⟩
  | .object (member :: more), _ => ⟨'\x7b', _, prettyAt_object level member more, rfl, by decide⟩
  -- A number has one form.
  | .number (.whole n), exact => compact_head (.number (.whole n)) exact

private theorem length_prettyAt_pos (level : Nat) {j : Json} (exact : j.isExact = true) :
    0 < (prettyAt level j).toList.length := by
  obtain ⟨c, tail, shape, -⟩ := prettyAt_head level j exact
  simp [shape]

private theorem prettyItems_head (level : Nat) (j : Json) (more : List Json) (exact : j.isExact = true)
    (rest : List Char) : ∃ c tail,
      skipSpace ((prettyItems level (j :: more)).toList ++ rest) = c :: tail ∧ c ≠ ']' := by
  obtain ⟨c, tail, shape, solid, notClosing⟩ := prettyAt_head level j exact
  cases more with
  | nil =>
    rw [prettyItems_singleton, List.append_assoc, skipSpace_breakLine, shape]
    exact ⟨c, _, skipSpace_cons solid _, notClosing⟩
  | cons k more =>
    rw [prettyItems_cons_cons, List.append_assoc, skipSpace_breakLine, shape]
    exact ⟨c, _, skipSpace_cons solid _, notClosing⟩

private theorem prettyMembers_head (level : Nat) (key : String) (j : Json) (more : List (String × Json))
    (rest : List Char) :
    ∃ tail, skipSpace ((prettyMembers level ((key, j) :: more)).toList ++ rest) = '"' :: tail := by
  have quoted : ∃ tail, (quote key).toList = '"' :: tail := ⟨_, by rw [quote, String.toList_ofList]⟩
  obtain ⟨tail, shape⟩ := quoted
  cases more with
  | nil =>
    rw [prettyMembers_singleton, List.append_assoc, skipSpace_breakLine, shape]
    exact ⟨_, rfl⟩
  | cons next more =>
    rw [prettyMembers_cons_cons, List.append_assoc, skipSpace_breakLine, shape]
    exact ⟨_, rfl⟩

mutual

/-- A value is read back from its indented text, and what stands behind it is left over. -/
theorem readValue?_prettyAt : (j : Json) → (fuel depth level : Nat) → (rest : List Char) →
    j.isExact = true → j.nesting ≤ depth → Ends rest → 2 * (prettyAt level j).toList.length ≤ fuel + 1 →
    readValue? (fuel + 1) depth ((prettyAt level j).toList ++ rest) = some (j.ordered, rest)
  | .null => fun _ _ _ _ _ _ _ _ => by rw [prettyAt]; rfl
  | .bool true => fun _ _ _ _ _ _ _ _ => by rw [prettyAt]; rfl
  | .bool false => fun _ _ _ _ _ _ _ _ => by rw [prettyAt]; rfl
  | .number (.whole n) => fun _ _ _ _ _ _ ends _ => readValue?_number n ends
  | .number (.double _) => fun _ _ _ _ exact => by contradiction
  | .string s => by
    intro fuel depth level rest _ _ _ _
    obtain ⟨cs, shape, read⟩ := readString?_quote s rest
    rw [prettyAt, shape]
    change (readString? (cs.length + 1) [] cs).map _ = _
    rw [read]
    rfl
  | .array [] => by
    intro fuel depth level rest _ shallow _ _
    cases depth with
    | zero => exact absurd shallow (Nat.not_succ_le_zero _)
    | succ depth =>
      rw [prettyAt]
      rfl
  | .array (j :: more) => by
    intro fuel depth level rest exact shallow ends long
    obtain ⟨depth, rfl⟩ : ∃ less, depth = less + 1 :=
      Nat.exists_eq_add_one.2 (Nat.lt_of_lt_of_le (Nat.succ_pos _) shallow)
    have ih := readItems?_prettyItems (j :: more)
    rw [prettyAt_array] at long ⊢
    simp only [List.length_cons, List.length_append] at long
    -- Each bracket pays for one step with the fuel of its character.
    obtain ⟨fuel, rfl⟩ : ∃ less, fuel = less + 1 := ⟨fuel - 1, by omega⟩
    have read := ih fuel _ (level + 1) level rest (List.cons_ne_nil j more) exact
      (Nat.le_of_succ_le_succ shallow) (by omega)
    obtain ⟨c, tail, solid, notClosing⟩ := prettyItems_head (level + 1) j more
      (Bool.and_eq_true_iff.1 exact).1 ((breakLine level).toList ++ ']' :: rest)
    rw [List.cons_append, List.append_assoc, List.append_assoc, List.singleton_append,
      readValue?_openBracket solid notClosing, read]
    rfl
  | .object [] => by
    intro fuel depth level rest _ shallow _ _
    cases depth with
    | zero => exact absurd shallow (Nat.not_succ_le_zero _)
    | succ depth =>
      rw [prettyAt]
      rfl
  | .object ((key, j) :: more) => by
    intro fuel depth level rest exact shallow ends long
    obtain ⟨depth, rfl⟩ : ∃ less, depth = less + 1 :=
      Nat.exists_eq_add_one.2 (Nat.lt_of_lt_of_le (Nat.succ_pos _) shallow)
    have ih := readMembers?_prettyMembers ((key, j) :: more)
    rw [prettyAt_object] at long ⊢
    simp only [List.length_cons, List.length_append] at long
    obtain ⟨fuel, rfl⟩ : ∃ less, fuel = less + 1 := ⟨fuel - 1, by omega⟩
    have read := ih fuel _ (level + 1) level rest (List.cons_ne_nil (key, j) more) exact
      (Nat.le_of_succ_le_succ shallow) (by omega)
    obtain ⟨tail, solid⟩ := prettyMembers_head (level + 1) key j more
      ((breakLine level).toList ++ '\x7d' :: rest)
    rw [List.cons_append, List.append_assoc, List.append_assoc, List.singleton_append,
      readValue?_openBrace solid, read]
    rfl

theorem readItems?_prettyItems : (items : List Json) → (fuel depth level outer : Nat) →
    (rest : List Char) → items ≠ [] → areExact items = true → nestingOfItems items ≤ depth →
    2 * (prettyItems level items).toList.length ≤ fuel →
    readItems? (fuel + 1) depth
      ((prettyItems level items).toList ++ ((breakLine outer).toList ++ ']' :: rest)) =
        some (orderedItems items, rest)
  | [] => fun _ _ _ _ _ nonempty => absurd rfl nonempty
  | j :: more => by
    intro fuel depth level outer rest _ exact shallow long
    have ihHead := readValue?_prettyAt j
    have ih := readItems?_prettyItems more
    have exacts := Bool.and_eq_true_iff.1 exact
    have shallows := Nat.max_le.1 shallow
    have length := length_prettyAt_pos level exacts.1
    cases more with
    | nil =>
      -- Behind the last item stand a line break and the closing bracket, and behind any other a comma.
      rw [prettyItems_singleton] at long ⊢
      simp only [List.length_append] at long
      obtain ⟨fuel, rfl⟩ : ∃ less, fuel = less + 1 := ⟨fuel - 1, by omega⟩
      have read := ihHead fuel _ level _ exacts.1 shallows.1 (ends_breakLine outer (']' :: rest)) (by omega)
      rw [List.append_assoc, readItems?, readValue?_breakLine, read]
      simp only [Option.bind_eq_bind, Option.bind_some, skipSpace_breakLine, skipSpace_cons (c := ']') rfl]
      rfl
    | cons k more =>
      rw [prettyItems_cons_cons] at long ⊢
      simp only [List.length_append, List.length_cons] at long
      obtain ⟨fuel, rfl⟩ : ∃ less, fuel = less + 1 := ⟨fuel - 1, by omega⟩
      have read := ihHead fuel _ level _ exacts.1 shallows.1
        (ends_comma ((prettyItems level (k :: more)).toList ++ ((breakLine outer).toList ++ ']' :: rest)))
        (by omega)
      have readMore := ih fuel _ level outer rest (List.cons_ne_nil k more) exacts.2 shallows.2 (by omega)
      rw [List.append_assoc, List.append_assoc, List.cons_append, readItems?, readValue?_breakLine, read]
      simp only [Option.bind_eq_bind, Option.bind_some, skipSpace_cons (c := ',') rfl, readMore]
      rfl

theorem readMembers?_prettyMembers : (members : List (String × Json)) →
    (fuel depth level outer : Nat) → (rest : List Char) → members ≠ [] → haveExact members = true →
    nestingOfMembers members ≤ depth → 2 * (prettyMembers level members).toList.length ≤ fuel →
    readMembers? (fuel + 1) depth
      ((prettyMembers level members).toList ++ ((breakLine outer).toList ++ '\x7d' :: rest)) =
        some (orderedMembers members, rest)
  | [] => fun _ _ _ _ _ nonempty => absurd rfl nonempty
  | (key, j) :: more => by
    intro fuel depth level outer rest _ exact shallow long
    have ihHead := readValue?_prettyAt j
    have ih := readMembers?_prettyMembers more
    have exacts := Bool.and_eq_true_iff.1 exact
    have shallows := Nat.max_le.1 shallow
    have length := length_prettyAt_pos level exacts.1
    cases more with
    | nil =>
      rw [prettyMembers_singleton] at long ⊢
      simp only [List.length_append, List.length_cons] at long
      obtain ⟨fuel, rfl⟩ : ∃ less, fuel = less + 1 := ⟨fuel - 1, by omega⟩
      have read := ihHead fuel _ level _ exacts.1 shallows.1 (ends_breakLine outer ('\x7d' :: rest))
        (by omega)
      rw [List.append_assoc, List.append_assoc, List.cons_append, List.cons_append, readMembers?_breakLine]
      obtain ⟨cs, quoted, readKey⟩ := readString?_quote key
        (':' :: ' ' :: ((prettyAt level j).toList ++ ((breakLine outer).toList ++ '\x7d' :: rest)))
      rw [quoted, readMembers?]
      simp only [skipSpace_cons (c := '"') rfl, readKey, Option.bind_eq_bind, Option.bind_some,
        skipSpace_cons (c := ':') rfl, readValue?_blank, read, skipSpace_breakLine,
        skipSpace_cons (c := '\x7d') rfl]
      rfl
    | cons next more =>
      rw [prettyMembers_cons_cons] at long ⊢
      simp only [List.length_append, List.length_cons] at long
      obtain ⟨fuel, rfl⟩ : ∃ less, fuel = less + 1 := ⟨fuel - 1, by omega⟩
      have read := ihHead fuel _ level _ exacts.1 shallows.1
        (ends_comma ((prettyMembers level (next :: more)).toList ++
          ((breakLine outer).toList ++ '\x7d' :: rest))) (by omega)
      have readMore := ih fuel _ level outer rest (List.cons_ne_nil next more) exacts.2 shallows.2 (by omega)
      rw [List.append_assoc, List.append_assoc, List.cons_append, List.cons_append, List.append_assoc,
        List.cons_append, readMembers?_breakLine]
      obtain ⟨cs, quoted, readKey⟩ := readString?_quote key
        (':' :: ' ' :: ((prettyAt level j).toList ++ ',' ::
          ((prettyMembers level (next :: more)).toList ++ ((breakLine outer).toList ++ '\x7d' :: rest))))
      rw [quoted, readMembers?]
      simp only [skipSpace_cons (c := '"') rfl, readKey, Option.bind_eq_bind, Option.bind_some,
        skipSpace_cons (c := ':') rfl, readValue?_blank, read, skipSpace_cons (c := ',') rfl, readMore]
      rfl

end

/-- A value without doubles, nested within bounds, is read back from a line that holds its indented
text, with its members in order. -/
theorem parse?_pretty {j : Json} (exact : j.isExact = true) (shallow : j.nesting ≤ messageDepth) :
    parse? (j.pretty ++ "\n") = some j.ordered := by
  have read := readValue?_prettyAt j (2 * (j.pretty ++ "\n").toList.length + 1) messageDepth 0 ['\n'] exact
    shallow (by simp [Ends]) (by simp only [pretty, String.toList_append, List.length_append]; omega)
  change readValue? _ _ (j.pretty.toList ++ "\n".toList) = _ at read
  rw [← String.toList_append] at read
  rw [parse?, read?]
  simp only [read]
  rfl

end LanguageClient.Json
