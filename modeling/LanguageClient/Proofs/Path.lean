import LanguageClient.Report

/-! What follows one path in another. Paths are compared by their components, but what is left of a path is a
text; its components are those that the root lacks, so that root and rest make the path again. -/
namespace LanguageClient

namespace Path

def marked (k : Nat) (texts : List String) : List (Nat × Component) :=
  (texts.zipIdx k).filterMap fun (text, i) => (innerComponent? text).map fun c => (i, c)

private theorem marked_cons (k : Nat) (text : String) (texts : List String) :
    marked k (text :: texts) = ((innerComponent? text).map fun c => (k, c)).toList ++ marked (k + 1) texts := by
  rw [marked, List.zipIdx_cons, List.filterMap_cons]
  dsimp only
  cases innerComponent? text <;> rfl

private theorem map_snd_marked (k : Nat) (texts : List String) :
    (marked k texts).map Prod.snd = texts.filterMap innerComponent? := by
  induction texts generalizing k with
  | nil => rfl
  | cons text texts ih =>
    rw [marked_cons, List.map_append, ih, List.filterMap_cons]
    cases innerComponent? text <;> rfl

/-- The piece of a component, with the pieces behind it. -/
theorem drop_of_marked {k : Nat} {texts : List String} {front rest : List (Nat × Component)} {i : Nat}
    {c : Component} (split : marked k texts = front ++ (i, c) :: rest) : k ≤ i ∧ ∃ text later,
      texts.drop (i - k) = text :: later ∧ innerComponent? text = some c ∧ marked (i + 1) later = rest := by
  induction texts generalizing k front with
  | nil => simp [marked] at split
  | cons text texts ih =>
    have further {front : List (Nat × Component)} (split : marked (k + 1) texts = front ++ (i, c) :: rest) :
        k ≤ i ∧ ∃ other later, (text :: texts).drop (i - k) = other :: later ∧ innerComponent? other = some c ∧
          marked (i + 1) later = rest := by
      obtain ⟨low, found⟩ := ih split
      have next : i - k = i - (k + 1) + 1 := by omega
      rw [next, List.drop_succ_cons]
      exact ⟨by omega, found⟩
    rw [marked_cons] at split
    cases inner : innerComponent? text with
    | none =>
      rw [inner] at split
      exact further split
    | some d =>
      rw [inner, Option.map_some, Option.toList_some, List.singleton_append] at split
      cases front with
      | nil =>
        cases split
        exact ⟨Nat.le_refl i, text, texts, by rw [Nat.sub_self, List.drop_zero], inner, rfl⟩
      | cons mark front => exact further (List.cons.inj split).2

/-- Behind the piece of the last component there are no components. -/
theorem take_of_marked {k : Nat} {texts : List String} {j : Nat} {d : Component}
    (last : (marked k texts).getLast? = some (j, d)) :
    k ≤ j ∧ (texts.take (j - k + 1)).filterMap innerComponent? = (marked k texts).map Prod.snd := by
  induction texts generalizing k with
  | nil => simp [marked] at last
  | cons text texts ih =>
    have further (last : (marked (k + 1) texts).getLast? = some (j, d)) : k ≤ j ∧
        ((text :: texts).take (j - k + 1)).filterMap innerComponent? = (marked k (text :: texts)).map Prod.snd := by
      obtain ⟨low, taken⟩ := ih last
      have next : j - k = j - (k + 1) + 1 := by omega
      rw [next, List.take_succ_cons, List.filterMap_cons, taken, marked_cons, List.map_append]
      refine ⟨by omega, ?_⟩
      cases innerComponent? text <;> rfl
    have marks := marked_cons k text texts
    cases inner : innerComponent? text with
    | none =>
      rw [marks, inner] at last
      exact further last
    | some c =>
      rw [inner, Option.map_some, Option.toList_some, List.singleton_append] at marks
      cases later : marked (k + 1) texts with
      | nil =>
        rw [marks, later] at last
        cases last
        rw [marks, later]
        simp [inner]
      | cons mark rest =>
        refine further ?_
        rwa [marks, later, List.getLast?_cons_cons, ← later] at last

private theorem eq_of_isAbsolute {path : String} (absolute : isAbsolute path = true) :
    ∃ rest, path = "" ++ "/" ++ rest := by
  have first : path.toList.head? = some '/' := of_decide_eq_true absolute
  obtain ⟨rest, split⟩ := List.head?_eq_some_iff.1 first
  refine ⟨String.ofList rest, String.toList_inj.1 ?_⟩
  rw [split]
  simp

private theorem isAbsolute_append {path : String} (absolute : isAbsolute path = true) (rest : String) :
    isAbsolute (path ++ rest) = true := by
  obtain ⟨inner, rfl⟩ := eq_of_isAbsolute absolute
  simp [isAbsolute]

private theorem pieces_empty : pieces "" = [""] := pieces_plain List.not_mem_nil

private theorem pieces_of_isAbsolute {path : String} (absolute : isAbsolute path = true) :
    ∃ texts, pieces path = "" :: texts := by
  obtain ⟨rest, rfl⟩ := eq_of_isAbsolute absolute
  exact ⟨pieces rest, by rw [pieces_append, pieces_empty]; rfl⟩

private theorem numbered_of_isAbsolute {path : String} (absolute : isAbsolute path = true) {texts : List String}
    (split : pieces path = "" :: texts) : numbered path = (0, .root) :: marked 1 texts := by
  rw [numbered, split]
  dsimp only
  rw [firstComponent?, if_pos absolute]
  rfl

private theorem components_of_isAbsolute {path : String} (absolute : isAbsolute path = true) :
    components path = .root :: (pieces path).filterMap innerComponent? := by
  obtain ⟨texts, split⟩ := pieces_of_isAbsolute absolute
  rw [components, numbered_of_isAbsolute absolute split, split, List.map_cons, map_snd_marked]
  rfl

/-- A path that begins with a component that is neither the root nor a dot. -/
theorem components_of_relative {path text : String} {texts : List String} (split : pieces path = text :: texts)
    {c : Component} (inner : innerComponent? text = some c) :
    isAbsolute path = false ∧ components path = (text :: texts).filterMap innerComponent? := by
  have relative : isAbsolute path = false := by
    rw [Bool.eq_false_iff]
    intro absolute
    obtain ⟨others, split'⟩ := pieces_of_isAbsolute absolute
    cases split.symm.trans split'
    contradiction
  have plain : text ≠ "." := by
    rintro rfl
    contradiction
  have first : firstComponent? path text = innerComponent? text := by
    rw [firstComponent?, relative, if_neg Bool.false_ne_true, if_neg plain]
  refine ⟨relative, ?_⟩
  rw [components, numbered, split]
  dsimp only
  rw [first, inner, List.filterMap_cons, inner, List.map_append]
  exact congrArg (c :: ·) (map_snd_marked 1 texts)

private theorem components_join {root path : String} (absolute : isAbsolute root = true)
    (relative : isAbsolute path = false) :
    components (join root path) = components root ++ (pieces path).filterMap innerComponent? := by
  have joined (front : String) (front_absolute : isAbsolute (front ++ "/") = true)
      (same : (pieces front).filterMap innerComponent? = (pieces root).filterMap innerComponent?) :
      components (front ++ "/" ++ path) = components root ++ (pieces path).filterMap innerComponent? := by
    rw [components_of_isAbsolute (isAbsolute_append front_absolute path), components_of_isAbsolute absolute,
      pieces_append, List.filterMap_append, same]
    rfl
  rw [join, relative, if_neg Bool.false_ne_true]
  split
  · next ends =>
    have nonempty : root ≠ "" := by
      rintro rfl
      contradiction
    have last : root.toList.getLast? = some '/' := by simpa [nonempty] using ends
    obtain ⟨front, split⟩ := List.getLast?_eq_some_iff.1 last
    obtain rfl : root = String.ofList front ++ "/" := by
      rw [← String.toList_inj, split]
      simp
    -- The separator at the end adds an empty piece, which is no component.
    have whole : pieces (String.ofList front ++ "/") = pieces (String.ofList front) ++ [""] := by
      rw [← pieces_empty, ← pieces_append, String.append_empty]
    refine joined (String.ofList front) absolute ?_
    rw [whole, List.filterMap_append]
    exact (List.append_nil _).symm
  · exact joined root (isAbsolute_append absolute "/") rfl

private theorem after?_spec (start items : List (Nat × Component)) :
    match after? start items with
    | some rest => ∃ front, items = front ++ rest ∧ front.map Prod.snd = start.map Prod.snd
    | none => ¬ start.map Prod.snd <+: items.map Prod.snd := by
  fun_induction after? start items with
  | case1 items => exact ⟨[], rfl, rfl⟩
  | case2 => simp
  | case3 _ start n c items ih =>
    split at ih
    · next rest _ =>
      obtain ⟨front, split, same⟩ := ih
      exact ⟨(n, c) :: front, by rw [split]; rfl, by simp [same]⟩
    · simpa using ih
  | case4 _ c start n d items differs => simp [differs]

/-- What is left of an absolute path behind some of its components is a relative path with the others. -/
theorem components_slice {path : String} {texts : List String} (split : pieces path = "" :: texts)
    {front rest : List (Nat × Component)} (marks : marked 1 texts = front ++ rest) :
    isAbsolute (slice path rest) = false ∧ components (slice path rest) = rest.map Prod.snd ∧
      (pieces (slice path rest)).filterMap innerComponent? = rest.map Prod.snd := by
  cases rest with
  | nil => exact ⟨rfl, by rw [slice, components, numbered, pieces_empty]; rfl, by rw [slice, pieces_empty]; rfl⟩
  | cons first rest =>
    obtain ⟨i, c⟩ := first
    obtain ⟨low, text, later, dropped, inner, marks'⟩ := drop_of_marked marks
    have whole : marked i (text :: later) = (i, c) :: rest := by
      rw [marked_cons, inner, marks']
      rfl
    -- The pieces from that of the first component to that of the last.
    let last := ((i, c) :: rest).getLast (List.cons_ne_nil _ _)
    have behind : (pieces path).drop i = text :: later := by
      have next : i = i - 1 + 1 := by omega
      rw [split, next, List.drop_succ_cons, dropped]
    have form : slice path ((i, c) :: rest) = "/".intercalate (text :: later.take (last.1 - i)) := by
      rw [slice]
      dsimp only
      rw [behind, List.take_succ_cons]
    have plain : ∀ piece ∈ text :: later.take (last.1 - i), '/' ∉ piece.toList := by
      intro piece inside
      have present : piece ∈ (pieces path).drop i := by
        rw [behind]
        exact List.cons_subset_cons text (List.take_subset _ _) inside
      exact plain_of_mem_pieces (List.mem_of_mem_drop present)
    have parts : pieces (slice path ((i, c) :: rest)) = text :: later.take (last.1 - i) := by
      rw [form, pieces_intercalate (List.cons_ne_nil _ _) plain]
    have ends : (marked i (text :: later)).getLast? = some (last.1, last.2) := by
      rw [whole, List.getLast?_eq_some_getLast (List.cons_ne_nil _ _)]
    have taken := (take_of_marked ends).2
    rw [whole, List.take_succ_cons] at taken
    obtain ⟨relative, read⟩ := components_of_relative parts inner
    exact ⟨relative, read.trans taken, by rw [parts, taken]⟩

/-- The components of pieces are those that are neither empty nor a dot. -/
theorem filterMap_innerComponent? (texts : List String) : texts.filterMap innerComponent? =
    (texts.filter fun text => text ≠ "" ∧ text ≠ ".").map fun text =>
      if text = ".." then .parent else .name text := by
  induction texts with
  | nil => rfl
  | cons text texts ih =>
    rw [List.filterMap_cons, ih]
    by_cases ignored : text = "" ∨ text = "."
    · have nothing : innerComponent? text = none := by simp [innerComponent?, ignored]
      rw [nothing, List.filter_cons_of_neg (by simpa [← not_or] using ignored)]
    · have something : innerComponent? text = some (if text = ".." then .parent else .name text) := by
        rw [innerComponent?, if_neg (by simpa using ignored)]
        split <;> rfl
      rw [something, List.filter_cons_of_pos (by simpa using ignored), List.map_cons]

private theorem components_written {texts : List String} (plain : ∀ text ∈ texts, '/' ∉ text.toList) :
    components ("/" ++ "/".intercalate texts) =
      .root :: (texts.filter fun text => text ≠ "" ∧ text ≠ ".").map fun text =>
        if text = ".." then .parent else .name text := by
  have written : "/" ++ "/".intercalate texts = "" ++ "/" ++ "/".intercalate texts := by rw [String.empty_append]
  have absolute : isAbsolute ("/" ++ "/".intercalate texts) = true := isAbsolute_append rfl _
  rw [components_of_isAbsolute absolute, written, pieces_append, pieces_empty, ← filterMap_innerComponent?]
  cases texts with
  | nil => rw [String.intercalate_nil, pieces_empty]; rfl
  | cons text texts => rw [pieces_intercalate (List.cons_ne_nil _ _) plain]; rfl

end Path

namespace Report
open LanguageClient.Path

variable {root path : String}

private theorem relativePath_cases (absolute : isAbsolute root = true) (absolute' : isAbsolute path = true) :
    (¬ components root <+: components path ∧ relativePath root path = path) ∨
    (isAbsolute (relativePath root path) = false ∧
      components root ++ components (relativePath root path) = components path ∧
      (pieces (relativePath root path)).filterMap innerComponent? = components (relativePath root path)) := by
  obtain ⟨texts, split⟩ := pieces_of_isAbsolute absolute
  obtain ⟨texts', split'⟩ := pieces_of_isAbsolute absolute'
  have start := numbered_of_isAbsolute absolute split
  have items := numbered_of_isAbsolute absolute' split'
  have shown : relativePath root path = ((after? (numbered root) (numbered path)).map (slice path)).getD path := by
    rw [relativePath, relativeTo?, start]
  have spec := after?_spec (numbered root) (numbered path)
  cases left : after? (numbered root) (numbered path) with
  | none =>
    rw [left] at spec shown
    exact .inl ⟨spec, shown⟩
  | some rest =>
    rw [left] at spec shown
    obtain ⟨front, whole, same⟩ := spec
    -- What the path begins with holds at least the root.
    cases front with
    | nil =>
      rw [start] at same
      contradiction
    | cons mark front =>
      rw [items] at whole
      obtain ⟨relative, read, parts⟩ := components_slice split' (List.cons.inj whole).2
      have slice_eq : relativePath root path = slice path rest := shown
      rw [slice_eq, parts, read]
      refine .inr ⟨relative, ?_, rfl⟩
      rw [components, components, items, whole, List.map_append, same]

/-- An absolute path is shown as a relative one that, seen from the root, has the same components, if its
components begin with those of the root. Otherwise it is shown as it is; so from the root it denotes the same in
either case. The components of an absolute path are the root and what stands between the separators, where empty
pieces and dots do not count. -/
theorem relativePath_rejoined (root path : String) (absolute : isAbsolute root = true)
    (absolute' : isAbsolute path = true) :
    (¬ components root <+: components path → relativePath root path = path) ∧
    (components root <+: components path → isAbsolute (relativePath root path) = false ∧
      components root ++ components (relativePath root path) = components path) ∧
    components (join root (relativePath root path)) = components path ∧
    ∀ texts : List String, (∀ text ∈ texts, '/' ∉ text.toList) →
      components ("/" ++ "/".intercalate texts) =
        .root :: (texts.filter fun text => text ≠ "" ∧ text ≠ ".").map fun text =>
          if text = ".." then .parent else .name text := by
  rcases relativePath_cases absolute absolute' with ⟨outside, unchanged⟩ | ⟨relative, whole, parts⟩
  · refine ⟨fun _ => unchanged, fun inside => absurd inside outside, ?_, fun texts => components_written⟩
    rw [unchanged, join, if_pos absolute']
  · refine ⟨fun outside => absurd ⟨_, whole⟩ outside, fun _ => ⟨relative, whole⟩, ?_, fun texts => components_written⟩
    rw [components_join absolute relative, parts, whole]

/-- A path in a directory whose root is written with dots and separators that do not count, and one in a directory
whose name begins with that of the root. -/
theorem relativePath_rejoined_sibling :
    isAbsolute "/project/./" = true ∧ isAbsolute "//project/../a//./b/" = true ∧ isAbsolute "/project2/x" = true ∧
    relativePath "/project/./" "//project/../a//./b/" = "../a//./b" ∧
    components "/project/./" ++ components (relativePath "/project/./" "//project/../a//./b/") =
      components "//project/../a//./b/" ∧
    components (join "/project/./" "../a//./b") = components "//project/../a//./b/" ∧
    components ("/" ++ "/".intercalate ["project", "..", "a", "", ".", "b"]) =
      [.root, .name "project", .parent, .name "a", .name "b"] ∧
    relativePath "/project/./" "/project2/x" = "/project2/x" := by
  have absolute : isAbsolute "/project/./" = true := by decide
  have absolute' : isAbsolute "//project/../a//./b/" = true := by decide
  have absolute'' : isAbsolute "/project2/x" = true := by decide
  have text : relativePath "/project/./" "//project/../a//./b/" = "../a//./b" := by decide +kernel
  obtain ⟨-, inside, rejoined, written⟩ := relativePath_rejoined "/project/./" "//project/../a//./b/" absolute absolute'
  obtain ⟨outside, -, -, -⟩ := relativePath_rejoined "/project/./" "/project2/x" absolute absolute''
  rw [text] at rejoined
  exact ⟨absolute, absolute', absolute'', text, (inside (by decide +kernel)).2, rejoined,
    written ["project", "..", "a", "", ".", "b"] (by decide), outside (by decide +kernel)⟩

end Report

end LanguageClient
