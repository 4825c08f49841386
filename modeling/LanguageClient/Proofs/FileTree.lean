import LanguageClient.FileTree
import LanguageClient.Proofs.Frame.Header

/-! Files are read back as they were written. A path is followed by the same steps after the entry
it leads to was replaced, as long as that was neither a directory nor a link: every place on the way
is one of those, so the way never passes through what was replaced. Directories are made without
touching what stands already. -/
namespace LanguageClient.FileTree

variable {t t' : FileTree} {followLast : Bool} {directory path : String}

@[simp] theorem entryAt?_nil (t : FileTree) : t.entryAt? [] = some .directory := rfl

private theorem entryAt?_put (t : FileTree) {names : List String} (inside : names ≠ []) (entry : FileEntry)
    (other : List String) :
    (t.put names entry).entryAt? other = if other = names then some entry else t.entryAt? other := by
  cases other with
  | nil => simp [inside.symm]
  | cons name rest =>
    simp only [entryAt?, put, List.find?_append, List.find?_filter]
    split
    · next same =>
      subst same
      have gone : t.entries.find? (fun e => decide (decide (e.1 ≠ name :: rest) = true ∧
          decide (e.1 = name :: rest) = true)) = none := by simp
      rw [gone]
      simp
    · next differs =>
      have kept : (fun e : List String × FileEntry => decide (decide (e.1 ≠ names) = true ∧
          decide (e.1 = name :: rest) = true)) = fun e => decide (e.1 = name :: rest) := by
        funext e
        by_cases here : e.1 = name :: rest <;> simp [here, differs]
      have elsewhere : [(names, entry)].find? (fun e => decide (e.1 = name :: rest)) = none := by
        simp [Ne.symm differs]
      rw [kept, elsewhere, Option.or_none]

def IsEnd : Option FileEntry → Prop
  | some .directory => False
  | some (.link _) => False
  | _ => True

section Ways

variable {links : Nat} {here steps : List String} {place : Place}

private theorem walk_here (isDirectory : t.entryAt? here = some .directory) (rest : List String) :
    t.walk followLast links here ("." :: rest) = t.walk followLast links here rest := by
  simp [walk, isDirectory]

private theorem walk_up (isDirectory : t.entryAt? here = some .directory) (rest : List String) :
    t.walk followLast links here (".." :: rest) = t.walk followLast links here.dropLast rest := by
  simp [walk, isDirectory]

section Names

variable {step : String} (isDirectory : t.entryAt? here = some .directory) (notHere : step ≠ ".")
  (notUp : step ≠ "..") (short : ¬nameLimit < step.utf8ByteSize)
include isDirectory notHere notUp short

private theorem walk_through {entry : FileEntry} (there : t.entryAt? (here ++ [step]) = some entry)
    (notLink : ∀ target, entry ≠ .link target) (rest : List String) :
    t.walk followLast links here (step :: rest) = t.walk followLast links (here ++ [step]) rest := by
  rw [walk]
  cases entry with
  | link target => exact absurd rfl (notLink target)
  | _ => simp [isDirectory, notHere, notUp, short, there]

private theorem walk_link {target : String} (isLink : t.entryAt? (here ++ [step]) = some (.link target))
    (named : target ≠ "") {rest : List String} (goesOn : ¬(rest.isEmpty && !followLast) = true) :
    t.walk followLast (links + 1) here (step :: rest) =
      t.walk followLast links (if Path.isAbsolute target then [] else here)
        (FileTree.steps target ++ rest) := by
  rw [walk]
  simp [isDirectory, notHere, notUp, short, isLink, named, goesOn]

private theorem walk_lastLink {target : String} (isLink : t.entryAt? (here ++ [step]) = some (.link target)) :
    t.walk false links here [step] = .ok ⟨here ++ [step], some (.link target)⟩ := by
  simp [walk, isDirectory, notHere, notUp, short, isLink]

end Names

private theorem walk_entry (reached : t.walk followLast links here steps = .ok place) :
    place.entry = t.entryAt? place.names := by
  fun_induction walk t followLast links here steps <;> grind

private theorem walk_inside (reached : t.walk followLast links here steps = .ok place)
    (isEnd : IsEnd place.entry) : place.names ≠ [] := by
  intro root
  simp [walk_entry reached, root, IsEnd] at isEnd

/-- What a way ends at can be replaced without changing the way. -/
theorem walk_put (entry : FileEntry) (reached : t.walk followLast links here steps = .ok place)
    (isEnd : IsEnd place.entry) (solid : ∀ target, entry ≠ .link target) :
    (t.put place.names entry).walk followLast links here steps = .ok ⟨place.names, some entry⟩ := by
  have entryThere := walk_entry reached
  have inside := walk_inside reached isEnd
  have passed (names : List String) (leadsOn : ¬IsEnd (t.entryAt? names)) :
      (t.put place.names entry).entryAt? names = t.entryAt? names := by
    rw [entryAt?_put t inside, if_neg]
    rintro rfl
    exact leadsOn (entryThere ▸ isEnd)
  have through {names : List String} (isDirectory : t.entryAt? names = some .directory) :
      (t.put place.names entry).entryAt? names = some .directory :=
    (passed names (by simp [isDirectory, IsEnd])).trans isDirectory
  -- Along the way: what is passed is a directory or a link, so it is not what was replaced.
  fun_induction walk t followLast links here steps with
  | case1 links here =>
    obtain rfl : place = ⟨here, t.entryAt? here⟩ := by simpa using reached.symm
    simp [walk, entryAt?_put t inside]
  | case2 | case5 | case7 | case9 | case10 | case13 => cases reached
  | case3 links here rest isDirectory ih =>
    rw [walk_here (through isDirectory)]
    exact ih reached
  | case4 links here rest isDirectory notHere ih =>
    rw [walk_up (through isDirectory)]
    exact ih reached
  | case6 links here step rest isDirectory notHere notUp short beside missing last =>
    obtain rfl : place = ⟨beside, none⟩ := by simpa using reached.symm
    obtain rfl : rest = [] := by simpa using last
    have found : (t.put beside entry).entryAt? beside = some entry := by simp [entryAt?_put t inside]
    rw [walk_through (through isDirectory) notHere notUp short found solid, walk, found]
  | case8 links here step rest isDirectory notHere notUp short beside target isLink last =>
    obtain rfl : place = ⟨beside, some (.link target)⟩ := by simpa using reached.symm
    exact isEnd.elim
  | case11 here step rest isDirectory notHere notUp short beside target isLink goesOn named links ih =>
    have stillLink := (passed beside (by simp [isLink, IsEnd])).trans isLink
    rw [walk_link (through isDirectory) notHere notUp short stillLink named goesOn]
    exact ih reached
  | case12 links here step rest isDirectory notHere notUp short beside found notLink there ih =>
    have stillThere : ∃ now, (t.put place.names entry).entryAt? beside = some now ∧
        ∀ target, now ≠ .link target := by
      rw [entryAt?_put t inside]
      split
      · exact ⟨entry, rfl, solid⟩
      · exact ⟨found, there, notLink⟩
    obtain ⟨now, foundNow, solidNow⟩ := stillThere
    rw [walk_through (through isDirectory) notHere notUp short foundNow solidNow]
    exact ih reached

/-- A path that leads somewhere leads somewhere also when a link at its end is not followed. -/
theorem walk_unfollowed (reached : t.walk true links here steps = .ok place)
    (present : place.entry.isSome) :
    ∃ found, t.walk false links here steps = .ok found ∧ found.entry.isSome := by
  fun_induction walk t true links here steps with
  | case1 links here =>
    obtain rfl : place = ⟨here, t.entryAt? here⟩ := by simpa using reached.symm
    exact ⟨_, by rw [walk], present⟩
  | case2 | case5 | case7 | case9 | case10 | case13 => cases reached
  | case3 links here rest isDirectory ih =>
    rw [walk_here isDirectory]
    exact ih reached
  | case4 links here rest isDirectory notHere ih =>
    rw [walk_up isDirectory]
    exact ih reached
  | case6 links here step rest isDirectory notHere notUp short beside missing last =>
    obtain rfl : place = ⟨beside, none⟩ := by simpa using reached.symm
    cases present
  | case8 links here step rest isDirectory notHere notUp short beside target isLink last =>
    simp at last
  | case11 here step rest isDirectory notHere notUp short beside target isLink goesOn named links ih =>
    cases rest with
    | nil => exact ⟨_, walk_lastLink isDirectory notHere notUp short isLink, rfl⟩
    | cons next rest =>
      rw [walk_link isDirectory notHere notUp short isLink named (by simp)]
      exact ih reached
  | case12 links here step rest isDirectory notHere notUp short beside found notLink there ih =>
    rw [walk_through isDirectory notHere notUp short there notLink]
    exact ih reached

end Ways

private theorem locate_eq_ok {place : Place} (reached : t.locate followLast directory path = .ok place) :
    ¬path.toList.contains '\x00' ∧ ¬pathLimit < path.utf8ByteSize ∧ path ≠ "" ∧
      t.walk followLast linkLimit [] (steps (Path.join directory path)) = .ok place := by
  unfold locate follow at reached
  grind

theorem locate_of_walk (named : ¬path.toList.contains '\x00') (short : ¬pathLimit < path.utf8ByteSize)
    (present : path ≠ "") :
    t.locate followLast directory path =
      t.walk followLast linkLimit [] (steps (Path.join directory path)) := by
  rw [locate, follow, if_neg named, if_neg short, if_neg named, if_neg present]

theorem locate_put {place : Place} (entry : FileEntry)
    (reached : t.locate followLast directory path = .ok place) (isEnd : IsEnd place.entry)
    (solid : ∀ target, entry ≠ .link target) :
    (t.put place.names entry).locate followLast directory path = .ok ⟨place.names, some entry⟩ := by
  obtain ⟨named, short, present, reached⟩ := locate_eq_ok reached
  rw [locate_of_walk named short present]
  exact walk_put entry reached isEnd solid

theorem entryAt?_put_locate {place : Place} (reached : t.locate followLast directory path = .ok place)
    (isEnd : IsEnd place.entry) (entry : FileEntry) {other : List String}
    (elsewhere : other ≠ place.names) :
    (t.put place.names entry).entryAt? other = t.entryAt? other := by
  rw [entryAt?_put t (walk_inside (locate_eq_ok reached).2.2.2 isEnd), if_neg elsewhere]

theorem write_cases {content : Frame.Bytes} (written : t.write directory path content = .ok t') :
    (∃ place executable, t.locate true directory path = .ok place ∧ IsEnd place.entry ∧
      t' = t.put place.names (.file content executable)) ∨
    ∃ device, t.look? directory path = some (.device device) ∧ t' = t := by
  unfold write update at written
  cases reached : t.locate true directory path with
  | error e => simp [reached, bind, Except.bind] at written
  | ok place =>
    simp only [reached, bind, Except.bind] at written
    obtain ⟨names, _ | _ | ⟨before, executable⟩ | target | device | name⟩ := place <;> cases written
    · exact .inl ⟨_, _, rfl, trivial, rfl⟩
    · exact .inl ⟨_, _, rfl, trivial, rfl⟩
    · exact .inr ⟨device, by simp [look?, reached], rfl⟩

theorem write_file {names : List String} {before content : Frame.Bytes} {executable : Bool}
    (reached : t.locate true directory path = .ok ⟨names, some (.file before executable)⟩) :
    t.write directory path content = .ok (t.put names (.file content executable)) := by
  rw [write, update, reached]
  rfl

theorem readText_file {names : List String} {text : String} {executable : Bool}
    (reached : t.locate true directory path =
      .ok ⟨names, some (.file (Frame.bytesOf text) executable)⟩) :
    t.readText directory path = .ok text := by
  simp [readText, readBytes, reached, FileEntry.content, bind, Except.bind]

def Grown (t t' : FileTree) : Prop :=
  ∀ names, t'.entryAt? names = t.entryAt? names ∨
    t.entryAt? names = none ∧ t'.entryAt? names = some .directory

theorem Grown.refl (t : FileTree) : Grown t t := fun _ => .inl rfl

theorem Grown.trans {middle : FileTree} (first : Grown t middle) (second : Grown middle t') :
    Grown t t' := by
  intro names
  rcases first names with same | ⟨missing, made⟩ <;> rcases second names with still | ⟨gone, new⟩ <;>
    grind

private theorem makeDirectory_grown (made : t.makeDirectory directory path = .ok t') : Grown t t' := by
  unfold makeDirectory at made
  cases reached : t.locate false directory path with
  | error e => simp [reached, bind, Except.bind] at made
  | ok place =>
    simp only [reached, bind, Except.bind] at made
    obtain ⟨names, _ | entry⟩ := place <;> cases made
    have walked := (locate_eq_ok reached).2.2.2
    have missing : none = t.entryAt? names := walk_entry walked
    have inside : names ≠ [] := walk_inside walked trivial
    intro other
    rw [entryAt?_put t inside]
    split
    · next same => exact .inr ⟨same ▸ missing.symm, rfl⟩
    · exact .inl rfl

private theorem makeParents_grown {fuel : Nat} (made : t.makeParents directory fuel path = .ok t') :
    Grown t t' := by
  fun_induction makeParents t directory fuel path generalizing t' with
  | case1 | case4 | case7 => cases made
  | case2 | case6 =>
    cases made
    exact .refl t
  | case3 fuel path named new there =>
    cases made
    exact makeDirectory_grown there
  | case5 fuel path named missing parent isParent ih =>
    cases around : t.makeParents directory fuel parent with
    | error e => simp [around, bind, Except.bind] at made
    | ok before =>
      simp only [around, bind, Except.bind] at made
      split at made
      · next after there =>
        cases made
        exact (ih around).trans (makeDirectory_grown there)
      · split at made <;> cases made
        exact ih around

theorem makeDirectories_grown (made : t.makeDirectories directory path = .ok t') : Grown t t' :=
  makeParents_grown made

/-- A directory that is there is left as it is. -/
theorem makeDirectories_of_isDirectory (present : t.isDirectory directory path) :
    t.makeDirectories directory path = .ok t := by
  have found : t.look? directory path = some .directory := by simpa [isDirectory] using present
  cases reached : t.locate true directory path with
  | error e => simp [look?, reached] at found
  | ok place =>
    have here : place.entry = some .directory := by simpa [look?, reached] using found
    obtain ⟨named, short, written, reached⟩ := locate_eq_ok reached
    obtain ⟨⟨names, entry⟩, unfollowed, stands⟩ := walk_unfollowed reached (by simp [here])
    obtain ⟨entry, rfl⟩ := Option.isSome_iff_exists.mp stands
    have refused : t.makeDirectory directory path = .error .alreadyExists := by
      rw [makeDirectory, locate_of_walk named short written, unfollowed]
      rfl
    simp [makeDirectories, makeParents, written, refused, present]

end LanguageClient.FileTree
