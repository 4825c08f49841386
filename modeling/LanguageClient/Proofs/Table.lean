import LanguageClient.Table

/-! Tables as finite maps. In a sorted table every key has one place, so two sorted tables with the
same values are the same list. -/
namespace LanguageClient.Table

variable {α β : Type}

theorem get?_insert (t : Table α) (key other : String) (value : α) :
    (t.insert key value).get? other = if other = key then some value else t.get? other := by
  split
  · next same => rw [same, get?_insert_self]
  · next differs => exact get?_insert_of_ne t value differs

theorem get?_erase (t : Table α) (key other : String) :
    (t.erase key).get? other = if other = key then none else t.get? other := by
  split
  · next same => rw [same, get?_erase_self]
  · next differs => exact get?_erase_of_ne t differs

theorem erase_erase (t : Table α) (key : String) : (t.erase key).erase key = t.erase key := by
  simp [erase]

/-- A value put under a key that is taken out goes with it. -/
theorem erase_insert (t : Table α) (key : String) (value : α) : (t.insert key value).erase key = t.erase key := by
  induction t with
  | nil => simp [insert, erase]
  | cons entry rest ih =>
    unfold insert
    split
    · simp [erase]
    · split
      · next same => simp [erase, same]
      · next differs =>
        rw [erase, erase, List.filter_cons_of_pos (by simpa using differs),
          List.filter_cons_of_pos (by simpa using differs)]
        exact congrArg (entry :: ·) ih

/-- Whoever passes over a key does not see it taken out. -/
theorem filter_erase (t : Table α) (key : String) (keep : String → Bool) (passed : keep key = false) :
    (t.erase key).filter (fun entry => keep entry.1) = t.filter fun entry => keep entry.1 := by
  rw [erase, List.filter_filter]
  congr 1
  funext entry
  by_cases same : entry.1 = key <;> simp [same, passed]

theorem get?_of_erase {t : Table α} {key other : String} {value : α}
    (found : (t.erase key).get? other = some value) : t.get? other = some value := by
  rw [get?_erase] at found
  split at found
  · contradiction
  · exact found

theorem erase_eq_self_iff (t : Table α) (key : String) : t.erase key = t ↔ t.get? key = none := by
  constructor
  · intro same
    rw [← same, get?_erase_self]
  · intro absent
    induction t with
    | nil => rfl
    | cons entry rest ih =>
      rw [get?] at absent
      split at absent
      · contradiction
      · next differs =>
        rw [erase, List.filter_cons_of_pos (by simpa using differs)]
        exact congrArg (entry :: ·) (ih absent)

theorem Sorted.erase {t : Table α} (ordered : t.Sorted) (key : String) : (t.erase key).Sorted :=
  List.Pairwise.filter _ ordered

theorem Sorted.mapValues {t : Table α} (ordered : t.Sorted) (f : α → β) :
    (t.mapValues f).Sorted :=
  List.pairwise_map.2 ordered

theorem get?_mapValues (t : Table α) (f : α → β) (key : String) :
    (t.mapValues f).get? key = (t.get? key).map f := by
  induction t with
  | nil => rfl
  | cons entry rest ih =>
    by_cases same : entry.1 = key
    · simp [mapValues, get?, same]
    · simpa [mapValues, get?, same] using ih

theorem mem_of_get? {t : Table α} {key : String} {value : α} (found : t.get? key = some value) :
    (key, value) ∈ t := by
  induction t with
  | nil => contradiction
  | cons entry rest ih =>
    obtain ⟨first, other⟩ := entry
    rw [get?] at found
    split at found
    · next same =>
      cases same
      cases found
      exact List.mem_cons_self
    · exact List.mem_cons_of_mem _ (ih found)

private theorem get?_eq_none_of_lt {t : Table α} {key : String} (before : ∀ entry ∈ t, key < entry.1) :
    t.get? key = none := by
  induction t with
  | nil => rfl
  | cons entry rest ih =>
    have less : key < entry.1 := before entry (by simp)
    have differs : entry.1 ≠ key := fun same => String.lt_irrefl key (same ▸ less)
    simpa [get?, differs] using ih fun e inside => before e (by simp [inside])

theorem get?_eq_none_of_gt {t : Table α} {key : String} (after : ∀ entry ∈ t, entry.1 < key) :
    t.get? key = none := by
  induction t with
  | nil => rfl
  | cons entry rest ih =>
    have less : entry.1 < key := after entry (by simp)
    have differs : entry.1 ≠ key := fun same => String.lt_irrefl key (same ▸ less)
    simpa [get?, differs] using ih fun e inside => after e (by simp [inside])

/-- A sorted table has one entry under a key that it has a value for. -/
theorem Sorted.filter_key {t : Table α} (ordered : t.Sorted) (key : String) :
    t.filter (fun entry => entry.1 = key) = ((t.get? key).map fun value => (key, value)).toList := by
  induction t with
  | nil => rfl
  | cons entry rest ih =>
    obtain ⟨below, ordered⟩ := List.pairwise_cons.1 ordered
    by_cases same : entry.1 = key
    · subst same
      have absent := get?_eq_none_of_lt below
      simp [get?, ih ordered, absent]
    · simp [get?, same, ih ordered]

theorem Sorted.get?_of_mem {t : Table α} (ordered : t.Sorted) {key : String} {value : α}
    (inside : (key, value) ∈ t) : t.get? key = some value := by
  have kept : (key, value) ∈ t.filter fun entry => entry.1 = key := by simp [inside]
  rw [ordered.filter_key] at kept
  cases found : t.get? key with
  | none => simp [found] at kept
  | some other => simpa [found, eq_comm] using kept

/-- No key of a sorted table stands before its first one. -/
theorem Sorted.head_le {rest : Table α} {key other : String} {value found : α}
    (ordered : Sorted ((key, value) :: rest)) (present : get? ((key, value) :: rest) other = some found) :
    key ≤ other := by
  apply String.not_lt.1
  intro less
  have before : ∀ entry ∈ (key, value) :: rest, other < entry.1 := by
    intro entry inside
    rcases List.mem_cons.1 inside with rfl | later
    · exact less
    · exact String.lt_trans less ((List.pairwise_cons.1 ordered).1 entry later)
  rw [get?_eq_none_of_lt before] at present
  contradiction

/-- Sorted tables with the same values are the same. -/
theorem Sorted.ext {t u : Table α} (first : t.Sorted) (second : u.Sorted)
    (same : ∀ key, t.get? key = u.get? key) : t = u := by
  induction t generalizing u with
  | nil =>
    cases u with
    | nil => rfl
    | cons entry rest => simpa [get?] using same entry.1
  | cons entry rest ih =>
    obtain ⟨key, value⟩ := entry
    cases u with
    | nil => simpa [get?] using same key
    | cons other others =>
      obtain ⟨key', value'⟩ := other
      obtain ⟨below, ordered⟩ := List.pairwise_cons.1 first
      obtain ⟨below', ordered'⟩ := List.pairwise_cons.1 second
      have keys : key = key' := by
        have present : get? ((key', value') :: others) key = some value := by
          rw [← same key]
          simp [get?]
        have present' : get? ((key, value) :: rest) key' = some value' := by
          rw [same key']
          simp [get?]
        exact String.le_antisymm (first.head_le present') (second.head_le present)
      subst keys
      have values : value = value' := by simpa [get?] using same key
      subst values
      congr 1
      apply ih ordered ordered'
      intro k
      by_cases found : key = k
      · subst found
        rw [get?_eq_none_of_lt below, get?_eq_none_of_lt below']
      · simpa [get?, found] using same k

/-- An entry whose key is behind all others goes to the end. -/
theorem insert_of_gt {t : Table α} {key : String} (value : α) (after : ∀ entry ∈ t, entry.1 < key) :
    t.insert key value = t ++ [(key, value)] := by
  induction t with
  | nil => rfl
  | cons entry rest ih =>
    obtain ⟨first, other⟩ := entry
    have less : first < key := after (first, other) (by simp)
    have differs : first ≠ key := fun same => String.lt_irrefl key (same ▸ less)
    have notBefore : ¬ key < first := fun before => String.lt_irrefl key (String.lt_trans before less)
    simp only [insert, if_neg notBefore, if_neg differs, List.cons_append]
    rw [ih fun e inside => after e (by simp [inside])]

/-- Taking an entry out before its key is given a value anew makes no difference. -/
theorem Sorted.insert_erase {t : Table α} (ordered : t.Sorted) (key : String) (value : α) :
    (t.erase key).insert key value = t.insert key value := by
  apply Sorted.ext ((ordered.erase key).insert key value) (ordered.insert key value)
  intro other
  rw [get?_insert, get?_insert, get?_erase]
  split <;> rfl

theorem Sorted.nodup_keys {t : Table α} (ordered : t.Sorted) : t.keys.Nodup := by
  refine List.pairwise_map.2 (List.Pairwise.imp ?_ ordered)
  intro first second less same
  exact String.lt_irrefl second.1 (same ▸ less)

theorem Sorted.extend {t : Table α} (ordered : t.Sorted) (more : Table α) : (t.extend more).Sorted := by
  induction more generalizing t with
  | nil => exact ordered
  | cons entry rest ih => exact ih (ordered.insert entry.1 entry.2)

theorem get?_eq_none_of_notMem {t : Table α} {key : String} (absent : key ∉ t.keys) : t.get? key = none := by
  induction t with
  | nil => rfl
  | cons entry rest ih =>
    simp only [keys, List.map_cons, List.mem_cons, not_or] at absent
    rw [get?, if_neg (Ne.symm absent.1)]
    exact ih absent.2

/-- What is put on top counts. -/
theorem get?_extend (t : Table α) {more : Table α} (once : more.keys.Nodup) (key : String) :
    (t.extend more).get? key = (more.get? key).or (t.get? key) := by
  induction more generalizing t with
  | nil => rfl
  | cons entry rest ih =>
    obtain ⟨absent, once⟩ := List.nodup_cons.1 once
    have step : (t.extend (entry :: rest)).get? key =
        (get? rest key).or ((t.insert entry.1 entry.2).get? key) := ih _ once
    rw [step, get?_insert, get?]
    by_cases same : entry.1 = key
    · subst same
      simp [get?_eq_none_of_notMem absent]
    · rw [if_neg (Ne.symm same), if_neg same]

theorem get?_ofList {entries : List (String × α)} (once : (keys entries).Nodup) (key : String) :
    (ofList entries).get? key = get? entries key :=
  (get?_extend [] once key).trans (Option.or_none)

/-- A sorted table is the table of its own entries. -/
theorem Sorted.ofList_eq {t : Table α} (ordered : t.Sorted) : ofList t = t :=
  (sorted_ofList t).ext ordered (get?_ofList ordered.nodup_keys)

theorem get?_filter (t : Table α) (keep : String → Bool) (key : String) :
    get? (t.filter fun entry => keep entry.1) key = if keep key then t.get? key else none := by
  induction t with
  | nil => simp [get?]
  | cons entry rest ih =>
    by_cases same : entry.1 = key
    · subst same
      by_cases kept : keep entry.1 <;> simp [kept, get?, ih]
    · by_cases kept : keep entry.1 <;> simp [kept, get?, same, ih]

end LanguageClient.Table
