/-!
Finite tables with text keys. A table is an association list; `insert` keeps the entries in
ascending key order, which is the order in which tables are written out. The lookup laws hold of
every list, sorted or not; insertion keeps a sorted list sorted.
-/
namespace LanguageClient

abbrev Table (α : Type) := List (String × α)

namespace Table

def get? {α : Type} : Table α → String → Option α
  | [], _ => none
  | (k, v) :: rest, key => if k = key then some v else get? rest key

def contains {α : Type} (t : Table α) (key : String) : Bool := (t.get? key).isSome

def insert {α : Type} : Table α → String → α → Table α
  | [], key, value => [(key, value)]
  | (k, v) :: rest, key, value =>
    if key < k then (key, value) :: (k, v) :: rest
    else if k = key then (key, value) :: rest
    else (k, v) :: insert rest key value

def erase {α : Type} (t : Table α) (key : String) : Table α :=
  t.filter fun entry => entry.1 ≠ key

/-- The table of a list of entries, of which the last with a key counts. -/
def ofList {α : Type} (entries : List (String × α)) : Table α :=
  entries.foldl (fun t entry => t.insert entry.1 entry.2) []

/-- The entries of `more` put on top of `t`. -/
def extend {α : Type} (t more : Table α) : Table α :=
  more.foldl (fun t entry => t.insert entry.1 entry.2) t

def keys {α : Type} (t : Table α) : List String := t.map Prod.fst

def mapValues {α β : Type} (f : α → β) (t : Table α) : Table β :=
  t.map fun entry => (entry.1, f entry.2)

def Sorted {α : Type} (t : Table α) : Prop := t.Pairwise fun a b => a.1 < b.1

@[simp] theorem get?_nil {α : Type} (key : String) : get? ([] : Table α) key = none := rfl

theorem get?_insert_self {α : Type} (t : Table α) (key : String) (value : α) :
    (t.insert key value).get? key = some value := by
  induction t with
  | nil => simp [insert, get?]
  | cons entry rest ih =>
    obtain ⟨k, v⟩ := entry
    unfold insert
    split
    · simp [get?]
    · split
      · simp [get?]
      · next _ differs => simp [get?, differs, ih]

theorem get?_insert_of_ne {α : Type} (t : Table α) {key other : String} (value : α)
    (differs : other ≠ key) : (t.insert key value).get? other = t.get? other := by
  induction t with
  | nil => simp [insert, get?, differs.symm]
  | cons entry rest ih =>
    obtain ⟨k, v⟩ := entry
    unfold insert
    split
    · simp [get?, differs.symm]
    · split
      · next _ same => simp [get?, same, differs.symm]
      · simp only [get?, ih]

theorem get?_erase_self {α : Type} (t : Table α) (key : String) :
    (t.erase key).get? key = none := by
  induction t with
  | nil => rfl
  | cons entry rest ih =>
    obtain ⟨k, v⟩ := entry
    by_cases same : k = key
    · simpa [erase, same] using ih
    · simpa [erase, get?, same] using ih

theorem get?_erase_of_ne {α : Type} (t : Table α) {key other : String}
    (differs : other ≠ key) : (t.erase key).get? other = t.get? other := by
  induction t with
  | nil => rfl
  | cons entry rest ih =>
    obtain ⟨k, v⟩ := entry
    by_cases same : k = key
    · subst same
      simpa [erase, get?, differs.symm] using ih
    · simp only [erase, ne_eq, decide_not] at ih
      simp [erase, same, get?, ih]

/-- An entry of a table after an insertion was put there or was there before. -/
theorem mem_insert {α : Type} {t : Table α} {key : String} {value : α} {entry : String × α}
    (inside : entry ∈ t.insert key value) : entry = (key, value) ∨ entry ∈ t := by
  induction t with
  | nil => exact .inl (by simpa [insert] using inside)
  | cons first rest ih =>
    obtain ⟨k, v⟩ := first
    unfold insert at inside
    split at inside
    · simpa using inside
    · split at inside
      · rcases List.mem_cons.1 inside with same | later
        · exact .inl same
        · exact .inr (List.mem_cons_of_mem _ later)
      · rcases List.mem_cons.1 inside with same | later
        · exact .inr (same ▸ List.mem_cons_self)
        · exact (ih later).imp id (List.mem_cons_of_mem _)

/-- Insertion keeps the entries in ascending key order. -/
theorem Sorted.insert {α : Type} {t : Table α} (ordered : t.Sorted) (key : String) (value : α) :
    (Table.insert t key value).Sorted := by
  induction t with
  | nil => simp [Table.insert, Sorted]
  | cons first rest ih =>
    obtain ⟨k, v⟩ := first
    obtain ⟨below, ordered⟩ := List.pairwise_cons.1 ordered
    unfold Table.insert
    split
    · next before =>
      refine List.pairwise_cons.2 ⟨fun entry later => ?_, List.pairwise_cons.2 ⟨below, ordered⟩⟩
      rcases List.mem_cons.1 later with same | later
      · simpa [same] using before
      · exact String.lt_trans before (below entry later)
    · split
      · next same => exact List.pairwise_cons.2 ⟨fun entry later => same ▸ below entry later, ordered⟩
      · next notBefore differs =>
        refine List.pairwise_cons.2 ⟨fun entry later => ?_, ih ordered⟩
        rcases mem_insert later with same | later
        · subst same
          exact Std.lt_of_le_of_ne (String.not_lt.1 notBefore) differs
        · exact below entry later

theorem sorted_ofList {α : Type} (entries : List (String × α)) : (ofList entries).Sorted := by
  suffices h : ∀ t : Table α, t.Sorted →
      (entries.foldl (fun t entry => t.insert entry.1 entry.2) t).Sorted from h [] .nil
  induction entries with
  | nil => exact fun _ ordered => ordered
  | cons entry rest ih => exact fun t ordered => ih _ (ordered.insert entry.1 entry.2)

end Table

end LanguageClient
