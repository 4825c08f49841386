import LanguageClient.Json.Shape

/-! What it takes to read a record: each of its fields finds a value that its decoder accepts, or may
do without one. -/
namespace LanguageClient.Json

variable {α β : Type}

theorem Decoder.nullable_eq_ok_iff {decode : Decoder α} {j : Json} {a : Option α} :
    Decoder.nullable decode j = .ok a ↔
      j = .null ∧ a = none ∨ j ≠ .null ∧ ∃ b, decode j = .ok b ∧ a = some b := by
  cases j with
  | null => simp [nullable, eq_comm]
  | bool | number | string | array | object =>
    simp only [nullable]
    cases decode _ <;> simp [Except.map, eq_comm]

theorem Decoder.string_eq_ok_iff (j : Json) (s : String) : string j = .ok s ↔ j = .string s := by
  cases j <;> simp [string]

theorem Decoder.json_eq_ok_iff (j value : Json) : json j = .ok value ↔ j = value := by
  simp [json]

theorem Decoder.bounded_eq_ok_iff {lower upper n : Int} {expected : String} {j : Json} :
    Decoder.bounded lower upper expected j = .ok n ↔
      ∃ m : Whole, j = .whole m ∧ lower ≤ m.val ∧ m.val ≤ upper ∧ m.val = n := by
  constructor
  · intro read
    unfold bounded at read
    split at read
    · next m =>
      split at read
      · next inside => exact ⟨m, rfl, inside.1, inside.2, Except.ok.inj read⟩
      · contradiction
    · contradiction
  · rintro ⟨m, rfl, least, most, rfl⟩
    exact if_pos ⟨least, most⟩

theorem map_eq_ok_iff {ε : Type} {f : α → β} {x : Except ε α} {b : β} :
    x.map f = .ok b ↔ ∃ a, x = .ok a ∧ f a = b := by
  cases x <;> simp [Except.map]

theorem mapError_eq_ok_iff {ε ε' : Type} {f : ε → ε'} {x : Except ε α} {a : α} : x.mapError f = .ok a ↔ x = .ok a := by
  cases x with
  | ok b =>
    constructor <;> rintro ⟨⟩ <;> rfl
  | error e =>
    constructor <;> rintro ⟨⟩

namespace Record

section Fields
variable {name : String} {decode : Decoder α} {source : Source} {position : Nat}

theorem read_field_eq_ok_iff {a : α} : (field name decode).read source position = .ok a ↔
    ∃ j, lookup source name position = some j ∧ decode j = .ok a := by
  unfold field
  conv in Record.read _ _ _ => whnf
  cases lookup source name position with
  | none => simp
  | some j => cases h : decode j <;> simp [h]

theorem read_optionalWithDefault_eq_ok_iff {a : Option α} :
    (optionalWithDefault name decode).read source position = .ok a ↔
      lookup source name position = none ∧ a = none ∨
        ∃ j, lookup source name position = some j ∧ Decoder.nullable decode j = .ok a := by
  unfold optionalWithDefault
  conv in Record.read _ _ _ => whnf
  cases lookup source name position with
  | none => simp [eq_comm]
  | some j => cases h : Decoder.nullable decode j <;> simp [h]

theorem read_optional_eq_ok_iff {members : List (String × Json)} {a : Option α} :
    (optional name decode).read (.members members) position = .ok a ↔
      Table.get? members name = none ∧ a = none ∨
        ∃ j, Table.get? members name = some j ∧ Decoder.nullable decode j = .ok a := by
  unfold optional
  conv in Record.read _ _ _ => whnf
  have looked : Table.get? members name = lookup (.members members) name position := rfl
  rw [looked]
  cases lookup (.members members) name position with
  | none => simp [eq_comm]
  | some j => cases h : Decoder.nullable decode j <;> simp [h]

theorem read_map_eq_ok_iff {g : α → β} {record : Record α} {b : β} :
    (g <$> record).read source position = .ok b ↔ ∃ a, record.read source position = .ok a ∧ g a = b := by
  change (record.read source position).map g = _ ↔ _
  cases record.read source position <;> simp [Except.map]

theorem read_seq_eq_ok_iff {f : Record (α → β)} {record : Record α} {b : β} :
    (f <*> record).read source position = .ok b ↔
      ∃ g a, f.read source position = .ok g ∧ record.read source (position + f.size) = .ok a ∧ g a = b := by
  change (Record.seq f record).read source position = .ok b ↔ _
  unfold Record.seq
  cases first : f.read source position <;> cases second : record.read source (position + f.size) <;>
    simp [first, second]

end Fields

section Mapped
variable {γ : Type} {name : String}

private theorem ext {record other : Record α} (size : record.size = other.size)
    (read : ∀ source position, record.read source position = other.read source position) : record = other := by
  cases record
  cases other
  cases size
  exact congrArg (Record.mk _) (funext fun source => funext (read source))

theorem size_map (g : α → β) (record : Record α) : (g <$> record).size = record.size := rfl

theorem read_map (g : α → β) (record : Record α) (source : Source) (position : Nat) :
    (g <$> record).read source position = (record.read source position).map g := rfl

theorem read_seq (f : Record (α → β)) (record : Record α) (source : Source) (position : Nat) :
    (f <*> record).read source position =
      match f.read source position, record.read source (position + f.size) with
      | .ok g, .ok a => .ok (g a)
      | .error e, .ok _ => .error e
      | .ok _, .error e => .error e
      | .error d, .error e => .error ⟨d.bad ++ e.bad, d.missing ++ e.missing⟩ := rfl

theorem read_withDefault (decode : Decoder α) (value : α) (source : Source) (position : Nat) :
    (withDefault name decode value).read source position =
      match lookup source name position with
      | some j =>
        match decode j with
        | .ok a => .ok a
        | .error e => .error ⟨[(name, e)], []⟩
      | none => .ok value := rfl

theorem map_map (g : α → β) (h : β → γ) (record : Record α) : h <$> (g <$> record) = (fun a => h (g a)) <$> record := by
  refine ext rfl fun source position => ?_
  simp only [read_map]
  cases record.read source position <;> rfl

theorem map_seq (g : β → γ) (f : Record (α → β)) (record : Record α) :
    g <$> (f <*> record) = (fun (h : α → β) a => g (h a)) <$> f <*> record := by
  refine ext rfl fun source position => ?_
  simp only [read_map, read_seq, size_map]
  cases f.read source position <;> cases record.read source (position + f.size) <;> rfl

theorem seq_map (f : Record (β → γ)) (g : α → β) (record : Record α) :
    f <*> (g <$> record) = (fun (h : β → γ) a => h (g a)) <$> f <*> record := by
  refine ext rfl fun source position => ?_
  simp only [read_map, read_seq, size_map]
  cases f.read source position <;> cases record.read source (position + f.size) <;> rfl

theorem decodeWith_map (spare : Bool) (g : α → β) (record : Record α) (j : Json) :
    (g <$> record).decodeWith spare name j = (record.decodeWith spare name j).map g := by
  unfold decodeWith
  cases j with
  | object members =>
    simp only [read_map]
    cases record.read (.members members) 0 <;> rfl
  | array items =>
    simp only [read_map]
    cases record.read (.items items) 0 with
    | error faults => rfl
    | ok a =>
      exact (apply_ite (Except.map g) ((spare || items.length ≤ record.size) = true) (.ok a)
        (.error (ShapeError.tooLong items.length))).symm
  | null | bool | number | string => rfl

def ifPresent (name : String) (decode : Decoder α) : Record (Option α) :=
  withDefault name (fun j => (decode j).map some) none

/-- A value of its own is put in after the field was found absent. -/
theorem withDefault_eq_ifPresent (decode : Decoder α) (value : α) :
    withDefault name decode value = (fun a => a.getD value) <$> ifPresent name decode := by
  refine ext rfl fun source position => ?_
  simp only [ifPresent, read_map, read_withDefault]
  cases lookup source name position with
  | none => rfl
  | some j =>
    dsimp only
    cases decode j <;> rfl

theorem ifPresent_map (decode : Decoder α) (g : α → β) :
    ifPresent name (fun j => (decode j).map g) = Option.map g <$> ifPresent name decode := by
  refine ext rfl fun source position => ?_
  simp only [ifPresent, read_map, read_withDefault]
  cases lookup source name position with
  | none => rfl
  | some j =>
    dsimp only
    cases decode j <;> rfl

end Mapped

theorem decode_eq_ok_iff {record : Record α} {name : String} {j : Json} {a : α} :
    record.decode name j = .ok a ↔
      (∃ members, j = .object members ∧ record.read (.members members) 0 = .ok a) ∨
      ∃ items, j = .array items ∧ items.length ≤ record.size ∧ record.read (.items items) 0 = .ok a := by
  unfold decode decodeWith
  cases j with
  | object members => cases h : record.read (.members members) 0 <;> simp [h]
  | array items =>
    cases h : record.read (.items items) 0 with
    | error faults => simp [h]
    | ok b => by_cases few : items.length ≤ record.size <;> simp [h, few]
  | null | bool | number | string => simp

theorem decode_object_eq_ok_iff {record : Record α} {name : String} {t : Table Json} {a : α} :
    record.decode name (.object t) = .ok a ↔ record.read (.members t) 0 = .ok a := by
  simp [decode_eq_ok_iff]

theorem decodeOpen_eq_ok_iff {record : Record α} {name : String} {known : List String} {j : Json}
    {a : α} {rest : Table Json} : record.decodeOpen name known j = .ok (a, rest) ↔
      ∃ members, j = .object members ∧ record.read (.members members) 0 = .ok a ∧
        rest = members.filter fun entry => !known.contains entry.1 := by
  unfold decodeOpen
  cases j with
  | object members =>
    cases h : record.read (.members members) 0 <;> simp [h, eq_comm]
  | null | bool | number | string | array => simp

section Readable
variable {name : String} {decode : Decoder α} {source : Source} {position : Nat}

theorem exists_read_field {t : Table Json} : (∃ a, (field name decode).read (.members t) position = .ok a) ↔
    ∃ j, t.get? name = some j ∧ ∃ a, decode j = .ok a := by
  simp only [read_field_eq_ok_iff, lookup]
  exact ⟨fun ⟨a, j, found, read⟩ => ⟨j, found, a, read⟩, fun ⟨j, found, a, read⟩ => ⟨a, j, found, read⟩⟩

theorem exists_read_optional {t : Table Json} :
    (∃ a, (optional name decode).read (.members t) position = .ok a) ↔
      ∀ j, t.get? name = some j → j = .null ∨ ∃ a, decode j = .ok a := by
  simp only [read_optional_eq_ok_iff, Decoder.nullable_eq_ok_iff]
  constructor
  · rintro ⟨_, ⟨absent, -⟩ | ⟨j', found', read⟩⟩ j found
    · rw [absent] at found
      contradiction
    · cases found'.symm.trans found
      rcases read with ⟨null, -⟩ | ⟨-, a, read, -⟩
      · exact .inl null
      · exact .inr ⟨a, read⟩
  · intro accepted
    cases found : t.get? name with
    | none => exact ⟨none, .inl ⟨rfl, rfl⟩⟩
    | some j =>
      by_cases null : j = .null
      · exact ⟨none, .inr ⟨j, rfl, .inl ⟨null, rfl⟩⟩⟩
      · obtain ⟨a, read⟩ := (accepted j found).resolve_left null
        exact ⟨some a, .inr ⟨j, rfl, .inr ⟨null, a, read, rfl⟩⟩⟩

theorem exists_read_map {g : α → β} {record : Record α} :
    (∃ b, (g <$> record).read source position = .ok b) ↔ ∃ a, record.read source position = .ok a := by
  simp only [read_map_eq_ok_iff]
  exact ⟨fun ⟨_, a, read, _⟩ => ⟨a, read⟩, fun ⟨a, read⟩ => ⟨_, a, read, rfl⟩⟩

theorem exists_read_seq {f : Record (α → β)} {record : Record α} :
    (∃ b, (f <*> record).read source position = .ok b) ↔
      (∃ g, f.read source position = .ok g) ∧ ∃ a, record.read source (position + f.size) = .ok a := by
  simp only [read_seq_eq_ok_iff]
  exact ⟨fun ⟨_, g, a, first, second, _⟩ => ⟨⟨g, first⟩, a, second⟩,
    fun ⟨⟨g, first⟩, a, second⟩ => ⟨_, g, a, first, second, rfl⟩⟩

end Readable

def ReadsOnly (record : Record α) (keys : List String) : Prop :=
  ∀ (t u : Table Json) (position : Nat), (∀ key ∈ keys, t.get? key = u.get? key) →
    record.read (.members t) position = record.read (.members u) position

namespace ReadsOnly

variable {name : String} {keys : List String}

theorem field (decode : Decoder α) : (Record.field name decode).ReadsOnly [name] := by
  intro t u position same
  have found : lookup (.members t) name position = lookup (.members u) name position := same name (by simp)
  unfold Record.field
  conv => lhs; whnf
  conv => rhs; whnf
  rw [found]

theorem optional (decode : Decoder α) : (Record.optional name decode).ReadsOnly [name] := by
  intro t u position same
  have found : lookup (.members t) name position = lookup (.members u) name position := same name (by simp)
  unfold Record.optional
  conv => lhs; whnf
  conv => rhs; whnf
  rw [found]

theorem optionalWithDefault (decode : Decoder α) : (Record.optionalWithDefault name decode).ReadsOnly [name] := by
  intro t u position same
  have found : lookup (.members t) name position = lookup (.members u) name position := same name (by simp)
  unfold Record.optionalWithDefault
  conv => lhs; whnf
  conv => rhs; whnf
  rw [found]

theorem map {record : Record α} (reads : record.ReadsOnly keys) (g : α → β) : (g <$> record).ReadsOnly keys := by
  intro t u position same
  exact congrArg (Except.map g) (reads t u position same)

theorem seq {keys' : List String} {f : Record (α → β)} {record : Record α} (first : f.ReadsOnly keys)
    (second : record.ReadsOnly keys') : (f <*> record).ReadsOnly (keys ++ keys') := by
  intro t u position same
  obtain ⟨sameFirst, sameSecond⟩ := List.forall_mem_append.1 same
  change (Record.seq f record).read _ _ = (Record.seq f record).read _ _
  unfold Record.seq
  dsimp only
  rw [first t u position sameFirst, second t u _ sameSecond]

theorem decode {record : Record α} (reads : record.ReadsOnly keys) (name : String) {t u : Table Json}
    (same : ∀ key ∈ keys, t.get? key = u.get? key) :
    record.decode name (.object t) = record.decode name (.object u) := by
  unfold Record.decode decodeWith
  dsimp only
  rw [reads t u 0 same]

end ReadsOnly

end Record

end LanguageClient.Json
