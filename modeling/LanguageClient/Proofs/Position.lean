import LanguageClient.Position
import LanguageClient.Proofs.Json.Record

/-! What stands for a position and for a range on the wire. Both may be written as an object or as an
array of their fields; an object may have members besides theirs. -/
namespace LanguageClient

private theorem Json.Decoder.uint32_eq_ok_iff {j : Json} {n : UInt32} :
    Json.Decoder.uint32 j = .ok n ↔ j = .whole (.ofUInt32 n) := by
  rw [uint32, Json.map_eq_ok_iff]
  constructor
  · rintro ⟨_, bounded, rfl⟩
    obtain ⟨m, rfl, lower, upper, rfl⟩ := bounded_eq_ok_iff.1 bounded
    have value : ((UInt32.ofNat m.val.toNat).toNat : Int) = m.val := by
      have few : m.val.toNat < UInt32.size := show m.val.toNat < 0x100000000 by omega
      rw [UInt32.toNat_ofNat_of_lt' few]
      omega
    simp only [Json.whole, Json.Whole.ofUInt32, value]
  · rintro rfl
    refine ⟨n.toNat, bounded_eq_ok_iff.2 ⟨_, rfl, by simp [Json.Whole.ofUInt32], ?_, rfl⟩, by simp⟩
    have bound := n.toNat_lt
    simp only [Json.Whole.ofUInt32]
    omega

inductive Position.WrittenAs (p : Position) : Json → Prop
  | object (members : List (String × Json))
      (line : Table.get? members "line" = some (.whole (.ofUInt32 p.line)))
      (character : Table.get? members "character" = some (.whole (.ofUInt32 p.character))) :
      p.WrittenAs (.object members)
  | array : p.WrittenAs (.array [.whole (.ofUInt32 p.line), .whole (.ofUInt32 p.character)])

inductive Range.WrittenAs (r : Range) : Json → Prop
  | object (members : List (String × Json)) (start stop : Json)
      (first : Table.get? members "start" = some start) (last : Table.get? members "end" = some stop)
      (begins : r.start.WrittenAs start) (ends : r.stop.WrittenAs stop) : r.WrittenAs (.object members)
  | array (start stop : Json) (begins : r.start.WrittenAs start) (ends : r.stop.WrittenAs stop) :
      r.WrittenAs (.array [start, stop])

def Position.plain (p : Position) : Json :=
  .object [("character", .whole (.ofUInt32 p.character)), ("line", .whole (.ofUInt32 p.line))]

def Range.plain (r : Range) : Json := .object [("end", r.stop.plain), ("start", r.start.plain)]

private theorem Position.toJson_eq_plain (p : Position) : p.toJson = p.plain := by
  simp [toJson, plain, Json.ofMembers, Table.ofList, Table.insert, show "character" < "line" by decide]

theorem Range.toJson_eq_plain (r : Range) : r.toJson = r.plain := by
  simp [toJson, plain, Json.ofMembers, Table.ofList, Table.insert, Position.toJson_eq_plain,
    show "end" < "start" by decide]

private theorem Position.writtenAs_plain (p : Position) : p.WrittenAs p.plain :=
  .object _ rfl rfl

theorem Range.writtenAs_plain (r : Range) : r.WrittenAs r.plain :=
  .object _ _ _ rfl rfl r.start.writtenAs_plain r.stop.writtenAs_plain

private theorem eq_pair_of_getElem? {α : Type} {items : List α} {a b : α} (few : items.length ≤ 2)
    (first : items[0]? = some a) (second : items[1]? = some b) : items = [a, b] := by
  match items, few, first, second with
  | [x, y], _, first, second => simpa using And.intro first second

private theorem Position.decode_eq_ok_iff {p : Position} {j : Json} :
    Position.decode j = .ok p ↔ p.WrittenAs j := by
  unfold decode record
  rw [Json.Record.decode_eq_ok_iff]
  simp only [Json.Record.read_seq_eq_ok_iff, Json.Record.read_map_eq_ok_iff,
    Json.Record.read_field_eq_ok_iff, Json.Decoder.uint32_eq_ok_iff, Json.Record.lookup]
  constructor
  · rintro (⟨members, rfl, _, character, ⟨line, ⟨_, found, rfl⟩, rfl⟩, ⟨_, found', rfl⟩, rfl⟩ |
      ⟨items, rfl, few, _, character, ⟨line, ⟨_, found, rfl⟩, rfl⟩, ⟨_, found', rfl⟩, rfl⟩)
    · exact .object members found found'
    · obtain rfl := eq_pair_of_getElem? few found found'
      exact .array
  · intro written
    cases written with
    | object members line character =>
      exact .inl ⟨members, rfl, _, _, ⟨_, ⟨_, line, rfl⟩, rfl⟩, ⟨_, character, rfl⟩, rfl⟩
    | array => exact .inr ⟨_, rfl, Nat.le_refl 2, _, _, ⟨_, ⟨_, rfl, rfl⟩, rfl⟩, ⟨_, rfl, rfl⟩, rfl⟩

theorem Range.decode_eq_ok_iff {r : Range} {j : Json} : Range.decode j = .ok r ↔ r.WrittenAs j := by
  unfold decode record
  rw [Json.Record.decode_eq_ok_iff]
  simp only [Json.Record.read_seq_eq_ok_iff, Json.Record.read_map_eq_ok_iff,
    Json.Record.read_field_eq_ok_iff, Position.decode_eq_ok_iff, Json.Record.lookup]
  constructor
  · rintro (⟨members, rfl, _, stop, ⟨start, ⟨_, found, first⟩, rfl⟩, ⟨_, found', last⟩, rfl⟩ |
      ⟨items, rfl, few, _, stop, ⟨start, ⟨_, found, first⟩, rfl⟩, ⟨_, found', last⟩, rfl⟩)
    · exact .object members _ _ found found' first last
    · obtain rfl := eq_pair_of_getElem? few found found'
      exact .array _ _ first last
  · intro written
    cases written with
    | object members start stop first last begins ends =>
      exact .inl ⟨members, rfl, _, _, ⟨_, ⟨_, first, begins⟩, rfl⟩, ⟨_, last, ends⟩, rfl⟩
    | array start stop begins ends =>
      exact .inr ⟨_, rfl, Nat.le_refl 2, _, _, ⟨_, ⟨_, rfl, begins⟩, rfl⟩, ⟨_, rfl, ends⟩, rfl⟩

end LanguageClient
