import LanguageClient.Diagnostic
import LanguageClient.Proofs.Position
import LanguageClient.Proofs.Table

/-! Diagnostics pass through. A diagnostic that is decoded and encoded again has the members that it
came with: only members that are null may go, and a range is written out as a plain object. What a
diagnostic is decoded to is said member by member in `Reads`, from which both directions follow. -/
namespace LanguageClient

theorem Severity.toJson_eq_whole (s : Severity) : ∃ m : Json.Whole, s.toJson = .whole m ∧ m.val = s.code := by
  cases s <;> exact ⟨_, rfl, rfl⟩

private theorem Severity.ofCode?_eq_some_iff {n : Nat} {s : Severity} : ofCode? n = some s ↔ n = s.code := by
  constructor
  · intro known
    unfold ofCode? at known
    split at known
    all_goals cases known
    all_goals rfl
  · rintro rfl
    cases s <;> rfl

theorem Severity.decode_eq_ok_iff {s : Severity} {j : Json} : Severity.decode j = .ok s ↔ j = s.toJson := by
  obtain ⟨m, written, code⟩ := s.toJson_eq_whole
  rw [written]
  constructor
  · intro read
    unfold decode at read
    cases small : Json.Decoder.uint8 j with
    | error e => rw [small] at read; contradiction
    | ok n =>
      rw [small] at read
      obtain ⟨_, bounded, rfl⟩ := Json.map_eq_ok_iff.1 small
      obtain ⟨m', rfl, lower, -, rfl⟩ := Json.Decoder.bounded_eq_ok_iff.1 bounded
      dsimp only [bind, Except.bind] at read
      split at read
      · next found =>
        cases read
        have same : m'.val = m.val := by
          have := ofCode?_eq_some_iff.1 found
          omega
        obtain ⟨_, _, _⟩ := m'
        obtain ⟨_, _, _⟩ := m
        cases same
        rfl
      · contradiction
  · rintro rfl
    have few : m.val ≤ 0xFF := by cases s <;> simp_all [Severity.code]
    have small : Json.Decoder.uint8 (.whole m) = .ok s.code :=
      Json.map_eq_ok_iff.2 ⟨m.val, Json.Decoder.bounded_eq_ok_iff.2 ⟨m, rfl, by omega, few, rfl⟩, by omega⟩
    unfold decode
    rw [small]
    dsimp only [bind, Except.bind]
    rw [ofCode?_eq_some_iff.2 rfl]
    rfl

namespace Diagnostic

inductive MemberRead {α : Type} (WrittenAs : α → Json → Prop) : Option Json → Option α → Prop
  | absent : MemberRead WrittenAs none none
  | null : MemberRead WrittenAs (some .null) none
  | present (j : Json) (a : α) (written : WrittenAs a j) (notNull : j ≠ .null) :
      MemberRead WrittenAs (some j) (some a)

inductive SeverityRead : Option Json → Option Severity → Option Json → Prop
  | absent : SeverityRead none none none
  | known (s : Severity) : SeverityRead (some s.toJson) (some s) none
  | odd (j : Json) (unknown : ∀ s : Severity, j ≠ s.toJson) : SeverityRead (some j) none (some j)

private theorem read_optional_iff {α : Type} {name : String} {decode : Json.Decoder α}
    {WrittenAs : α → Json → Prop} (decodes : ∀ j a, decode j = .ok a ↔ WrittenAs a j)
    {members : Table Json} {position : Nat} {a : Option α} :
    (Json.Record.optionalWithDefault name decode).read (.members members) position = .ok a ↔
      MemberRead WrittenAs (members.get? name) a := by
  rw [Json.Record.read_optionalWithDefault_eq_ok_iff]
  simp only [Json.Record.lookup, Json.Decoder.nullable_eq_ok_iff, decodes]
  constructor
  · rintro (⟨absent, rfl⟩ | ⟨j, found, ⟨rfl, rfl⟩ | ⟨notNull, b, written, rfl⟩⟩)
    · exact absent ▸ .absent
    · exact found ▸ .null
    · exact found ▸ .present j b written notNull
  · intro read
    generalize members.get? name = member at read
    cases read with
    | absent => exact .inl ⟨rfl, rfl⟩
    | null => exact .inr ⟨_, rfl, .inl ⟨rfl, rfl⟩⟩
    | present j b written notNull => exact .inr ⟨j, rfl, .inr ⟨notNull, b, written, rfl⟩⟩

private theorem readSeverity_eq_iff {value : Option Json} {extra extra' : Table Json} (sorted : extra.Sorted)
    (free : extra.get? "severity" = none) {s : Option Severity} :
    readSeverity value extra = (s, extra') ↔
      SeverityRead value s (extra'.get? "severity") ∧ extra'.Sorted ∧
        ∀ key, key ≠ "severity" → extra'.get? key = extra.get? key := by
  constructor
  · intro read
    unfold readSeverity at read
    split at read
    · cases read
      exact ⟨free ▸ .absent, sorted, fun _ _ => rfl⟩
    · next j =>
      split at read
      · next known =>
        cases read
        rw [Severity.decode_eq_ok_iff.1 known]
        exact ⟨free ▸ .known _, sorted, fun _ _ => rfl⟩
      · next e odd =>
        cases read
        have unknown : ∀ s : Severity, j ≠ s.toJson := by
          intro s written
          rw [Severity.decode_eq_ok_iff.2 written] at odd
          contradiction
        rw [Table.get?_insert_self]
        exact ⟨.odd j unknown, sorted.insert _ _, fun key other => Table.get?_insert_of_ne _ _ other⟩
  · rintro ⟨read, sorted', others⟩
    have same (kept : Table Json) (ordered : kept.Sorted)
        (here : kept.get? "severity" = extra'.get? "severity")
        (elsewhere : ∀ key, key ≠ "severity" → kept.get? key = extra.get? key) : kept = extra' := by
      apply ordered.ext sorted'
      intro key
      by_cases severity : key = "severity"
      · rw [severity, here]
      · rw [elsewhere key severity, others key severity]
    generalize at_ : extra'.get? "severity" = odd at read
    cases read with
    | absent => rw [readSeverity, same extra sorted (free.trans at_.symm) fun _ _ => rfl]
    | known s =>
      rw [readSeverity, Severity.decode_eq_ok_iff.2 rfl, same extra sorted (free.trans at_.symm) fun _ _ => rfl]
    | odd j unknown =>
      cases read : Severity.decode j with
      | ok s => exact absurd (Severity.decode_eq_ok_iff.1 read) (unknown s)
      | error e =>
        simp only [readSeverity, read]
        rw [same (extra.insert "severity" j) (sorted.insert _ _)
          ((Table.get?_insert_self _ _ _).trans at_.symm) fun key other => Table.get?_insert_of_ne _ _ other]

structure Reads (members : Table Json) (d : Diagnostic) : Prop where
  range : MemberRead Range.WrittenAs (members.get? "range") d.range
  severity : ∃ value, MemberRead (fun value j => j = value) (members.get? "severity") value ∧
    SeverityRead value d.severity (d.extra.get? "severity")
  source : MemberRead (fun text j => j = .string text) (members.get? "source") d.source
  message : members.get? "message" = some (.string d.message)
  sorted : d.extra.Sorted
  others : ∀ key, key ≠ "severity" →
    d.extra.get? key = if key ∈ Wire.fieldNames then none else members.get? key

private theorem get?_others (members : Table Json) (key : String) :
    Table.get? (members.filter fun entry => !Wire.fieldNames.contains entry.1) key =
      if key ∈ Wire.fieldNames then none else members.get? key := by
  rw [Table.get?_filter members (fun name => !Wire.fieldNames.contains name) key]
  by_cases own : key ∈ Wire.fieldNames <;> simp [own]

theorem Wire.read_eq_ok_iff {members : Table Json} {wire : Wire} :
    record.read (.members members) 0 = .ok wire ↔
      MemberRead Range.WrittenAs (members.get? "range") wire.range ∧
        MemberRead (fun value j => j = value) (members.get? "severity") wire.severity ∧
        MemberRead (fun text j => j = .string text) (members.get? "source") wire.source ∧
        members.get? "message" = some (.string wire.message) := by
  unfold record
  simp only [Json.Record.read_seq_eq_ok_iff, Json.Record.read_map_eq_ok_iff, Json.Record.read_field_eq_ok_iff,
    read_optional_iff (fun _ _ => Range.decode_eq_ok_iff), read_optional_iff Json.Decoder.string_eq_ok_iff,
    read_optional_iff Json.Decoder.json_eq_ok_iff, Json.Decoder.string_eq_ok_iff, Json.Record.lookup]
  constructor
  · rintro ⟨_, message, ⟨_, source, ⟨_, severity, ⟨range, read, rfl⟩, read', rfl⟩, read'', rfl⟩,
      ⟨_, found, rfl⟩, rfl⟩
    exact ⟨read, read', read'', found⟩
  · rintro ⟨read, read', read'', found⟩
    exact ⟨_, _, ⟨_, _, ⟨_, _, ⟨_, read, rfl⟩, read', rfl⟩, read'', rfl⟩, ⟨_, found, rfl⟩, rfl⟩

private theorem decode_eq_ok_iff {members : Table Json} (sorted : members.Sorted) {d : Diagnostic} :
    Diagnostic.decode (.object members) = .ok d ↔ Reads members d := by
  have kept : Table.Sorted (members.filter fun entry => !Wire.fieldNames.contains entry.1) := sorted.filter _
  have free := get?_others members "severity"
  rw [if_pos (by decide)] at free
  unfold Diagnostic.decode
  simp only [Json.map_eq_ok_iff, Prod.exists, Json.Record.decodeOpen_eq_ok_iff, Json.object.injEq,
    Wire.read_eq_ok_iff]
  constructor
  · rintro ⟨wire, _, ⟨_, rfl, ⟨range, severity, source, message⟩, rfl⟩, rfl⟩
    obtain ⟨read, sorted', others⟩ := (readSeverity_eq_iff kept free).1 (Prod.eta _).symm
    exact ⟨range, ⟨_, severity, read⟩, source, message, sorted',
      fun key other => (others key other).trans (get?_others members key)⟩
  · rintro ⟨range, ⟨value, severity, read⟩, source, message, sorted', others⟩
    refine ⟨⟨d.range, value, d.source, d.message⟩, _, ⟨_, rfl, ⟨range, severity, source, message⟩, rfl⟩, ?_⟩
    have typed := (readSeverity_eq_iff kept free).2
      ⟨read, sorted', fun key other => (others key other).trans (get?_others members key).symm⟩
    simp only [ofWire, typed]

private theorem get?_ownMembers (d : Diagnostic) (key : String) : Table.get? (Table.ofList d.ownMembers) key =
    if key = "range" then d.range.map Range.toJson
    else if key = "severity" then d.severity.map Severity.toJson
    else if key = "source" then d.source.map .string
    else if key = "message" then some (.string d.message)
    else none := by
  obtain ⟨range, severity, source, message, extra⟩ := d
  have keys : key ∈ Wire.fieldNames ∨ key ∉ Wire.fieldNames := Decidable.em _
  simp only [Wire.fieldNames, List.mem_cons, List.not_mem_nil, or_false, not_or] at keys
  rcases keys with (rfl | rfl | rfl | rfl) | ⟨noRange, noSeverity, noSource, noMessage⟩ <;>
    cases range <;> cases severity <;> cases source <;>
    simp [ownMembers, Json.memberIfSome, Table.ofList, Table.get?_insert, *]

/-- What the diagnostic of these members is written out as: a null is left out of its own members, a
range is the plain object of its positions, and all else is as it came. -/
structure PassesThrough (members encoded : Table Json) : Prop where
  sorted : encoded.Sorted
  range : ∃ r : Option Range, MemberRead Range.WrittenAs (members.get? "range") r ∧
    encoded.get? "range" = r.map Range.plain
  optional : ∀ key ∈ ["severity", "source"], encoded.get? key = (members.get? key).filter (· ≠ .null)
  others : ∀ key, key ∉ ["range", "severity", "source"] → encoded.get? key = members.get? key

section
variable {members : Table Json} {d : Diagnostic}

private theorem SeverityRead.or_eq {value : Option Json} {s : Option Severity} {odd : Option Json}
    (read : SeverityRead value s odd) : odd.or (s.map Severity.toJson) = value := by
  cases read <;> rfl

private theorem MemberRead.map_eq {α : Type} {encode : α → Json} {member : Option Json} {a : Option α}
    (read : MemberRead (fun a j => j = encode a) member a) : a.map encode = member.filter (· ≠ .null) := by
  cases read with
  | absent | null => rfl
  | present j a written notNull =>
    rw [Option.filter_some_pos (by simpa using notNull), Option.map_some, written]

private theorem MemberRead.filter {α : Type} {WrittenAs : α → Json → Prop} {member : Option Json} {a : Option α}
    (read : MemberRead WrittenAs member a) : MemberRead WrittenAs (member.filter (· ≠ .null)) a := by
  cases read with
  | absent | null => exact .absent
  | present j a written notNull =>
    rw [Option.filter_some_pos (by simpa using notNull)]
    exact .present j a written notNull

private theorem Reads.get?_encoded (reads : Reads members d) (key : String) :
    (Table.extend (Table.ofList d.ownMembers) d.extra).get? key =
      if key = "range" then d.range.map Range.plain
      else if key ∈ ["severity", "source"] then (members.get? key).filter (· ≠ .null)
      else members.get? key := by
  rw [Table.get?_extend _ reads.sorted.nodup_keys, get?_ownMembers]
  by_cases severity : key = "severity"
  · subst severity
    obtain ⟨value, read, typed⟩ := reads.severity
    have filtered : value = (members.get? "severity").filter (· ≠ .null) := by
      simpa using @MemberRead.map_eq _ id _ _ read
    simpa [typed.or_eq] using filtered
  · rw [reads.others key severity]
    by_cases own : key ∈ Wire.fieldNames
    · have keys : key = "range" ∨ key = "source" ∨ key = "message" := by
        simpa [Wire.fieldNames, severity] using own
      rw [if_pos own, Option.none_or]
      rcases keys with rfl | rfl | rfl
      · simp [funext Range.toJson_eq_plain]
      · simpa using reads.source.map_eq
      · simp [reads.message]
    · simp_all [Wire.fieldNames]

private theorem Reads.encoded (reads : Reads members d) :
    PassesThrough members (Table.extend (Table.ofList d.ownMembers) d.extra) where
  sorted := (Table.sorted_ofList _).extend _
  range := ⟨d.range, reads.range, reads.get?_encoded "range"⟩
  optional key own := by
    have other : key ≠ "range" := by rintro rfl; contradiction
    rw [reads.get?_encoded, if_neg other, if_pos own]
  others key other := by
    simp_all [reads.get?_encoded key]

private theorem Reads.again (reads : Reads members d) :
    Reads (Table.extend (Table.ofList d.ownMembers) d.extra) d where
  range := by
    rw [reads.get?_encoded]
    cases d.range with
    | none => exact .absent
    | some r => exact .present _ r r.writtenAs_plain (by simp [Range.plain])
  severity := by
    obtain ⟨value, read, typed⟩ := reads.severity
    rw [reads.get?_encoded]
    exact ⟨value, read.filter, typed⟩
  source := by
    rw [reads.get?_encoded]
    exact reads.source.filter
  message := (reads.get?_encoded "message").trans reads.message
  sorted := reads.sorted
  others key other := by
    rw [reads.get?_encoded, reads.others key other]
    by_cases own : key ∈ Wire.fieldNames
    · rw [if_pos own, if_pos own]
    · simp_all [Wire.fieldNames]

end

/-- Nothing is lost between decoding and encoding, and nothing is added. -/
theorem reencoded {members : Table Json} (sorted : members.Sorted) {d : Diagnostic}
    (decoded : Diagnostic.decode (.object members) = .ok d) :
    ∃ encoded : Table Json, d.toJson = .object encoded ∧ PassesThrough members encoded ∧
      Diagnostic.decode (.object encoded) = .ok d := by
  have reads := (decode_eq_ok_iff sorted).1 decoded
  have passes := reads.encoded
  exact ⟨_, rfl, passes, (decode_eq_ok_iff passes.sorted).2 reads.again⟩

/-- A range that is an array, a severity in words, a source that is null, and a member of no field. -/
def outlandish : Table Json :=
  [("message", .string "unknown identifier"),
    ("range", .array [.array [.ofNat 2, .ofNat 0], .object [("character", .ofNat 5), ("line", .ofNat 2)]]),
    ("severity", .string "fatal"), ("source", .null), ("tags", .object [("deep", .array [.null])])]

theorem reencoded_outlandish : ∃ d, Diagnostic.decode (.object outlandish) = .ok d ∧
    d.severity = none ∧ ∃ encoded : Table Json, d.toJson = .object encoded ∧
      PassesThrough outlandish encoded ∧ Diagnostic.decode (.object encoded) = .ok d := by
  have sorted : outlandish.Sorted := by
    unfold Table.Sorted outlandish
    decide
  refine ⟨⟨some ⟨⟨2, 0⟩, ⟨2, 5⟩⟩, none, none, "unknown identifier",
    [("severity", .string "fatal"), ("tags", .object [("deep", .array [.null])])]⟩, ?_, rfl, ?_⟩
  · rfl
  · exact reencoded sorted rfl

end Diagnostic

end LanguageClient
