import LanguageClient.Report
import LanguageClient.Proofs.Diagnostic.Reencoding
import Mathlib.Data.List.Forall2

/-! Diagnostics as they are shown. Each entry of a publication is shown once and in its place, with its own
message, source and range, and the errors are counted alike wherever they are counted: among the entries
as they were sent, among the diagnostics they are read as, and by the names that are shown. -/
namespace LanguageClient

private theorem Json.Decoder.items_eq_ok_iff {α : Type} {decode : Decoder α} {items : List Json} {as : List α} :
    Decoder.items decode items = .ok as ↔ List.Forall₂ (fun j a => decode j = .ok a) items as := by
  induction items generalizing as with
  | nil => cases as <;> simp [Decoder.items]
  | cons j rest ih =>
    unfold Decoder.items
    cases first : decode j with
    | error e => cases as <;> simp [first, bind, Except.bind]
    | ok a =>
      cases others : Decoder.items decode rest with
      | error e => cases as <;> simp [first, ← ih, others, bind, Except.bind]
      | ok more => cases as <;> simp [first, ← ih, others, bind, Except.bind, pure, Except.pure]

/-- An entry counts as an error unless its severity is one of the others. -/
def CountsAsError (entry : Json) : Prop := ∀ code ∈ [2, 3, 4], entry.get? "severity" ≠ some (.ofNat code)

instance : DecidablePred CountsAsError := fun entry =>
  inferInstanceAs (Decidable (∀ code ∈ [2, 3, 4], entry.get? "severity" ≠ some (.ofNat code)))

namespace Diagnostic

structure ReadFrom (entry : Json) (d : Diagnostic) : Prop where
  range : MemberRead Range.WrittenAs (entry.get? "range") d.range
  severity : ∀ s, d.severity = some s ↔ entry.get? "severity" = some s.toJson
  source : MemberRead (fun text j => j = .string text) (entry.get? "source") d.source
  message : entry.get? "message" = some (.string d.message)

private theorem readSeverity_eq_some_iff {value : Option Json} {extra : Table Json} {s : Severity} :
    (readSeverity value extra).1 = some s ↔ value = some s.toJson := by
  cases value with
  | none => simp [readSeverity]
  | some j =>
    rw [Option.some.injEq, ← Severity.decode_eq_ok_iff]
    unfold readSeverity
    dsimp only
    cases Severity.decode j <;> simp

private theorem readFrom_of_decode {entry : Json} {d : Diagnostic} (decoded : decode entry = .ok d) :
    ReadFrom entry d := by
  unfold Diagnostic.decode at decoded
  simp only [Json.map_eq_ok_iff, Prod.exists, Json.Record.decodeOpen_eq_ok_iff, Wire.read_eq_ok_iff] at decoded
  obtain ⟨wire, extra, ⟨members, rfl, ⟨range, severity, source, message⟩, -⟩, rfl⟩ := decoded
  refine ⟨range, fun s => ?_, source, message⟩
  change (readSeverity wire.severity extra).1 = some s ↔ Table.get? members "severity" = _
  rw [readSeverity_eq_some_iff]
  generalize wire.severity = value at severity
  generalize Table.get? members "severity" = member at severity
  obtain ⟨code, written, -⟩ := s.toJson_eq_whole
  cases severity with
  | absent => rfl
  | null => simp [written, Json.whole]
  | present j value same => rw [same]

private theorem ReadFrom.isError_iff {entry : Json} {d : Diagnostic} (read : ReadFrom entry d) :
    d.effectiveSeverity = .error ↔ CountsAsError entry := by
  unfold effectiveSeverity CountsAsError
  cases known : d.severity with
  | none =>
    refine ⟨fun _ code isOther found => ?_, fun _ => rfl⟩
    have other : ∃ s : Severity, code = s.code := by
      simp only [List.mem_cons, List.not_mem_nil, or_false] at isOther
      rcases isOther with rfl | rfl | rfl
      exacts [⟨.warning, rfl⟩, ⟨.information, rfl⟩, ⟨.hint, rfl⟩]
    obtain ⟨s, rfl⟩ := other
    rw [(read.severity s).2 found] at known
    contradiction
  | some s =>
    rw [(read.severity s).1 known]
    cases s <;> simp [Severity.toJson, Severity.code]
    all_goals decide

end Diagnostic

namespace Report

/-- The position can be counted from one. -/
def IsCountable (p : Position) : Prop := p.line.toNat < 0xFFFFFFFF ∧ p.character.toNat < 0xFFFFFFFF

def ShowsRange (shown : ShownDiagnostic) : Option Range → Prop
  | none => shown.line = 1 ∧ shown.column = 1 ∧ shown.endLine = 1 ∧ shown.endColumn = 1
  | some r => shown.line.toNat = r.start.line.toNat + 1 ∧ shown.column.toNat = r.start.character.toNat + 1 ∧
    shown.endLine.toNat = r.stop.line.toNat + 1 ∧ shown.endColumn.toNat = r.stop.character.toNat + 1

/-- What is shown is what was sent. -/
structure ShowsEntry (entry : Json) (shown : ShownDiagnostic) : Prop where
  message : entry.get? "message" = some (.string shown.message)
  source : Diagnostic.MemberRead (fun text j => j = .string text) (entry.get? "source") shown.source
  range : ∃ range, Diagnostic.MemberRead Range.WrittenAs (entry.get? "range") range ∧ ShowsRange shown range
  severity : ∀ s, shown.severity = s ↔ entry.get? "severity" = some s.toJson ∨ s = .error ∧ CountsAsError entry

private theorem toNat_succ {n : UInt32} (small : n.toNat < 0xFFFFFFFF) : (n + 1).toNat = n.toNat + 1 := by
  rw [UInt32.toNat_add]
  exact Nat.mod_eq_of_lt (Nat.succ_lt_succ small)

private theorem showsRange_ofDiagnostic {d : Diagnostic}
    (countable : ∀ r, d.range = some r → IsCountable r.start ∧ IsCountable r.stop) :
    ShowsRange (.ofDiagnostic d) d.range := by
  unfold ShownDiagnostic.ofDiagnostic Diagnostic.displayLine Diagnostic.displayColumn Diagnostic.start Diagnostic.stop
  cases ranged : d.range with
  | none => exact ⟨rfl, rfl, rfl, rfl⟩
  | some r =>
    obtain ⟨⟨line, column⟩, endLine, endColumn⟩ := countable r ranged
    exact ⟨toNat_succ line, toNat_succ column, toNat_succ endLine, toNat_succ endColumn⟩

private theorem showsEntry_ofDiagnostic {entry : Json} {d : Diagnostic} (read : d.ReadFrom entry)
    (countable : ∀ r, d.range = some r → IsCountable r.start ∧ IsCountable r.stop) :
    ShowsEntry entry (.ofDiagnostic d) where
  message := read.message
  source := read.source
  range := ⟨_, read.range, showsRange_ofDiagnostic countable⟩
  severity s := by
    rw [← read.severity, ← read.isError_iff]
    change d.severity.getD .error = s ↔ _
    unfold Diagnostic.effectiveSeverity
    cases d.severity with
    | none => simp [eq_comm]
    | some known =>
      constructor
      · rintro rfl
        exact .inl rfl
      · rintro (same | ⟨rfl, same⟩)
        · exact Option.some.inj same
        · exact same

private theorem errors_eq (file : String) (ds : List Diagnostic) : (FileDiagnostics.ofDiagnostics file ds).errors =
    ds.countP fun d => d.effectiveSeverity = .error := by
  have named (s : Severity) : (s.name = "error") ↔ s = .error := by cases s <;> decide
  unfold FileDiagnostics.ofDiagnostics
  dsimp only
  rw [← List.countP_eq_length_filter, List.countP_map]
  refine List.countP_congr fun d _ => ?_
  rw [Function.comp_apply, decide_eq_true_iff, decide_eq_true_iff]
  exact named d.effectiveSeverity

private theorem countP_of_forall₂ {α β : Type} {p : α → Bool} {q : β → Bool} {R : α → β → Prop}
    (same : ∀ a b, R a b → p a = q b) {as : List α} {bs : List β} (pairs : List.Forall₂ R as bs) :
    as.countP p = bs.countP q := by
  induction pairs with
  | nil => rfl
  | cons related _ ih => rw [List.countP_cons, List.countP_cons, ih, same _ _ related]

/-- What is reported of a publication: every entry in its place, and as many errors as are counted in the
entries and in what they are read as. -/
theorem ofDiagnostics_faithful {entries : List Json} {ds : List Diagnostic}
    (decoded : Json.Decoder.list Diagnostic.decode (.array entries) = .ok ds)
    (countable : ∀ d ∈ ds, ∀ r, d.range = some r → IsCountable r.start ∧ IsCountable r.stop)
    (file uri : String) :
    List.Forall₂ ShowsEntry entries (FileDiagnostics.ofDiagnostics file ds).diagnostics ∧
    (FileDiagnostics.ofDiagnostics file ds).count = entries.length ∧
    (FileDiagnostics.ofDiagnostics file ds).errors = (DiagnosticEvent.mk uri ds).errorCount ∧
    (FileDiagnostics.ofDiagnostics file ds).errors = entries.countP CountsAsError := by
  have read : List.Forall₂ Diagnostic.ReadFrom entries ds :=
    (Json.Decoder.items_eq_ok_iff.1 decoded).imp fun _ _ => Diagnostic.readFrom_of_decode
  have inRange : List.Forall₂ (fun d entry => (∀ r, d.range = some r → IsCountable r.start ∧ IsCountable r.stop) ∧
      Diagnostic.ReadFrom entry d) ds entries :=
    (List.forall₂_and_left _ _).2 ⟨countable, read.flip⟩
  refine ⟨?_, ?_, ?_, ?_⟩
  · exact List.forall₂_map_right_iff.2 (inRange.flip.imp fun _ _ both => showsEntry_ofDiagnostic both.2 both.1)
  · exact (List.length_map ..).trans read.length_eq.symm
  · rw [errors_eq, List.countP_eq_length_filter]
    rfl
  · rw [errors_eq]
    exact (countP_of_forall₂ (fun entry d one => by simp [one.isError_iff]) read).symm

def mixedEntries : List Json :=
  [.ofMembers [("message", .string "m")],
    .ofMembers [("message", .string "n"), ("severity", .number (.double ⟨0x4000000000000000⟩)), ("source", .null)],
    .ofMembers [("message", .string "o"), ("severity", .ofNat 2), ("source", .string "Lean 4"),
      ("range", .array [.array [.ofNat 2, .ofNat 0], .array [.ofNat 2, .ofNat 4294967294]])]]

def mixedDiagnostics : List Diagnostic :=
  [⟨none, none, none, "m", []⟩, ⟨none, none, none, "n", [("severity", .number (.double ⟨0x4000000000000000⟩))]⟩,
    ⟨some ⟨⟨2, 0⟩, ⟨2, 4294967294⟩⟩, some .warning, some "Lean 4", "o", []⟩]

theorem ofDiagnostics_faithful_mixed :
    Json.Decoder.list Diagnostic.decode (.array mixedEntries) = .ok mixedDiagnostics ∧
    (∀ d ∈ mixedDiagnostics, ∀ r, d.range = some r → IsCountable r.start ∧ IsCountable r.stop) ∧
    (FileDiagnostics.ofDiagnostics "A.lean" mixedDiagnostics).errors = 2 ∧
    mixedEntries.countP CountsAsError = 2 := by
  have decoded : Json.Decoder.list Diagnostic.decode (.array mixedEntries) = .ok mixedDiagnostics := rfl
  have countable : ∀ d ∈ mixedDiagnostics, ∀ r, d.range = some r → IsCountable r.start ∧ IsCountable r.stop := by
    simp [mixedDiagnostics, IsCountable]
  obtain ⟨-, -, -, counted⟩ := ofDiagnostics_faithful decoded countable "A.lean" "file:///A.lean"
  have errors : (FileDiagnostics.ofDiagnostics "A.lean" mixedDiagnostics).errors = 2 := rfl
  exact ⟨decoded, countable, errors, counted.symm.trans errors⟩

end Report

end LanguageClient
