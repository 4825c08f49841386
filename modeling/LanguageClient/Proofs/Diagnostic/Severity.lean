import LanguageClient.Notice
import LanguageClient.Proofs.Json.Alike
import LanguageClient.Proofs.Table
import Mathlib.Data.List.Forall2

/-! How far the severity of a diagnostic reaches. Nothing but the severity of an entry depends on the
member of that name: whatever stands there, the publication is accepted or refused as before, and its
entries are the same ones otherwise. Two values that differ in a severity at most are carried through
the decoders side by side. -/
namespace LanguageClient

open Json (Alike)

/-- What may be done to the severity of a diagnostic. -/
inductive SeverityEdit where
  | keep
  | put (value : Json)
  | remove

def SeverityEdit.apply : SeverityEdit → Json → Json
  | .put value, .object members => .object (Table.insert members "severity" value)
  | .remove, .object members => .object (Table.erase members "severity")
  | _, j => j

namespace Diagnostic

inductive SeverityAside : Json → Json → Prop
  | same (j : Json) : SeverityAside j j
  | members {t u : Table Json} (others : t.erase "severity" = u.erase "severity") :
    SeverityAside (.object t) (.object u)

private theorem severityAside_apply (edit : SeverityEdit) (j : Json) : SeverityAside j (edit.apply j) := by
  cases j with
  | null | bool | number | string | array => cases edit <;> exact .same _
  | object members =>
    cases edit with
    | keep => exact .same _
    | put value => exact .members (Table.erase_insert members "severity" value).symm
    | remove => exact .members (Table.erase_erase members "severity").symm

/-- Diagnostics that differ in their severity at most; an unknown severity is among the other members. -/
structure SameButSeverity (d e : Diagnostic) : Prop where
  range : d.range = e.range
  source : d.source = e.source
  message : d.message = e.message
  extra : d.extra.erase "severity" = e.extra.erase "severity"

theorem SameButSeverity.refl (d : Diagnostic) : SameButSeverity d d := ⟨rfl, rfl, rfl, rfl⟩

/-- The severity is kept under its own name or not at all. -/
theorem erase_readSeverity (value : Option Json) (extra : Table Json) :
    (readSeverity value extra).2.erase "severity" = extra.erase "severity" := by
  unfold readSeverity
  split
  · rfl
  · split
    · rfl
    · exact Table.erase_insert extra "severity" _

private theorem ofWire_same {wire wire' : Wire} (range : wire.range = wire'.range)
    (source : wire.source = wire'.source)
    (message : wire.message = wire'.message) (extra : Table Json) :
    SameButSeverity (ofWire wire extra) (ofWire wire' extra) :=
  ⟨range, source, message, (erase_readSeverity _ _).trans (erase_readSeverity _ _).symm⟩

private theorem Wire.read_alike {t u : Table Json} (others : ∀ key, key ≠ "severity" → t.get? key = u.get? key) :
    Alike (fun wire wire' => wire.range = wire'.range ∧ wire.source = wire'.source ∧ wire.message = wire'.message)
      (Wire.record.read (.members t) 0) (Wire.record.read (.members u) 0) := by
  have found (key : String) (other : key ≠ "severity") : ∀ k ∈ [key], t.get? k = u.get? k := by
    simpa using others key other
  refine .seq (R := Eq) (.seq (R := Eq) (.seq (R := fun _ _ => True) (.map (R := Eq) (.of_eq ?_) ?_) .any) (.of_eq ?_))
    (.of_eq ?_)
  · exact Json.Record.ReadsOnly.optionalWithDefault _ _ _ _ (found "range" (by decide))
  · rintro _ _ rfl _ _ - _ _ rfl _ _ rfl
    exact ⟨rfl, rfl, rfl⟩
  · exact Json.Record.ReadsOnly.optionalWithDefault _ _ _ _ (found "source" (by decide))
  · exact Json.Record.ReadsOnly.field _ _ _ _ (found "message" (by decide))

private theorem decode_alike {j j' : Json} (aside : SeverityAside j j') :
    Alike SameButSeverity (decode j) (decode j') := by
  cases aside with
  | same => exact .refl .refl _
  | @members t u others =>
    have elsewhere (key : String) (other : key ≠ "severity") : t.get? key = u.get? key := by
      rw [← Table.get?_erase_of_ne t other, others, Table.get?_erase_of_ne u other]
    have kept : t.filter (fun entry => !Wire.fieldNames.contains entry.1) =
        u.filter fun entry => !Wire.fieldNames.contains entry.1 := by
      have without (members : Table Json) :=
        members.filter_erase "severity" (fun name => !Wire.fieldNames.contains name) (by decide)
      rw [← without t, others, without u]
    refine (Alike.decodeOpen "RawDiagnostic" (Wire.read_alike elsewhere) kept).map ?_
    rintro ⟨wire, extra⟩ ⟨wire', extra'⟩ ⟨⟨range, source, message⟩, same⟩
    cases same
    exact ofWire_same range source message _

end Diagnostic

namespace Publication

/-- Publications of the same entries but for the severities of these. -/
structure SameButSeverities (p q : Publication) : Prop where
  uri : p.uri = q.uri
  version : p.version = q.version
  diagnostics : List.Forall₂ Diagnostic.SameButSeverity p.diagnostics q.diagnostics

theorem SameButSeverities.refl (p : Publication) : SameButSeverities p p :=
  ⟨rfl, rfl, List.forall₂_same.2 fun d _ => .refl d⟩

/-- The parameters with the severities of their diagnostics edited, each entry by its place. -/
def withSeverities (edit : Nat → SeverityEdit) (params : Table Json) : Table Json :=
  match params.get? "diagnostics" with
  | some (.array items) =>
    params.insert "diagnostics" (.array (items.mapIdx fun place item => (edit place).apply item))
  | _ => params

private theorem decode_alike {t u : Table Json} {items items' : List Json}
    (others : ∀ key, key ≠ "diagnostics" → t.get? key = u.get? key)
    (found : t.get? "diagnostics" = some (.array items)) (found' : u.get? "diagnostics" = some (.array items'))
    (aside : List.Forall₂ Diagnostic.SeverityAside items items') :
    Alike SameButSeverities (decode (.object t)) (decode (.object u)) := by
  have same (key : String) (other : key ≠ "diagnostics") : ∀ k ∈ [key], t.get? k = u.get? k := by
    simpa using others key other
  have entries : Alike (List.Forall₂ Diagnostic.SameButSeverity)
      (Json.Decoder.list Diagnostic.decode (.array items)) (Json.Decoder.list Diagnostic.decode (.array items')) :=
    .list (aside.imp fun _ _ => Diagnostic.decode_alike)
  refine .decode _ (.seq (R := List.Forall₂ Diagnostic.SameButSeverity)
    (.seq (R := Eq) (.map (R := Eq) (.of_eq ?_) ?_) (.of_eq ?_)) (.field found found' entries))
  · exact Json.Record.ReadsOnly.field _ _ _ _ (same "uri" (by decide))
  · rintro _ _ rfl _ _ rfl _ _ diagnostics
    exact ⟨rfl, rfl, diagnostics⟩
  · exact Json.Record.ReadsOnly.optional _ _ _ _ (same "version" (by decide))

private theorem decode_withSeverities_alike (edit : Nat → SeverityEdit) (params : Table Json) :
    Alike SameButSeverities (decode (.object params)) (decode (.object (withSeverities edit params))) := by
  unfold withSeverities
  split
  · next items found =>
    refine decode_alike (fun key other => (Table.get?_insert_of_ne _ _ other).symm) found
      (Table.get?_insert_self _ _ _) ?_
    rw [List.forall₂_iff_get]
    simp [Diagnostic.severityAside_apply]
  · exact .refl .refl _

/-- Whatever is done to severities, the publication is accepted or refused as before, and what else its
entries say stays. -/
theorem decode_withSeverities (edit : Nat → SeverityEdit) (params : Table Json) :
    (∃ p q, decode (.object params) = .ok p ∧ decode (.object (withSeverities edit params)) = .ok q ∧
      SameButSeverities p q) ∨
    ∃ e, decode (.object params) = .error e ∧ decode (.object (withSeverities edit params)) = .error e :=
  Alike.iff_or.1 (decode_withSeverities_alike edit params)

end Publication

end LanguageClient
