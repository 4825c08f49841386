import LanguageClient.Position

/-!
Diagnostics as a server publishes them. The common fields are typed and every other member is kept
as it came. A severity that is none of the four known ones is kept among the other members, so an
odd entry never costs the rest of a publication.
-/
namespace LanguageClient

inductive Severity where
  | error
  | warning
  | information
  | hint
  deriving DecidableEq, Repr

namespace Severity

def code : Severity → Nat
  | .error => 1
  | .warning => 2
  | .information => 3
  | .hint => 4

def name : Severity → String
  | .error => "error"
  | .warning => "warning"
  | .information => "info"
  | .hint => "hint"

def ofCode? : Nat → Option Severity
  | 1 => some .error
  | 2 => some .warning
  | 3 => some .information
  | 4 => some .hint
  | _ => none

def decode : Json.Decoder Severity := fun j => do
  let n ← Json.Decoder.uint8 j
  match ofCode? n with
  | some s => pure s
  | none => .error (.notOneOf n "1, 2, 3, 4")

def toJson (s : Severity) : Json := .ofNat s.code

end Severity

/-- A diagnostic. `extra` holds the members without a field of their own. -/
structure Diagnostic where
  range : Option Range
  severity : Option Severity
  source : Option String
  message : String
  extra : Table Json
  deriving DecidableEq

namespace Diagnostic

def new (range : Range) (severity : Severity) (message : String) : Diagnostic :=
  ⟨some range, some severity, none, message, []⟩

def start (d : Diagnostic) : Position := (d.range.map Range.start).getD .zero

def stop (d : Diagnostic) : Position := (d.range.map Range.stop).getD .zero

def displayLine (d : Diagnostic) : UInt32 := d.start.display.1

def displayColumn (d : Diagnostic) : UInt32 := d.start.display.2

def effectiveSeverity (d : Diagnostic) : Severity := d.severity.getD .error

/-- The typed members as they stand on the wire, the severity still unchecked. -/
structure Wire where
  range : Option Range
  severity : Option Json
  source : Option String
  message : String

namespace Wire

def record : Json.Record Wire :=
  Wire.mk <$> .optionalWithDefault "range" Range.decode
    <*> .optionalWithDefault "severity" Json.Decoder.json
    <*> .optionalWithDefault "source" Json.Decoder.string
    <*> .field "message" Json.Decoder.string

def fieldNames : List String := ["range", "severity", "source", "message"]

end Wire

def readSeverity : Option Json → Table Json → Option Severity × Table Json
  | none, extra => (none, extra)
  | some value, extra =>
    match Severity.decode value with
    | .ok s => (some s, extra)
    | .error _ => (none, Table.insert extra "severity" value)

def ofWire (wire : Wire) (extra : Table Json) : Diagnostic :=
  let (severity, extra) := readSeverity wire.severity extra
  ⟨wire.range, severity, wire.source, wire.message, extra⟩

def decode : Json.Decoder Diagnostic := fun j =>
  (Wire.record.decodeOpen "RawDiagnostic" Wire.fieldNames j).map fun (wire, extra) =>
    ofWire wire extra

def ownMembers (d : Diagnostic) : List (String × Json) :=
  Json.memberIfSome "range" Range.toJson d.range ++
    Json.memberIfSome "severity" Severity.toJson d.severity ++
    Json.memberIfSome "source" .string d.source ++ [("message", .string d.message)]

def toJson (d : Diagnostic) : Json := .object (Table.extend (Table.ofList d.ownMembers) d.extra)

def unknownSeverity? (d : Diagnostic) : Option Json := Table.get? d.extra "severity"

end Diagnostic

structure DiagnosticEvent where
  uri : String
  diagnostics : List Diagnostic
  deriving DecidableEq

namespace DiagnosticEvent

def errorCount (e : DiagnosticEvent) : Nat :=
  (e.diagnostics.filter fun d => d.effectiveSeverity = .error).length

def record : Json.Record DiagnosticEvent :=
  DiagnosticEvent.mk <$> .field "uri" Json.Decoder.string
    <*> .field "diagnostics" (Json.Decoder.list Diagnostic.decode)

def decode : Json.Decoder DiagnosticEvent := record.decode "DiagnosticEvent"

def toJson (e : DiagnosticEvent) : Json :=
  .ofMembers [("uri", .string e.uri), ("diagnostics", .array (e.diagnostics.map Diagnostic.toJson))]

end DiagnosticEvent

end LanguageClient
