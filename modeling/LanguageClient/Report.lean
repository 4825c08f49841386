import LanguageClient.Diagnostic
import LanguageClient.Goal
import LanguageClient.Path
import LanguageClient.Json.Printer

/-!
What a command tells its user: one JSON object, with the outcome under `success`. The members of
an object stand beside it and any other value stands under `data`.
-/
namespace LanguageClient.Report

/-- The object that is printed for an outcome. A member of the value that is itself called
`success` takes the place of the outcome. -/
def envelope : Except String Json → Json
  | .error text => .ofMembers [("success", .bool false), ("error", .string text)]
  | .ok (.object members) => .object (Table.extend [("success", .bool true)] members)
  | .ok value => .ofMembers [("success", .bool true), ("data", value)]

/-- The outcome of a result: the JSON of what there is, or the text of the error. What has no JSON comes
out as an error too. -/
def outcome {ε α : Type} (encode : α → Except String Json) (message : ε → String) :
    Except ε α → Except String Json
  | .error e => .error (message e)
  | .ok a => (encode a).mapError fun reason => "Failed to serialize output: " ++ reason

section
variable {ε α : Type} (message : ε → String)

@[simp] theorem outcome_error (encode : α → Except String Json) (e : ε) :
    outcome encode message (.error e) = .error (message e) := rfl

@[simp] theorem outcome_ok (encode : α → Json) (a : α) :
    outcome (fun a => .ok (encode a)) message (.ok a) = .ok (encode a) := rfl

end

def text (outcome : Except String Json) : String := (envelope outcome).pretty ++ "\n"

def relativePath (root path : String) : String := (Path.relativeTo? root path).getD path

structure ShownDiagnostic where
  severity : Severity
  message : String
  line : UInt32
  column : UInt32
  endLine : UInt32
  endColumn : UInt32
  source : Option String
  deriving DecidableEq, Repr

namespace ShownDiagnostic

def ofDiagnostic (d : Diagnostic) : ShownDiagnostic where
  severity := d.effectiveSeverity
  message := d.message
  line := d.displayLine
  column := d.displayColumn
  endLine := d.stop.display.1
  endColumn := d.stop.display.2
  source := d.source

def toJson (d : ShownDiagnostic) : Json :=
  .ofMembers ([("severity", .string d.severity.name), ("message", .string d.message),
    ("line", .whole (.ofUInt32 d.line)), ("column", .whole (.ofUInt32 d.column)),
    ("end_line", .whole (.ofUInt32 d.endLine)), ("end_column", .whole (.ofUInt32 d.endColumn))] ++
    Json.memberIfSome "source" .string d.source)

end ShownDiagnostic

structure FileDiagnostics where
  file : String
  count : Nat
  errors : Nat
  diagnostics : List ShownDiagnostic
  deriving DecidableEq, Repr

namespace FileDiagnostics

def ofDiagnostics (file : String) (diagnostics : List Diagnostic) : FileDiagnostics :=
  let shown := diagnostics.map ShownDiagnostic.ofDiagnostic
  ⟨file, shown.length, (shown.filter fun d => d.severity.name = "error").length, shown⟩

def members (r : FileDiagnostics) : List (String × Json) :=
  [("file", .string r.file), ("count", .ofNat r.count), ("errors", .ofNat r.errors),
    ("diagnostics", .array (r.diagnostics.map ShownDiagnostic.toJson))]

def toJson (r : FileDiagnostics) : Json := .ofMembers r.members

def refreshed (r : FileDiagnostics) : Json := .ofMembers (("refreshed", .bool true) :: r.members)

end FileDiagnostics

structure FileGoal where
  file : String
  line : UInt32
  column : UInt32
  goal : Option PlainGoal
  deriving DecidableEq, Repr

namespace FileGoal

def toJson (r : FileGoal) : Json :=
  .ofMembers [("file", .string r.file), ("line", .whole (.ofUInt32 r.line)),
    ("column", .whole (.ofUInt32 r.column)), ("goal", Json.ofOption PlainGoal.toJson r.goal)]

end FileGoal

end LanguageClient.Report
