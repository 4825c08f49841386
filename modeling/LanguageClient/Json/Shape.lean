import LanguageClient.Json.Basic
import LanguageClient.Text.Quoted

/-!
Decoding JSON values into records. A record is a list of named fields in a fixed order; it is
written as an object, and where it has no open-ended part an array of its fields in order is
accepted too. In an object the faults of the fields that are present come first, in key order, and
then the first field that is missing; members that name no field are passed over.
-/
namespace LanguageClient.Json

inductive ShapeError where
  | wrongType (found : Json) (expected : String)
  | outOfRange (found : Whole) (expected : String)
  | tooShort (length : Nat) (expected : String)
  | tooLong (length : Nat)
  | missingField (name : String)
  | noVariant (type : String)
  | notOneOf (found : Nat) (choices : String)
  | notAMessage
  deriving DecidableEq, Repr

def describe : Json → String
  | .null => "null"
  | .bool true => "boolean `true`"
  | .bool false => "boolean `false`"
  | .number (.whole n) => "integer `" ++ toString n.val ++ "`"
  | .number (.double x) => "floating point `" ++ x.text ++ "`"
  | .string s => "string " ++ Text.quoted s
  | .array _ => "sequence"
  | .object _ => "map"

def ShapeError.message : ShapeError → String
  | .wrongType found expected => "invalid type: " ++ describe found ++ ", expected " ++ expected
  | .outOfRange found expected =>
    "invalid value: integer `" ++ toString found.val ++ "`, expected " ++ expected
  | .tooShort length expected => "invalid length " ++ toString length ++ ", expected " ++ expected
  | .tooLong length =>
    "invalid length " ++ toString length ++ ", expected fewer elements in array"
  | .missingField name => "missing field `" ++ name ++ "`"
  | .noVariant type => "data did not match any variant of untagged enum " ++ type
  | .notOneOf found choices =>
    "invalid value: " ++ toString found ++ ", expected one of: " ++ choices
  | .notAMessage => "Invalid LSP message"

abbrev Decoder (α : Type) := Json → Except ShapeError α

namespace Decoder

def json : Decoder Json := .ok

def string : Decoder String
  | .string s => .ok s
  | j => .error (.wrongType j "a string")

def bool : Decoder Bool
  | .bool b => .ok b
  | j => .error (.wrongType j "a boolean")

def path : Decoder String
  | .string s => .ok s
  | j => .error (.wrongType j "path string")

/-- A whole number between two bounds; `expected` names the type with these bounds. -/
def bounded (lower upper : Int) (expected : String) : Decoder Int
  | .number (.whole n) =>
    if lower ≤ n.val ∧ n.val ≤ upper then .ok n.val else .error (.outOfRange n expected)
  | j => .error (.wrongType j expected)

def uint8 : Decoder Nat := fun j => (bounded 0 0xFF "u8" j).map Int.toNat

def uint32 : Decoder UInt32 := fun j =>
  (bounded 0 0xFFFFFFFF "u32" j).map fun n => UInt32.ofNat n.toNat

def uint64 : Decoder UInt64 := fun j =>
  (bounded 0 0xFFFFFFFFFFFFFFFF "u64" j).map fun n => UInt64.ofNat n.toNat

def int32 : Decoder Int32 := fun j =>
  (bounded (-0x80000000) 0x7FFFFFFF "i32" j).map Int32.ofInt

def nullable {α : Type} (decode : Decoder α) : Decoder (Option α)
  | .null => .ok none
  | j => (decode j).map some

def items {α : Type} (decode : Decoder α) : List Json → Except ShapeError (List α)
  | [] => .ok []
  | j :: rest => do
    let a ← decode j
    let more ← items decode rest
    pure (a :: more)

def list {α : Type} (decode : Decoder α) : Decoder (List α)
  | .array js => items decode js
  | j => .error (.wrongType j "a sequence")

end Decoder

/-- Where the fields of a record are found: in an object by name, in an array by position. -/
inductive Source where
  | members (members : List (String × Json))
  | items (items : List Json)

/-- What is wrong with the fields of a record, in the order of the fields. A missing field is given
with its position. -/
structure Faults where
  bad : List (String × ShapeError)
  missing : List (String × Nat)

/-- A record: the number of its fields, and how to read them from a source, given the position of
the first. -/
structure Record (α : Type) where
  size : Nat
  read : Source → Nat → Except Faults α

namespace Record

def lookup (source : Source) (name : String) (position : Nat) : Option Json :=
  match source with
  | .members members => Table.get? members name
  | .items items => items[position]?

private def fieldWith {α : Type} (name : String) (decode : Decoder α)
    (absent : Source → Option α) : Record α where
  size := 1
  read source position :=
    match lookup source name position with
    | some j =>
      match decode j with
      | .ok a => .ok a
      | .error e => .error ⟨[(name, e)], []⟩
    | none =>
      match absent source with
      | some a => .ok a
      | none => .error ⟨[], [(name, position)]⟩

def field {α : Type} (name : String) (decode : Decoder α) : Record α :=
  fieldWith name decode fun _ => none

/-- A field that may be null, or absent from an object; an array has to have a place for it. -/
def optional {α : Type} (name : String) (decode : Decoder α) : Record (Option α) :=
  fieldWith name (Decoder.nullable decode) fun
    | .members _ => some none
    | .items _ => none

/-- A field that may be null or absent, from an array too. -/
def optionalWithDefault {α : Type} (name : String) (decode : Decoder α) : Record (Option α) :=
  fieldWith name (Decoder.nullable decode) fun _ => some none

def withDefault {α : Type} (name : String) (decode : Decoder α) (value : α) : Record α :=
  fieldWith name decode fun _ => some value

protected def pure {α : Type} (a : α) : Record α := ⟨0, fun _ _ => .ok a⟩

protected def seq {α β : Type} (f : Record (α → β)) (x : Record α) : Record β where
  size := f.size + x.size
  read source position :=
    match f.read source position, x.read source (position + f.size) with
    | .ok g, .ok a => .ok (g a)
    | .error e, .ok _ => .error e
    | .ok _, .error e => .error e
    | .error d, .error e => .error ⟨d.bad ++ e.bad, d.missing ++ e.missing⟩

protected def map {α β : Type} (g : α → β) (x : Record α) : Record β where
  size := x.size
  read source position := (x.read source position).map g

instance : Applicative Record where
  pure := Record.pure
  seq f x := Record.seq f (x ())
  map := Record.map

private def firstByKey : List (String × ShapeError) → Option ShapeError
  | [] => none
  | (key, e) :: rest =>
    let least := rest.foldl (fun best entry => if entry.1 < best.1 then entry else best) (key, e)
    some least.2

def faultOfMembers (faults : Faults) : ShapeError :=
  match firstByKey faults.bad, faults.missing with
  | some e, _ => e
  | none, (name, _) :: _ => .missingField name
  | none, [] => .notAMessage

def expected {α : Type} (record : Record α) (name : String) : String :=
  "struct " ++ name ++ " with " ++ toString record.size ++
    (if record.size = 1 then " element" else " elements")

/-- Which of the faults is reported for an array. The places before the first missing one count
as its length. -/
def faultOfItems {α : Type} (record : Record α) (name : String) (faults : Faults) : ShapeError :=
  match faults.bad, faults.missing with
  | (_, e) :: _, _ => e
  | [], (_, position) :: _ => .tooShort position (record.expected name)
  | [], [] => .notAMessage

/-- Decodes a record from an object or from an array of its fields; `spare` tells that an array may
have items to spare. -/
def decodeWith {α : Type} (spare : Bool) (record : Record α) (name : String) : Decoder α
  | .object members =>
    match record.read (.members members) 0 with
    | .ok a => .ok a
    | .error faults => .error (faultOfMembers faults)
  | .array items =>
    match record.read (.items items) 0 with
    | .ok a => if spare || items.length ≤ record.size then .ok a else .error (.tooLong items.length)
    | .error faults => .error (faultOfItems record name faults)
  | j => .error (.wrongType j ("struct " ++ name))

def decode {α : Type} (record : Record α) (name : String) : Decoder α :=
  record.decodeWith false name

/-- Decodes a record from an object only, together with the members that name none of `known`. -/
def decodeOpen {α : Type} (record : Record α) (name : String) (known : List String) :
    Decoder (α × Table Json)
  | .object members =>
    match record.read (.members members) 0 with
    | .ok a => .ok (a, members.filter fun entry => !known.contains entry.1)
    | .error faults => .error (faultOfMembers faults)
  | j => .error (.wrongType j ("struct " ++ name))

end Record

end LanguageClient.Json
