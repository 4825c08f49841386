import LanguageClient.Json.Shape

/-!
Positions and ranges in a document. Lines and characters are counted from zero, in UTF-16 code
units along the line; people count both from one.
-/
namespace LanguageClient

structure Position where
  line : UInt32
  character : UInt32
  deriving DecidableEq, Repr, Inhabited

namespace Position

def zero : Position := ⟨0, 0⟩

/-- The position that a person calls line `line`, column `column`. Zero means one. -/
def ofDisplay (line column : UInt32) : Position :=
  ⟨if line = 0 then 0 else line - 1, if column = 0 then 0 else column - 1⟩

def display (p : Position) : UInt32 × UInt32 := (p.line + 1, p.character + 1)

def record : Json.Record Position :=
  Position.mk <$> .field "line" Json.Decoder.uint32 <*> .field "character" Json.Decoder.uint32

def decode : Json.Decoder Position := record.decode "Position"

def toJson (p : Position) : Json :=
  .ofMembers [("line", .whole (.ofUInt32 p.line)), ("character", .whole (.ofUInt32 p.character))]

end Position

structure Range where
  start : Position
  stop : Position
  deriving DecidableEq, Repr, Inhabited

namespace Range

def point (p : Position) : Range := ⟨p, p⟩

def record : Json.Record Range :=
  Range.mk <$> .field "start" Position.decode <*> .field "end" Position.decode

def decode : Json.Decoder Range := record.decode "Range"

def toJson (r : Range) : Json := .ofMembers [("start", r.start.toJson), ("end", r.stop.toJson)]

end Range

end LanguageClient
