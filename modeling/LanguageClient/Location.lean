import LanguageClient.Position
import LanguageClient.Text.Blank
import LanguageClient.Text.Digits
import LanguageClient.Text.Lines

/-!
Locations as people write them: a file, a line and, if they like, a column, with colons between
them. Lines and columns are counted from one. The line begins after the first colon that a digit
follows, so a file name may hold other colons.
-/
namespace LanguageClient

structure Location where
  file : String
  line : UInt32
  column : UInt32
  deriving DecidableEq, Repr

inductive LocationError where
  | empty
  | negativeLine
  | noPosition
  | badLine (text : String)
  | badColumn (text : String)
  | zeroLine
  | zeroColumn
  | lineBeyond (line : UInt32) (count : Nat)
  | columnBeyond (column : UInt32) (width : Nat) (line : UInt32)
  deriving DecidableEq, Repr

def LocationError.message : LocationError → String
  | .empty => "Location cannot be empty"
  | .negativeLine =>
    "Invalid line number: negative values not allowed. Line numbers are 1-indexed positive " ++
      "integers.\nExample: Main.lean:10:5"
  | .noPosition =>
    "Invalid location format. Expected: file:line[:column]\nExample: Main.lean:10:5"
  | .badLine text =>
    "Invalid line number '" ++ text ++ "': must be a positive integer (1-indexed)"
  | .badColumn text =>
    "Invalid column number '" ++ text ++ "': must be a positive integer (1-indexed)"
  | .zeroLine => "Line number must be >= 1 (got 0). Line numbers are 1-indexed."
  | .zeroColumn => "Column number must be >= 1 (got 0). Column numbers are 1-indexed."
  | .lineBeyond line count =>
    "Line " ++ toString line ++ " exceeds file length (" ++ toString count ++ " lines)"
  | .columnBeyond column width line =>
    "Column " ++ toString column ++ " exceeds line length (" ++ toString width ++
      " chars) at line " ++ toString line

namespace Location

def limit : Nat := 0xFFFFFFFF

/-- Cuts a text at the first colon that a digit or a minus sign follows; the colon is in neither
part. -/
def splitAtPosition? : List Char → Option (List Char × List Char)
  | [] => none
  | ':' :: c :: rest =>
    if Text.isDigit c || c = '-' then some ([], c :: rest)
    else (splitAtPosition? (c :: rest)).map fun (file, position) => (':' :: file, position)
  | c :: rest => (splitAtPosition? rest).map fun (file, position) => (c :: file, position)

def readPosition (cs : List Char) : Except LocationError (UInt32 × UInt32) := do
  let lineText := cs.takeWhile (· ≠ ':')
  let line ← (Text.readUnsigned limit lineText).mapError fun _ => .badLine (.ofList lineText)
  let column ← match cs.dropWhile (· ≠ ':') with
    | [] => pure 1
    | _ :: columnText =>
      (Text.readUnsigned limit columnText).mapError fun _ => .badColumn (.ofList columnText)
  if line = 0 then .error .zeroLine
  else if column = 0 then .error .zeroColumn
  else .ok (UInt32.ofNat line, UInt32.ofNat column)

def parse (text : String) : Except LocationError Location :=
  match Text.trimChars text.toList with
  | [] => .error .empty
  | cs =>
    match splitAtPosition? cs with
    | none => .error .noPosition
    | some (_, '-' :: _) => .error .negativeLine
    | some ([], _) => .error .noPosition
    | some (file, position) =>
      (readPosition position).map fun (line, column) => ⟨.ofList file, line, column⟩

def display (l : Location) : String :=
  l.file ++ ":" ++ toString l.line ++ ":" ++ toString l.column

def position (l : Location) : Position := .ofDisplay l.line l.column

/-- Tells whether the location lies in a content: its line exists, where an empty content has one
empty line, and its column is at most one behind the end of the line. -/
def validate (l : Location) (content : String) : Except LocationError Unit :=
  let lines := Text.lines content
  let count := max lines.length 1
  if count < l.line.toNat then .error (.lineBeyond l.line count)
  else
    match lines[l.line.toNat - 1]? with
    | none => .ok ()
    | some text =>
      if Text.units16 text + 1 < l.column.toNat then
        .error (.columnBeyond l.column (Text.units16 text) l.line)
      else .ok ()

end Location

end LanguageClient
