/-!
Lines of a text and their width. A line ends at a line feed, and one carriage return before it
belongs to the ending; the last line needs no ending. Width is counted in UTF-16 code units,
which is how positions in a document are counted.
-/
namespace LanguageClient.Text

private def withoutReturn : List Char → List Char
  | '\r' :: rest => rest.reverse
  | line => line.reverse

private def linesFrom : (line : List Char) → List Char → List (List Char)
  | [], [] => []
  | line, [] => [line.reverse]
  | line, '\n' :: rest => withoutReturn line :: linesFrom [] rest
  | line, c :: rest => linesFrom (c :: line) rest

def lines (s : String) : List String := (linesFrom [] s.toList).map String.ofList

private theorem linesFrom_eq_nil_iff {line cs : List Char} : linesFrom line cs = [] ↔ line = [] ∧ cs = [] := by
  fun_induction linesFrom line cs with
  | case1 => simp
  | case2 line started => simpa using started
  | case3 line rest => simp
  | case4 line c rest other ih => simp [ih]

/-- Only the empty text has no lines. -/
theorem lines_eq_nil_iff {s : String} : lines s = [] ↔ s = "" := by
  rw [lines, List.map_eq_nil_iff, linesFrom_eq_nil_iff]
  simp

def units16Char (c : Char) : Nat := if c.toNat < 0x10000 then 1 else 2

/-- The number of UTF-16 code units of a text. -/
def units16 (s : String) : Nat := s.toList.foldl (fun units c => units + units16Char c) 0

end LanguageClient.Text
