import LanguageClient.Proofs.Frame.Lines
import LanguageClient.Proofs.Frame.Stream

/-! Which streams are read. A stream gives a body just where a header stands at its beginning and all bytes
of the body are there and are a text; reading then goes on behind the body. What else the header lines say,
and how they end, makes no difference to anything that is read of the stream. -/
namespace LanguageClient.Frame

namespace Reader

/-- What was read before stays where it is. -/
theorem results_drain (ended : Bool) (fuel : Nat) (bytes : Bytes) (earlier results : List (Except Fault String))
    (stopped : Bool) : (drain ended fuel ⟨bytes, earlier ++ results, stopped⟩).results =
      earlier ++ (drain ended fuel ⟨bytes, results, stopped⟩).results := by
  induction fuel generalizing bytes results stopped with
  | zero => rfl
  | succ fuel ih =>
    simp only [drain]
    split
    · rfl
    · cases next ended bytes with
      | waiting => rfl
      | done body rest =>
        dsimp only
        rw [List.append_assoc]
        exact ih rest _ false
      | fault cause rest =>
        dsimp only
        rw [List.append_assoc]
        exact ih rest _ _

/-- It makes no difference whether the frames that have arrived are read before the stream ends or together
with its end. -/
theorem finish_advance (r : Reader) : r.advance.finish = r.finish := by
  -- Each frame leaves fewer bytes unread, so the induction is on their number, not on the fuel.
  induction bytes : r.unread.length using Nat.strongRecOn generalizing r with
  | ind n ih =>
    cases running : r.stopped with
    | true => rw [advance_stopped running]
    | false =>
      have below := next_below_unended r.unread
      have extended := next_extend true [] r.unread
      rw [List.append_nil] at extended
      cases read : next false r.unread with
      | waiting => rw [advance_waiting read]
      | done body rest =>
        rw [read] at below extended
        have less : rest.length < n := bytes ▸ below
        have ended : next true r.unread = .done body rest := by simpa [Progress.extend] using extended (by simp)
        rw [advance_done running read, ih rest.length less _ rfl]
        exact (drain_done true running ended).symm
      | fault cause rest =>
        rw [read] at below extended
        have less : rest.length < n := bytes ▸ below
        have ended : next true r.unread = .fault cause rest := by simpa [Progress.extend] using extended (by simp)
        rw [advance_fault running read, ih rest.length less _ rfl]
        exact (drain_fault true running ended).symm

private theorem readAll_eq_finish (pieces : List Bytes) :
    readAll pieces = (⟨pieces.flatten, [], false⟩ : Reader).finish.results := by
  rw [readAll_eq, receive_eq, finish_advance]
  rfl

/-- What is read depends on what comes next alone. -/
theorem readAll_eq_next (pieces : List Bytes) : readAll pieces =
    match next true pieces.flatten with
    | .waiting => []
    | .done body rest => (finish ⟨rest, [.ok body], false⟩).results
    | .fault cause rest => (finish ⟨rest, [.error cause], !cause.isOfBody⟩).results := by
  rw [readAll_eq_finish]
  cases read : next true pieces.flatten with
  | waiting => simp [finish, drain, read]
  | done body rest =>
    exact congrArg results (drain_done true (r := ⟨pieces.flatten, [], false⟩) rfl read)
  | fault cause rest =>
    exact congrArg results (drain_fault true (r := ⟨pieces.flatten, [], false⟩) rfl read)

variable {pieces : List Bytes} {rest : Bytes}

/-- Behind a body reading goes on. -/
theorem readAll_done {body : String} (read : next true pieces.flatten = .done body rest) :
    readAll pieces = .ok body :: readAll [rest] := by
  rw [readAll_eq_next, read, readAll_eq_finish, List.flatten_singleton]
  exact results_drain true _ rest [.ok body] [] false

private theorem readAll_stopped {cause : Fault} (read : next true pieces.flatten = .fault cause rest)
    (stops : cause.isOfBody = false) : readAll pieces = [.error cause] := by
  rw [readAll_eq_next, read]
  exact congrArg results (drain_stopped true _ (by rw [stops]; rfl))

end Reader

/-- A line that may stand before the blank one. -/
structure IsHeaderLine (line : Bytes) : Prop where
  whole : IsWhole line
  filled : IsFilled line

private theorem isOfBody_declare {values : List (List Char)} {length : Option Nat} {cause : Fault}
    (failed : values.foldlM declare length = .error cause) : cause.isOfBody = false := by
  induction values generalizing length with
  | nil => contradiction
  | cons value values ih =>
    rw [List.foldlM_cons] at failed
    unfold declare at failed
    cases read : Text.readUnsigned lengthLimit (Text.trimChars value) with
    | ok n =>
      rw [read] at failed
      exact ih failed
    | error fault =>
      rw [read] at failed
      cases failed
      rfl

private theorem readHeaders_lines {header : List Bytes} (formed : ∀ line ∈ header, IsHeaderLine line)
    (rest : Bytes) :
    readHeaders true [] none (header.flatten ++ rest) = readLines none (header ++ lines rest) := by
  rw [readHeaders_eq_readLines, lines_wholes fun line inside => (formed line inside).whole]

/-- Headers with the same values of lengths are the same to a reader, whatever stands behind them. -/
theorem Reader.readAll_header {header header' : List Bytes} (formed : ∀ line ∈ header, IsHeaderLine line)
    (formed' : ∀ line ∈ header', IsHeaderLine line)
    (same : header.filterMap lengthValue? = header'.filterMap lengthValue?) (rest : Bytes) :
    readAll [header.flatten ++ rest] = readAll [header'.flatten ++ rest] := by
  have read := readLines_append (fun line inside => (formed line inside).filled) none (lines rest)
  have read' := readLines_append (fun line inside => (formed' line inside).filled) none (lines rest)
  rw [← readHeaders_lines formed] at read
  rw [← readHeaders_lines formed', ← same] at read'
  cases declared : (header.filterMap lengthValue?).foldlM declare none with
  | ok length =>
    rw [declared] at read read'
    have next_same : next true (header.flatten ++ rest) = next true (header'.flatten ++ rest) := by
      rw [next, next, read, read']
    rw [readAll_eq_next, readAll_eq_next, List.flatten_singleton, List.flatten_singleton, next_same]
  | error cause =>
    have stops := isOfBody_declare declared
    rw [declared] at read read'
    obtain ⟨left, read⟩ := read
    obtain ⟨left', read'⟩ := read'
    have fault : next true [header.flatten ++ rest].flatten = .fault cause left := by
      rw [List.flatten_singleton, next, read]
    have fault' : next true [header'.flatten ++ rest].flatten = .fault cause left' := by
      rw [List.flatten_singleton, next, read']
    rw [readAll_stopped fault stops, readAll_stopped fault' stops]

namespace Reader

/-- A stream gives a body just where a header stands at its beginning and the bytes of the body are there and
are a text. However the stream arrives, reading then goes on behind the body. Header lines that are not
lengths have no influence on anything that is read, and neither has a return at the end of a line. -/
theorem readAll_accepts (bytes : Bytes) :
    (∀ body rest, next true bytes = .done body rest ↔
      ∃ before n behind, Headed bytes before n behind ∧ n ≤ bufferLimit ∧ n ≤ behind.length ∧
        behind.take n = bytesOf body ∧ rest = behind.drop n) ∧
    (∀ body rest, next true bytes = .done body rest →
      ∀ (pieces : List Bytes) (capacity : Nat), pieces.flatten = bytes →
        readAll (pieces.flatMap (throughPipe capacity)) = .ok body :: readAll [rest]) ∧
    (∀ header header' : List Bytes, (∀ line ∈ header, IsHeaderLine line) → (∀ line ∈ header', IsHeaderLine line) →
      header.filterMap lengthValue? = header'.filterMap lengthValue? →
      readAll [header.flatten ++ bytes] = readAll [header'.flatten ++ bytes]) ∧
    ∀ inner, trimmed? (inner ++ [13, 10]) = trimmed? (inner ++ [10]) := by
  refine ⟨fun body rest => next_eq_done_iff, fun body rest read pieces capacity cut => ?_,
    fun header header' formed formed' same => readAll_header formed formed' same bytes, trimmed?_return⟩
  have arrived : (pieces.flatMap (throughPipe capacity)).flatten = bytes := by
    rw [← cut, flatten_flatMap_throughPipe]
  exact readAll_done (by rw [arrived, read])

/-- A length that does not count, a line of no meaning, the length that counts, with a plus sign, zeros and
blanks around it, and a blank line that is not empty; then a body of three bytes, and more. -/
def strayStream : Bytes :=
  bytesOf "Content-Length: 99\r\nX:\n\tContent-Length:+003 \n \r\n" ++ bytesOf "é!" ++ bytesOf "Content-"

theorem readAll_accepts_stray :
    next true strayStream = .done "é!" (bytesOf "Content-") ∧
    readAll ([strayStream.take 30, strayStream.drop 30].flatMap (throughPipe 3)) =
      [.ok "é!", .error .closed] ∧
    ∃ before n behind, Headed strayStream before n behind ∧ n ≤ bufferLimit ∧ n ≤ behind.length ∧
      behind.take n = bytesOf "é!" ∧ bytesOf "Content-" = behind.drop n := by
  have read : next true strayStream = .done "é!" (bytesOf "Content-") := by decide +kernel
  have rest : readAll [bytesOf "Content-"] = [.error .closed] := by decide +kernel
  obtain ⟨accepted, goesOn, -, -⟩ := readAll_accepts strayStream
  refine ⟨read, ?_, (accepted _ _).1 read⟩
  rw [goesOn _ _ read _ 3 (by simp), rest]

end Reader

end LanguageClient.Frame
