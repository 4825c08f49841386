import LanguageClient.Proofs.Frame.Header

/-! Streams of frames. A frame that can be read is the same whatever follows it, hence a reader may
stop and go on anywhere: only the bytes of a stream count, not the pieces in which they come, nor
the pipe through which the pieces pass. What was written as frames is read back in order. -/
namespace LanguageClient.Frame

def Progress.extend {α : Type} (more : Bytes) : Progress α → Progress α
  | .waiting => .waiting
  | .done value rest => .done value (rest ++ more)
  | .fault cause rest => .fault cause (rest ++ more)

/-- Header lines that are decided without the end of the stream stay so whatever follows. -/
theorem readHeaders_extend (ended : Bool) (more : Bytes) (line : Bytes) (length : Option Nat)
    (bytes : Bytes) (decided : readHeaders false line length bytes ≠ .waiting) :
    readHeaders ended line length (bytes ++ more) =
      (readHeaders false line length bytes).extend more := by
  induction bytes generalizing line length with
  | nil => exact absurd (by simp [readHeaders.eq_def]) decided
  | cons b rest ih =>
    rw [readHeaders.eq_def] at decided
    rw [List.cons_append, readHeaders.eq_def, readHeaders.eq_def false line length (b :: rest)]
    dsimp only at decided ⊢
    split
    · next feed =>
      rw [if_pos feed] at decided
      cases meant : readHeaderLine (b :: line).reverse with
      | error fault => rfl
      | ok headerLine =>
        rw [meant] at decided
        cases headerLine with
        | blank => cases length <;> rfl
        | length n => exact ih [] (some n) decided
        | other => exact ih [] length decided
    · next inner =>
      rw [if_neg inner] at decided
      exact ih (b :: line) length decided

private theorem readBody_extend (ended : Bool) (more : Bytes) (length : Nat) (bytes : Bytes)
    (decided : readBody false length bytes ≠ .waiting) :
    readBody ended length (bytes ++ more) = (readBody false length bytes).extend more := by
  unfold readBody at decided ⊢
  by_cases huge : bufferLimit < length
  · simp [huge, Progress.extend]
  · by_cases enough : length ≤ bytes.length
    · have longer : length ≤ (bytes ++ more).length := by
        rw [List.length_append]
        omega
      rw [if_neg huge, if_pos longer, if_neg huge, if_pos enough, List.take_append_of_le_length enough,
        List.drop_append_of_le_length enough]
      cases textOf? (bytes.take length) <;> rfl
    · simp [huge, enough] at decided

theorem next_extend (ended : Bool) (more bytes : Bytes)
    (decided : next false bytes ≠ .waiting) :
    next ended (bytes ++ more) = (next false bytes).extend more := by
  unfold next at decided ⊢
  have known : readHeaders false [] none bytes ≠ .waiting := by
    intro waits
    simp [waits] at decided
  rw [readHeaders_extend ended more [] none bytes known]
  cases headers : readHeaders false [] none bytes with
  | waiting => exact absurd headers known
  | fault fault rest => rfl
  | done length rest =>
    simp only [headers] at decided
    exact readBody_extend ended more length rest decided

def Progress.LeavesBelow {α : Type} (bound : Nat) : Progress α → Prop
  | .waiting => True
  | .done _ rest => rest.length < bound
  | .fault _ rest => rest.length < bound

private theorem Progress.LeavesBelow.weaken {α : Type} {progress : Progress α} {bound larger : Nat}
    (below : progress.LeavesBelow bound) (le : bound ≤ larger) : progress.LeavesBelow larger := by
  cases progress with
  | waiting => trivial
  | done value rest => exact Nat.lt_of_lt_of_le below le
  | fault cause rest => exact Nat.lt_of_lt_of_le below le

theorem readHeaders_below (ended : Bool) (line : Bytes) (length : Option Nat) (bytes : Bytes) :
    (readHeaders ended line length bytes).LeavesBelow (max bytes.length 1) := by
  induction bytes generalizing line length with
  | nil =>
    rw [readHeaders.eq_def]
    dsimp only
    split
    · split
      · exact Nat.one_pos
      · split
        · exact Nat.one_pos
        · cases length <;> exact Nat.one_pos
        · exact Nat.one_pos
    · trivial
  | cons b rest ih =>
    have more : max rest.length 1 ≤ max (b :: rest).length 1 := by
      rw [List.length_cons]
      omega
    have less : rest.length < max (b :: rest).length 1 := by
      rw [List.length_cons]
      omega
    rw [readHeaders.eq_def]
    dsimp only
    split
    · cases meant : readHeaderLine (b :: line).reverse with
      | error cause => exact less
      | ok headerLine =>
        cases headerLine with
        | blank => cases length <;> exact less
        | length n => exact (ih [] (some n)).weaken more
        | other => exact (ih [] length).weaken more
    · exact (ih (b :: line) length).weaken more

private theorem next_below_max (ended : Bool) (bytes : Bytes) :
    (next ended bytes).LeavesBelow (max bytes.length 1) := by
  have headers := readHeaders_below ended [] none bytes
  unfold next
  cases read : readHeaders ended [] none bytes with
  | waiting => trivial
  | fault cause rest =>
    rw [read] at headers
    exact headers
  | done length rest =>
    rw [read] at headers
    have below : rest.length < max bytes.length 1 := headers
    dsimp only
    unfold readBody
    split
    · exact below
    · split
      · have kept : (rest.drop length).length < max bytes.length 1 := by
          rw [List.length_drop]
          omega
        split <;> exact kept
      · split
        · exact Nat.lt_of_le_of_lt (Nat.zero_le _) below
        · trivial

/-- A frame has at least one byte, and so has what is read of a faulty one, unless the stream ends where
none begins. -/
theorem next_below (ended : Bool) {bytes : Bytes} (nonempty : bytes ≠ []) :
    (next ended bytes).LeavesBelow bytes.length := by
  have below := next_below_max ended bytes
  rwa [Nat.max_eq_left (List.length_pos_iff.2 nonempty)] at below

theorem next_below_unended (bytes : Bytes) : (next false bytes).LeavesBelow bytes.length := by
  cases bytes with
  | nil => trivial
  | cons b rest => exact next_below false (by simp)

namespace Reader

def supply (r : Reader) (piece : Bytes) : Reader := { r with unread := r.unread ++ piece }

def advance (r : Reader) : Reader := drain false (r.unread.length + 1) r

theorem receive_eq (r : Reader) (piece : Bytes) : r.receive piece = (r.supply piece).advance := rfl

theorem drain_stopped (ended : Bool) (fuel : Nat) {r : Reader} (stopped : r.stopped = true) :
    drain ended fuel r = r := by
  cases fuel with
  | zero => rfl
  | succ fuel => rw [drain, if_pos stopped]

private theorem drain_nil (ended : Bool) (fuel : Nat) {r : Reader} (empty : r.unread = []) :
    drain ended (fuel + 1) r = drain ended 1 r := by
  rw [drain, drain, empty]
  split
  · rfl
  · cases ended with
    | false => rfl
    | true =>
      -- Nothing but the end of the stream is left, which stops the reader.
      exact drain_stopped true fuel rfl

private theorem drain_fuel (ended : Bool) {fuel more : Nat} {r : Reader} (enough : r.unread.length < fuel)
    (plenty : r.unread.length < more) : drain ended fuel r = drain ended more r := by
  induction fuel generalizing more r with
  | zero => omega
  | succ fuel ih =>
    obtain ⟨more, rfl⟩ := Nat.exists_eq_add_of_lt (Nat.zero_lt_of_lt plenty)
    rw [Nat.zero_add] at plenty ⊢
    by_cases empty : r.unread = []
    · rw [drain_nil ended fuel empty, drain_nil ended more empty]
    · have below := next_below ended empty
      simp only [drain]
      split
      · rfl
      · cases read : next ended r.unread with
        | waiting => rfl
        | done body rest =>
          rw [read] at below
          have less : rest.length < r.unread.length := below
          exact ih (by simp only; omega) (by simp only; omega)
        | fault cause rest =>
          rw [read] at below
          have less : rest.length < r.unread.length := below
          exact ih (by simp only; omega) (by simp only; omega)

theorem drain_done (ended : Bool) {r : Reader} {body : String} {rest : Bytes} (running : r.stopped = false)
    (read : next ended r.unread = .done body rest) :
    drain ended (r.unread.length + 1) r =
      drain ended (rest.length + 1) ⟨rest, r.results ++ [.ok body], false⟩ := by
  by_cases empty : r.unread = []
  · rw [empty] at read
    cases ended <;> contradiction
  · have below := next_below ended empty
    rw [read] at below
    have less : rest.length < r.unread.length := below
    rw [drain, running, read]
    exact drain_fuel ended less (Nat.lt_succ_self _)

theorem drain_fault (ended : Bool) {r : Reader} {cause : Fault} {rest : Bytes} (running : r.stopped = false)
    (read : next ended r.unread = .fault cause rest) :
    drain ended (r.unread.length + 1) r =
      drain ended (rest.length + 1) ⟨rest, r.results ++ [.error cause], !cause.isOfBody⟩ := by
  by_cases empty : r.unread = []
  · rw [empty] at read
    cases ended with
    | false => contradiction
    | true =>
      cases read
      rw [drain, running, empty]
      exact (drain_stopped true _ rfl).trans (drain_stopped true _ rfl).symm
  · have below := next_below ended empty
    rw [read] at below
    have less : rest.length < r.unread.length := below
    rw [drain, running, read]
    exact drain_fuel ended less (Nat.lt_succ_self _)

theorem advance_stopped {r : Reader} (stopped : r.stopped = true) : r.advance = r :=
  drain_stopped false _ stopped

theorem advance_waiting {r : Reader} (waits : next false r.unread = .waiting) : r.advance = r := by
  simp [advance, drain, waits]

theorem advance_done {r : Reader} {body : String} {rest : Bytes} (running : r.stopped = false)
    (read : next false r.unread = .done body rest) :
    r.advance = (⟨rest, r.results ++ [.ok body], false⟩ : Reader).advance :=
  drain_done false running read

theorem advance_fault {r : Reader} {cause : Fault} {rest : Bytes} (running : r.stopped = false)
    (read : next false r.unread = .fault cause rest) :
    r.advance = (⟨rest, r.results ++ [.error cause], !cause.isOfBody⟩ : Reader).advance :=
  drain_fault false running read

/-- It makes no difference whether the frames that have arrived are read before more bytes come or
together with them. -/
theorem advance_supply (r : Reader) (piece : Bytes) :
    (r.advance.supply piece).advance = (r.supply piece).advance := by
  -- Each frame leaves fewer bytes unread, so the induction is on their number, not on the fuel.
  induction bytes : r.unread.length using Nat.strongRecOn generalizing r with
  | ind n ih =>
    cases running : r.stopped with
    | true => rw [advance_stopped running]
    | false =>
      have below := next_below_unended r.unread
      have extended := next_extend false piece r.unread
      cases read : next false r.unread with
      | waiting => rw [advance_waiting read]
      | done body rest =>
        rw [read] at below extended
        have less : rest.length < n := bytes ▸ below
        have longer : next false (r.supply piece).unread = .done body (rest ++ piece) :=
          extended (by simp)
        rw [advance_done running read, advance_done (r := r.supply piece) running longer]
        exact ih rest.length less _ rfl
      | fault cause rest =>
        rw [read] at below extended
        have less : rest.length < n := bytes ▸ below
        have longer : next false (r.supply piece).unread = .fault cause (rest ++ piece) :=
          extended (by simp)
        rw [advance_fault running read, advance_fault (r := r.supply piece) running longer]
        exact ih rest.length less _ rfl

private theorem receive_append (r : Reader) (first second : Bytes) :
    (r.receive first).receive second = r.receive (first ++ second) := by
  simp only [receive_eq, advance_supply]
  simp [supply]

/-- A stream is read the same way however it is cut. -/
theorem foldl_receive (r : Reader) (piece : Bytes) (pieces : List Bytes) :
    pieces.foldl receive (r.receive piece) = r.receive (piece ++ pieces.flatten) := by
  induction pieces generalizing piece with
  | nil => simp
  | cons second pieces ih => rw [List.foldl_cons, receive_append, ih, List.flatten_cons, List.append_assoc]

private theorem receive_nil : empty.receive [] = empty := rfl

/-- Only the bytes of a stream count, not the pieces in which they come. -/
theorem readAll_eq (pieces : List Bytes) :
    readAll pieces = (empty.receive pieces.flatten).finish.results := by
  have whole := foldl_receive empty [] pieces
  rw [receive_nil, List.nil_append] at whole
  rw [readAll, whole]

private theorem advance_enframe {body : Bytes} (small : body.length ≤ bufferLimit) (rest : Bytes)
    (results : List (Except Fault String)) :
    (⟨enframe body ++ rest, results, false⟩ : Reader).advance =
      (⟨rest, results ++ [bodyText body], false⟩ : Reader).advance := by
  have read := next_enframe false small rest
  unfold bodyText at read ⊢
  cases text : textOf? body with
  | none =>
    rw [text] at read
    exact advance_fault rfl read
  | some found =>
    rw [text] at read
    exact advance_done rfl read

/-- Every frame gives the result of its own body, and then the reader stands at what follows the frames. -/
theorem advance_frames (bodies : List Bytes) (rest : Bytes) (results : List (Except Fault String))
    (fits : ∀ body ∈ bodies, body.length ≤ bufferLimit) :
    (⟨bodies.flatMap enframe ++ rest, results, false⟩ : Reader).advance =
      (⟨rest, results ++ bodies.map bodyText, false⟩ : Reader).advance := by
  induction bodies generalizing results with
  | nil => simp
  | cons body bodies ih =>
    have first := advance_enframe (fits body (by simp)) (bodies.flatMap enframe ++ rest) results
    rw [List.flatMap_cons, List.append_assoc, first, ih _ fun later inside => fits later (by simp [inside])]
    simp

theorem flatten_flatMap_throughPipe (pieces : List Bytes) (capacity : Nat) :
    (pieces.flatMap (throughPipe capacity)).flatten = pieces.flatten := by
  rw [← List.flatMap_id', List.flatMap_assoc]
  simp [flatten_throughPipe]

/-- A stream of frames, in whatever pieces their bytes arrive and through whatever pipe. -/
theorem readAll_frames (bodies pieces : List Bytes) (capacity : Nat)
    (fits : ∀ body ∈ bodies, body.length ≤ bufferLimit) (cut : pieces.flatten = bodies.flatMap enframe) :
    readAll (pieces.flatMap (throughPipe capacity)) = bodies.map bodyText ++ [.error .closed] := by
  have whole : (pieces.flatMap (throughPipe capacity)).flatten = bodies.flatMap enframe := by
    rw [flatten_flatMap_throughPipe, cut]
  have arrived : empty.receive (bodies.flatMap enframe) = ⟨[], bodies.map bodyText, false⟩ := by
    have frames := advance_frames bodies [] [] fits
    rw [List.append_nil, advance_waiting (r := ⟨[], _, false⟩) rfl] at frames
    exact frames
  rw [readAll_eq, whole, arrived]
  rfl

/-- Texts that were written as frames are read back in order, in whatever pieces their bytes arrive
and through whatever pipe, and then the end of the stream is reported. A text in memory is never
larger than the largest buffer. -/
theorem readAll_encode (texts : List String) (pieces : List Bytes) (capacity : Nat)
    (fits : ∀ text ∈ texts, text.utf8ByteSize ≤ bufferLimit)
    (cut : pieces.flatten = texts.flatMap encode) :
    ∃ fault : Fault, fault.kind = .unexpectedEnd ∧
      fault.message? = some "Server closed connection" ∧
      readAll (pieces.flatMap (throughPipe capacity)) = texts.map .ok ++ [.error fault] := by
  refine ⟨.closed, rfl, rfl, ?_⟩
  have bodies : texts.flatMap encode = (texts.map bytesOf).flatMap enframe := by
    rw [List.flatMap_map, funext encode_eq]
  have small : ∀ body ∈ texts.map bytesOf, body.length ≤ bufferLimit := by simpa using fits
  have results : (texts.map bytesOf).map bodyText = texts.map .ok := by
    rw [List.map_map]
    exact List.map_congr_left fun text _ => bodyText_bytesOf text
  rw [readAll_frames (texts.map bytesOf) pieces capacity small (cut.trans bodies), results]

/-- A body that looks like a header and ends in a character of two bytes, cut inside of it. -/
theorem readAll_encode_split :
    (∀ text ∈ ["", "Content-Length: 1\r\n\r\né"], text.utf8ByteSize ≤ bufferLimit) ∧
    [(["", "Content-Length: 1\r\n\r\né"].flatMap encode).take 65,
      (["", "Content-Length: 1\r\n\r\né"].flatMap encode).drop 65].flatten =
        ["", "Content-Length: 1\r\n\r\né"].flatMap encode ∧
    ∃ fault : Fault, fault.kind = .unexpectedEnd ∧
      fault.message? = some "Server closed connection" ∧
      readAll ([(["", "Content-Length: 1\r\n\r\né"].flatMap encode).take 65,
        (["", "Content-Length: 1\r\n\r\né"].flatMap encode).drop 65].flatMap (throughPipe 3)) =
          ["", "Content-Length: 1\r\n\r\né"].map .ok ++ [.error fault] := by
  have fits : ∀ text ∈ ["", "Content-Length: 1\r\n\r\né"], text.utf8ByteSize ≤ bufferLimit := by
    decide
  have cut : [(["", "Content-Length: 1\r\n\r\né"].flatMap encode).take 65,
      (["", "Content-Length: 1\r\n\r\né"].flatMap encode).drop 65].flatten =
        ["", "Content-Length: 1\r\n\r\né"].flatMap encode := by
    simp only [List.flatten_cons, List.flatten_nil, List.append_nil, List.take_append_drop]
  exact ⟨fits, cut, readAll_encode _ _ 3 fits cut⟩

end Reader

end LanguageClient.Frame
