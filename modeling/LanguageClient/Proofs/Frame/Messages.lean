import LanguageClient.Proofs.Frame.Stream

/-! Messages in a stream. A piece of the stream that carries a message is read as this message whatever
follows it, a part of the piece is not read as anything yet, and the end of the stream makes no message
of what has only been begun. -/
namespace LanguageClient.Frame

private theorem nextMessage_extend (ended : Bool) (more bytes : Bytes)
    (decided : nextMessage false bytes ≠ .waiting) :
    nextMessage ended (bytes ++ more) = (nextMessage false bytes).extend more := by
  have known : next false bytes ≠ .waiting := by
    intro waits
    apply decided
    rw [nextMessage, waits]
  have longer := next_extend ended more bytes known
  rw [nextMessage, longer, nextMessage]
  cases next false bytes <;> rfl

/-- The bytes are a frame with the text of the message. -/
def Carries (piece : Bytes) (message : Message) : Prop := nextMessage false piece = .done (.ok message) []

namespace Carries

variable {piece : Bytes} {message : Message}

theorem read (carries : Carries piece message) (ended : Bool) (rest : Bytes) :
    nextMessage ended (piece ++ rest) = .done (.ok message) rest := by
  have decided : nextMessage false piece ≠ .waiting := by
    rw [carries]
    nofun
  rw [nextMessage_extend ended rest piece decided, carries]
  rfl

theorem waits {rest : Bytes} (carries : Carries (piece ++ rest) message) (more : rest ≠ []) :
    nextMessage false piece = .waiting := by
  -- What is read of a part would be read of the whole, with the rest left over.
  have whole := nextMessage_extend false rest piece
  rw [carries] at whole
  cases part : nextMessage false piece with
  | waiting => rfl
  | done value left =>
    rw [part] at whole
    have same := whole nofun
    injection same with _ left_over
    exact absurd (List.append_eq_nil_iff.1 left_over.symm).2 more
  | fault cause left =>
    rw [part] at whole
    exact absurd (whole nofun) nofun

end Carries

/-- Header lines that are not complete declare no body but an empty one. -/
theorem readHeaders_ended (line : Bytes) (length : Option Nat) (bytes : Bytes)
    (waits : readHeaders false line length bytes = .waiting) :
    (∃ cause rest, readHeaders true line length bytes = .fault cause rest) ∨
      ∃ n, readHeaders true line length bytes = .done n [] := by
  induction bytes generalizing line length with
  | nil =>
    rw [readHeaders.eq_def]
    dsimp only
    rw [if_pos rfl]
    split
    · exact .inl ⟨_, _, rfl⟩
    · split
      · exact .inl ⟨_, _, rfl⟩
      · cases length with
        | none => exact .inl ⟨_, _, rfl⟩
        | some n => exact .inr ⟨n, rfl⟩
      · exact .inl ⟨_, _, rfl⟩
  | cons b rest ih =>
    rw [readHeaders.eq_def] at waits
    rw [readHeaders.eq_def]
    dsimp only at waits ⊢
    split
    · next feed =>
      rw [if_pos feed] at waits
      cases meant : readHeaderLine (b :: line).reverse with
      | error cause => exact .inl ⟨_, _, rfl⟩
      | ok headerLine =>
        rw [meant] at waits
        cases headerLine with
        | blank => cases length <;> contradiction
        | length n => exact ih [] (some n) waits
        | other => exact ih [] length waits
    · next inner =>
      rw [if_neg inner] at waits
      exact ih (b :: line) length waits

private theorem readBody_ended {length : Nat} {bytes : Bytes} (waits : readBody false length bytes = .waiting) :
    readBody true length bytes = .fault .truncated [] := by
  unfold readBody at waits ⊢
  split at waits
  · contradiction
  · next fits =>
    split at waits
    · split at waits <;> contradiction
    · next short => rw [if_neg fits, if_neg short, if_pos rfl]

private theorem readBody_nil (ended : Bool) (length : Nat) (body : String) (rest : Bytes)
    (read : readBody ended length [] = .done body rest) : body = "" := by
  unfold readBody at read
  split at read
  · contradiction
  · split at read
    · cases text : textOf? (([] : Bytes).take length) with
      | none =>
        rw [text] at read
        contradiction
      | some found =>
        rw [text] at read
        cases read
        rw [List.take_nil] at text
        exact (Option.some.inj text).symm
    · split at read <;> contradiction

private theorem parse_empty : Message.parse "" = .error .malformed := by rfl

/-- What waits for more bytes is no message when there are no more. -/
theorem nextMessage_ended {bytes : Bytes} (waits : nextMessage false bytes = .waiting) (message : Message)
    (rest : Bytes) : nextMessage true bytes ≠ .done (.ok message) rest := by
  intro read
  unfold nextMessage next at waits read
  cases headers : readHeaders false [] none bytes with
  | fault cause left => simp only [headers] at waits; contradiction
  | waiting =>
    rcases readHeaders_ended [] none bytes headers with ⟨cause, left, ended⟩ | ⟨n, ended⟩
    · simp only [ended] at read
      contradiction
    · simp only [ended] at read
      cases body : readBody true n [] with
      | done text left =>
        simp only [body] at read
        rw [readBody_nil true n text left body, parse_empty] at read
        cases read
      | waiting | fault =>
        simp only [body] at read
        contradiction
  | done n left =>
    have same : readHeaders true [] none bytes = .done n left := by
      have longer := readHeaders_extend true [] [] none bytes (by rw [headers]; nofun)
      rw [List.append_nil, headers, Progress.extend, List.append_nil] at longer
      exact longer
    simp only [headers] at waits
    simp only [same] at read
    cases body : readBody false n left with
    | waiting =>
      rw [readBody_ended body] at read
      contradiction
    | done | fault =>
      rw [body] at waits
      contradiction

/-- The end of the stream leaves nothing open. -/
theorem readHeaders_decided (line : Bytes) (length : Option Nat) (bytes : Bytes) :
    readHeaders true line length bytes ≠ .waiting := by
  induction bytes generalizing line length with
  | nil =>
    rw [readHeaders.eq_def]
    dsimp only
    rw [if_pos rfl]
    split
    · simp
    · split
      · simp
      · cases length <;> simp
      · simp
  | cons b rest ih =>
    rw [readHeaders.eq_def]
    dsimp only
    split
    · split
      · simp
      · cases length <;> simp
      · exact ih [] _
      · exact ih [] _
    · exact ih _ _

private theorem readBody_decided (length : Nat) (bytes : Bytes) : readBody true length bytes ≠ .waiting := by
  unfold readBody
  split
  · nofun
  · split
    · cases textOf? (bytes.take length) <;> nofun
    · nofun

theorem nextMessage_decided (bytes : Bytes) : nextMessage true bytes ≠ .waiting := by
  unfold nextMessage next
  cases headers : readHeaders true [] none bytes with
  | waiting => exact absurd headers (readHeaders_decided [] none bytes)
  | fault cause rest => nofun
  | done length rest =>
    dsimp only
    cases body : readBody true length rest with
    | waiting => exact absurd body (readBody_decided length rest)
    | done | fault => nofun

/-- A message takes at least one byte. -/
theorem nextMessage_shorter {ended : Bool} {bytes rest : Bytes} {message : Except MessageError Message}
    (read : nextMessage ended bytes = .done message rest) : rest.length < bytes.length := by
  unfold nextMessage at read
  cases body : next ended bytes with
  | waiting | fault =>
    rw [body] at read
    contradiction
  | done text left =>
    rw [body] at read
    cases read
    have nonempty : bytes ≠ [] := by
      rintro rfl
      cases ended <;> cases body
    have below := next_below ended nonempty
    rw [body] at below
    exact below

end LanguageClient.Frame
