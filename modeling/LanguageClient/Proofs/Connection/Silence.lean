import LanguageClient.Proofs.Connection.Fate
import LanguageClient.Proofs.Connection.Filing
import LanguageClient.Proofs.Connection.Replies

/-! When the reader has stopped. From the read that fails on, the reader takes in nothing more; it says that
it has ended, closes the queue and drains the table, in this order. What each kind of call sees of this, and
what becomes of the stored diagnostics and of the outgoing stream, is settled by how far it has come. -/
namespace LanguageClient

namespace ReaderPhase

/-- Reading has failed. -/
def isLeaving : ReaderPhase → Bool
  | .failing => true
  | .terminating => true
  | .closing => true
  | .marking => true
  | .cancelling => true
  | .ended => true
  | _ => false

def toGo : ReaderPhase → Nat
  | .failing => 5
  | .terminating => 4
  | .closing => 3
  | .marking => 2
  | .cancelling => 1
  | _ => 0

private theorem not_leaving_of_serves {reader : ReaderPhase} (serves : reader.serves = true) :
    reader.isLeaving = false := by
  cases reader <;> first | rfl | contradiction

end ReaderPhase

namespace Connection

structure Leaving (c c' : Connection) : Prop where
  leaving : c'.reader.isLeaving = true
  files : SameFiles c c'

private theorem stepReader?_leaving {c c' : Connection} (leaving : c.reader.isLeaving = true)
    (step : c.stepReader? = some c') : Leaving c c' ∧ c'.reader.toGo < c.reader.toGo := by
  unfold stepReader? at step
  cases reader : c.reader with
  | failing =>
    rw [reader] at step
    cases step
    exact ⟨⟨rfl, by split <;> exact ⟨rfl, rfl, rfl⟩⟩, Nat.lt_succ_self _⟩
  | terminating =>
    rw [reader] at step
    cases step
    exact ⟨⟨rfl, rfl, rfl, rfl⟩, Nat.lt_succ_self _⟩
  | closing =>
    rw [reader] at step
    dsimp only at step
    split at step <;> cases step <;> exact ⟨⟨rfl, rfl, rfl, rfl⟩, by simp [ReaderPhase.toGo]⟩
  | marking =>
    rw [reader] at step
    cases step
    exact ⟨⟨rfl, (SameFiles.tried c .close).trans ⟨rfl, rfl, rfl⟩⟩, Nat.lt_succ_self _⟩
  | cancelling =>
    rw [reader] at step
    cases step
    exact ⟨⟨rfl, (SameFiles.cancelled c _ _).trans ⟨rfl, rfl, rfl⟩⟩, Nat.lt_succ_self _⟩
  | ended =>
    rw [reader] at step
    contradiction
  | reading | replyProbing | replySending | dead =>
    rw [reader] at leaving
    contradiction

private theorem stepReader?_ended {c : Connection} (leaving : c.reader.isLeaving = true)
    (lost : c.stepReader? = none) :
    c.reader = .ended := by
  unfold stepReader? at lost
  cases reader : c.reader with
  | ended => rfl
  | failing | terminating | marking | cancelling =>
    rw [reader] at lost
    contradiction
  | closing =>
    rw [reader] at lost
    dsimp only at lost
    split at lost <;> contradiction
  | reading | replyProbing | replySending | dead =>
    rw [reader] at leaving
    contradiction

/-- A reader that does not read takes in no response. -/
theorem event?_of_unread {c : Connection} (unread : c.reader ≠ .reading) (m : Move) (r : Response) :
    c.event? m ≠ some (.handled r) := by
  intro event
  cases m with
  | turn party =>
    cases party with
    | reader =>
      change c.readerEvent? = _ at event
      unfold readerEvent? at event
      split at event
      · next reading => exact unread reading
      · cases event
      · contradiction
    | call i =>
      change c.callEvent? i = _ at event
      unfold callEvent? at event
      split at event
      · cases event
      · split at event <;> cases event
      · cases event
      · contradiction
    | writer | timer => contradiction
  | _ => contradiction

private theorem leaving_move {c : Connection} (leaving : c.reader.isLeaving = true) (m : Move) :
    Leaving c (c.move m) := by
  by_cases reads : m = .turn .reader
  · subst reads
    have moved : c.move (.turn .reader) = c.stepReader?.getD c := rfl
    rw [moved]
    cases step : c.stepReader? with
    | none => exact ⟨leaving, .refl c⟩
    | some c' => exact (stepReader?_leaving leaving step).1
  · exact ⟨by rw [(move_reader reads).1]; exact leaving, move_files reads⟩

theorem leaving_run {c : Connection} (leaving : c.reader.isLeaving = true) (more : List Move) :
    Leaving c (c.run more) ∧ ∀ r, .handled r ∉ c.trace more := by
  induction more generalizing c with
  | nil => exact ⟨⟨leaving, .refl c⟩, fun _ => List.not_mem_nil⟩
  | cons m rest ih =>
    have first := leaving_move leaving m
    obtain ⟨later, silent⟩ := ih first.leaving
    refine ⟨⟨later.leaving, first.files.trans later.files⟩, fun r inside => ?_⟩
    rcases List.mem_append.1 inside with now | after
    · refine event?_of_unread (fun reading => ?_) m r (Option.mem_toList.1 now)
      rw [reading] at leaving
      contradiction
    · exact silent r after

/-- With five turns the reader has come to its end. -/
theorem leaving_ended {c : Connection} (leaving : c.reader.isLeaving = true) (more : List Move)
    (turns : c.reader.toGo ≤ more.countP Move.isReading) : (c.run more).reader = .ended := by
  induction more generalizing c with
  | nil =>
    cases reader : c.reader <;> rw [reader] at leaving turns <;> first | exact reader | contradiction
  | cons m rest ih =>
    have first := leaving_move leaving m
    refine ih first.leaving ?_
    by_cases reads : m = .turn .reader
    · subst reads
      have own : (Move.turn .reader).isReading = true := rfl
      rw [List.countP_cons_of_pos own] at turns
      have moved : c.move (.turn .reader) = c.stepReader?.getD c := rfl
      rw [moved]
      cases step : c.stepReader? with
      | none =>
        rw [Option.getD_none, stepReader?_ended leaving step]
        exact Nat.zero_le _
      | some c' =>
        have less := (stepReader?_leaving leaving step).2
        rw [Option.getD_some]
        omega
    · have notOwn : ¬ m.isReading = true := fun own => reads (Move.isReading_iff.1 own)
      rw [List.countP_cons_of_neg notOwn] at turns
      rw [(move_reader reads).1]
      exact turns

inductive ReaderStep (c c' : Connection) : Prop
  | waited (reading : c.reader = .reading) (next : Frame.nextMessage c.inboxEnded c.inbox = .waiting)
      (same : c' = c) : ReaderStep c c'
  | took (message : Message) (rest : Frame.Bytes) (reading : c.reader = .reading)
      (next : Frame.nextMessage c.inboxEnded c.inbox = .done (.ok message) rest) (inbox : c'.inbox = rest)
      (serves : c'.reader.serves = true) (due : c'.reader.due ≤ 2) (terminated : c'.terminated = c.terminated) :
      ReaderStep c c'
  | failed (reading : c.reader = .reading)
      (error : (∃ e rest, Frame.nextMessage c.inboxEnded c.inbox = .done (.error e) rest) ∨
        ∃ fault rest, Frame.nextMessage c.inboxEnded c.inbox = .fault fault rest ∧ fault ≠ .unallocatable)
      (failing : c'.reader = .failing) (terminated : c'.terminated = c.terminated) : ReaderStep c c'
  | died (rest : Frame.Bytes) (reading : c.reader = .reading)
      (next : Frame.nextMessage c.inboxEnded c.inbox = .fault .unallocatable rest) (dead : c'.reader = .dead)
      (terminated : c'.terminated = c.terminated) : ReaderStep c c'
  | replied (before : c.reader.serves = true) (busy : c.reader ≠ .reading) (serves : c'.reader.serves = true)
      (due : c'.reader.due < c.reader.due) (inbox : c'.inbox = c.inbox) (terminated : c'.terminated = c.terminated) :
      ReaderStep c c'
  | left (before : c.reader.isLeaving = true) (leaving : c'.reader.isLeaving = true)
      (less : c'.reader.toGo < c.reader.toGo) (gone : c.reader.isGone = true → c'.reader.isGone = true)
      (terminated : c'.terminated = c.terminated ∨ c'.reader.isGone = true) : ReaderStep c c'
  | stopped (halted : c.reader = .ended ∨ c.reader = .dead) (same : c' = c) : ReaderStep c c'

theorem reader_step (c : Connection) : ReaderStep c (c.move (.turn .reader)) := by
  have moved : c.move (.turn .reader) = c.stepReader?.getD c := rfl
  rw [moved, stepReader?]
  cases reader : c.reader with
  | reading =>
    dsimp only
    cases next : Frame.nextMessage c.inboxEnded c.inbox with
    | waiting => exact .waited reader next rfl
    | done message rest =>
      cases message with
      | error e => exact .failed reader (.inl ⟨e, rest, next⟩) rfl rfl
      | ok message =>
        have handled := handleMessage_handled { c with inbox := rest, reader := .reading } message
        obtain ⟨_, due, serves⟩ := handleMessage_reader { c with inbox := rest, reader := .reading } rfl message
        exact .took message rest reader next handled.inbox serves due handled.terminated
    | fault cause rest =>
      cases cause with
      | unallocatable => exact .died rest reader next rfl rfl
      | _ => exact .failed reader (.inr ⟨_, rest, next, by simp⟩) rfl rfl
  | replyProbing method text =>
    have serves : c.reader.serves = true := by rw [reader]; rfl
    have busy : c.reader ≠ .reading := by simp [reader]
    have due : c.reader.due = 2 := by rw [reader]; rfl
    dsimp only
    split
    · exact .replied serves busy rfl (by rw [due]; exact Nat.two_pos) rfl rfl
    · exact .replied serves busy rfl (by rw [due]; exact Nat.one_lt_two) rfl rfl
  | replySending method text =>
    have serves : c.reader.serves = true := by rw [reader]; rfl
    have busy : c.reader ≠ .reading := by simp [reader]
    have due : c.reader.due = 1 := by rw [reader]; rfl
    dsimp only [enqueue?]
    by_cases ended : c.writer = .ended
    · rw [if_pos ended]
      exact .replied serves busy rfl (by rw [due]; exact Nat.one_pos) rfl rfl
    · rw [if_neg ended]
      exact .replied serves busy rfl (by rw [due]; exact Nat.one_pos) rfl rfl
  | failing =>
    have leaving : c.reader.isLeaving = true := by rw [reader]; rfl
    refine .left leaving rfl (by rw [reader]; exact Nat.lt_succ_self _) (by simp [reader, ReaderPhase.isGone]) (.inl ?_)
    dsimp only [Option.getD_some]
    split <;> rfl
  | terminating =>
    exact .left (by rw [reader]; rfl) rfl (by rw [reader]; exact Nat.lt_succ_self _) (fun _ => rfl) (.inr rfl)
  | closing =>
    have leaving : c.reader.isLeaving = true := by rw [reader]; rfl
    dsimp only
    split <;> exact .left leaving rfl (by simp [reader, ReaderPhase.toGo]) (fun _ => rfl) (.inr rfl)
  | marking =>
    exact .left (by rw [reader]; rfl) rfl (by rw [reader]; exact Nat.lt_succ_self _) (fun _ => rfl) (.inr rfl)
  | cancelling =>
    exact .left (by rw [reader]; rfl) rfl (by rw [reader]; exact Nat.lt_succ_self _) (fun _ => rfl) (.inr rfl)
  | ended => exact .stopped (.inl reader) rfl
  | dead => exact .stopped (.inr reader) rfl

private theorem drained_event {c : Connection} {m : Move} {code : Int32} {reason : String}
    (event : c.event? m = some (.drained code reason)) :
    code = ErrorCode.requestCancelled ∧ reason = "Server shutdown" ∨ code = ErrorCode.serverTerminated := by
  cases m with
  | turn party =>
    cases party with
    | reader =>
      change c.readerEvent? = _ at event
      unfold readerEvent? at event
      split at event
      · split at event <;> cases event
      · cases event
        exact .inr rfl
      · contradiction
    | call j =>
      change c.callEvent? j = _ at event
      unfold callEvent? at event
      split at event
      · cases event
      · split at event <;> cases event
      · cases event
        exact .inl ⟨rfl, rfl⟩
      · contradiction
    | writer | timer => contradiction
  | _ => contradiction

private theorem drained_trace {c : Connection} {moves : List Move} {code : Int32} {reason : String}
    (inside : .drained code reason ∈ c.trace moves) :
    code = ErrorCode.requestCancelled ∧ reason = "Server shutdown" ∨ code = ErrorCode.serverTerminated := by
  induction moves generalizing c with
  | nil => contradiction
  | cons m rest ih =>
    rcases List.mem_append.1 inside with now | later
    · exact drained_event (Option.mem_toList.1 now)
    · exact ih later

inductive Forsaken (t : List Event) (i n : Nat) : Except ClientError Json → Prop
  | gone (reason : String)
      (first : FirstAnswer t i n (some (cancellation n ErrorCode.serverTerminated reason))) :
      Forsaken t i n (.error .serverTerminated)
  | cancelled (first : FirstAnswer t i n (some (cancellation n ErrorCode.requestCancelled "Server shutdown"))) :
      Forsaken t i n (.error (.serverError ErrorCode.requestCancelled "Server shutdown"))
  | refused (unsent : ∀ m, .sent i m ∉ t) : Forsaken t i n (.error .notConnected)

section Pending
variable {t : List Event} {c : Connection} {i n : Nat} {k : Call} {more : List Move}

/-- Where no response is taken in, the first answer to a number that had none is a draining. -/
theorem drained_of_silent (silent : ∀ r, .handled r ∉ c.trace more) (waits : FirstAnswer t i n none)
    (numbers : ((registrations (t ++ c.trace more)).map Prod.snd).Nodup) {r : Response}
    (first : FirstAnswer (t ++ c.trace more) i n (some r)) :
    ∃ code reason, .drained code reason ∈ c.trace more ∧ r = cancellation n code reason := by
  have given := (first.unique numbers (waits.later (c.trace more))).2
  obtain ⟨e, inside, answer⟩ := List.exists_of_findSome?_eq_some given.symm
  cases e with
  | handled r' => exact absurd inside (silent r')
  | drained code reason =>
    cases answer
    exact ⟨code, reason, inside, rfl⟩
  | registered | sent => contradiction

private theorem forsaken (tracked : Tracked t c) (unsent : Unsent t c) (found : c.calls[i]? = some k)
    (asks : k.purpose.asks = true) (inside : (n, i) ∈ c.pending) (silent : ∀ r, .handled r ∉ c.trace more) :
    ∃ k', (c.run more).calls[i]? = some k' ∧ k'.purpose = k.purpose ∧ (k'.phase.held? = some n ∨
      ∃ result, k'.phase = .finished result ∧ Forsaken (t ++ c.trace more) i n result) := by
  obtain ⟨fated, waits⟩ := Fated.of_pending tracked found asks inside
  have numbers := (trace_keeps Tracked (fun _ _ m tracked => tracked.move m) tracked more).entered.numbers
  have bad (r : Response) (first : FirstAnswer (t ++ c.trace more) i n (some r)) : ∃ e, resultOf r = .error e := by
    obtain ⟨code, reason, listed, rfl⟩ := drained_of_silent silent waits numbers first
    rcases drained_trace listed with ⟨rfl, rfl⟩ | rfl <;> exact ⟨_, rfl⟩
  obtain ⟨k', found', purpose, fate⟩ := fated_run tracked unsent found asks fated more bad
  refine ⟨k', found', purpose, ?_⟩
  cases fate with
  | held held => exact .inl held
  | answered r first finished =>
    refine .inr ⟨_, finished, ?_⟩
    obtain ⟨code, reason, listed, rfl⟩ := drained_of_silent silent waits numbers first
    rcases drained_trace listed with ⟨rfl, rfl⟩ | rfl
    · exact .cancelled first
    · exact .gone reason first
  | refused unsent finished => exact .inr ⟨_, finished, .refused unsent⟩

theorem forsaken_back (tracked : Tracked t c) (unsent : Unsent t c) (found : c.calls[i]? = some k)
    (asks : k.purpose.asks = true) (inside : (n, i) ∈ c.pending) (silent : ∀ r, .handled r ∉ c.trace more)
    {result : Except ClientError Json} (back : (c.run more).result? i = some result) :
    Forsaken (t ++ c.trace more) i n result := by
  obtain ⟨k', found', _, fate⟩ := forsaken tracked unsent found asks inside silent
  obtain ⟨l, present, finished⟩ := finished_of_result? back
  cases found'.symm.trans present
  rcases fate with held | ⟨last, same, fate⟩
  · rw [finished] at held
    contradiction
  · cases finished.symm.trans same
    exact fate

private theorem rank_of_held? {phase : CallPhase} (held : phase.held? = some n) :
    0 < phase.rank ∧ phase.rank ≤ 3 := by
  cases phase <;> first | contradiction | exact ⟨Nat.lt_of_sub_eq_succ rfl, by simp [CallPhase.rank]⟩

/-- With the turns of the reader, and then three turns of its own, a request that was pending when the
reading failed comes back. -/
theorem forsaken_returns (tracked : Tracked t c) (unsent : Unsent t c) (closing : Closing c)
    (leaving : c.reader.isLeaving = true) (found : c.calls[i]? = some k) (asks : k.purpose.asks = true)
    (inside : (n, i) ∈ c.pending) (first more : List Move) (reads : c.reader.toGo ≤ first.countP Move.isReading)
    (turns : 3 ≤ more.countP (Move.isTurnOf i)) : ∃ result, ((c.run first).run more).result? i = some result := by
  obtain ⟨k₁, found₁, purpose₁, fate₁⟩ := forsaken tracked unsent found asks inside (leaving_run leaving first).2
  have tracked₁ := trace_keeps Tracked (fun _ _ m tracked => tracked.move m) tracked first
  have closing₁ := run_keeps Closing (fun c m closing => closing.change (c.move_change m).1 (c.move_change m).2) closing first
  have gone : Over (c.run first) := ⟨tracked₁.consistent, closing₁, .inl (leaving_ended leaving first reads)⟩
  rcases fate₁ with held | ⟨result, finished, _⟩
  · obtain ⟨k₂, found₂, purpose₂, rank⟩ := gone.through found₁ more (Nat.le_trans (rank_of_held? held).2 turns)
    obtain ⟨k₃, found₃, _, fate⟩ :=
      forsaken tracked unsent found asks inside (leaving_run leaving (first ++ more)).2
    rw [run_append] at found₃
    cases found₂.symm.trans found₃
    rcases fate with held | ⟨result, finished, _⟩
    · exact absurd rank (Nat.ne_of_gt (rank_of_held? held).1)
    · exact ⟨result, result?_of_finished found₂ finished⟩
  · obtain ⟨k₂, found₂, _, kept⟩ := goes_run found₁ more
    exact ⟨result, result?_of_finished found₂ (kept result finished)⟩

end Pending

private theorem reading_turn {c : Connection} (reading : c.reader = .reading) :
    (c.move (.turn .reader)).reader.isLeaving = true ↔
      (∃ e rest, Frame.nextMessage c.inboxEnded c.inbox = .done (.error e) rest) ∨
        ∃ fault rest, Frame.nextMessage c.inboxEnded c.inbox = .fault fault rest ∧ fault ≠ .unallocatable := by
  cases c.reader_step with
  | waited _ next same =>
    rw [same, reading, next]
    simp [ReaderPhase.isLeaving]
  | took message rest _ next _ serves =>
    rw [next]
    refine iff_of_false (fun leaving => ?_) (by simp)
    rw [ReaderPhase.not_leaving_of_serves serves] at leaving
    contradiction
  | failed _ error failing =>
    rw [failing]
    exact iff_of_true rfl error
  | died rest _ next dead =>
    rw [dead, next]
    simp [ReaderPhase.isLeaving]
  | replied _ busy => exact absurd reading busy
  | left leaving =>
    rw [reading] at leaving
    contradiction
  | stopped halted =>
    rw [reading] at halted
    rcases halted with now | now <;> contradiction

/-- A closed queue whose mark was put ends the stream with the messages before the mark. -/
theorem wire_of_closed (options : ClientOptions) (grace : Nat) {moves : List Move}
    (closed : ((connect options grace).run moves).closed = true)
    (free : ∀ p, ((connect options grace).run moves).outbound? p ≠ some .close) (more : List Move)
    (reads : ((connect options grace).run (moves ++ more)).peerReads = true)
    (turns : ((connect options grace).run moves).toEnd ≤ more.countP Move.isWriting) :
    ((connect options grace).run (moves ++ more)).wireEnded = true ∧
      ((connect options grace).run (moves ++ more)).wire = beforeMark ((connect options grace).entries moves) := by
  have whole := written_run options grace reads
  rw [run_append] at reads whole ⊢
  have written := written_run options grace (reads_of_run reads)
  -- Whoever has closed the queue may still have the mark in its hand; here nobody has.
  have marked : .close ∈ (connect options grace).entries moves :=
    (written.mark closed).resolve_right fun ⟨p, had⟩ => free p had
  have inQueue : IsMarked ((connect options grace).run moves) := by
    intro ready
    rw [written.ready ready] at marked
    rcases List.mem_append.1 marked with old | now
    · obtain ⟨text, _, other⟩ := List.mem_map.1 old
      contradiction
    · exact now
  have ended := stream_ended inQueue more reads turns
  refine ⟨decide_eq_true ended, ?_⟩
  rw [whole.wire_stopped (by rw [ended]; nofun), Connection.entries, gather_append]
  exact beforeMark_marked marked _

/-- What becomes of a connection whose reading fails, after a run from `start` with these moves. -/
structure Silenced (start : Connection) (moves : List Move) : Prop where
  /-- Reading fails where the stream ends, where a header cannot be read, and where a body is no text or
  no message. -/
  fails : (start.run moves).reader = .reading →
    ((start.run (moves ++ [.turn .reader])).reader.isLeaving = true ↔
      (∃ e rest, Frame.nextMessage (start.run moves).inboxEnded (start.run moves).inbox = .done (.error e) rest) ∨
        ∃ fault rest, Frame.nextMessage (start.run moves).inboxEnded (start.run moves).inbox = .fault fault rest ∧
          fault ≠ .unallocatable)
  /-- Then a few turns take the reader to its end; it has said so, and the queue is closed. -/
  ends : (start.run moves).reader.isLeaving = true → ∀ more,
    (start.run moves).reader.toGo ≤ more.countP Move.isReading →
      (start.run (moves ++ more)).reader = .ended ∧ (start.run (moves ++ more)).terminated = true ∧
        (start.run (moves ++ more)).closed = true
  /-- A request that is pending comes back, with the error that the server has gone, or because it was
  refused, or because a shutdown has drained the table before. -/
  pending : (start.run moves).reader.isLeaving = true → ∀ (n i : Nat) (k : Call),
    (n, i) ∈ (start.run moves).pending → (start.run moves).calls[i]? = some k → k.purpose.asks = true →
      (∀ first more, (start.run moves).reader.toGo ≤ first.countP Move.isReading →
        3 ≤ more.countP (Move.isTurnOf i) →
          ∃ result, (((start.run moves).run first).run more).result? i = some result) ∧
      ∀ more result, (start.run (moves ++ more)).result? i = some result →
        Forsaken (start.trace (moves ++ more)) i n result
  /-- Once the reader has said that it has ended, a request that begins comes back in its first turn with
  the error that the server has gone, and nothing else changes. -/
  requests : (start.run moves).terminated = true → ∀ (more : List Move) (i : Nat) (k : Call),
    (start.run moves).calls.length ≤ i → (start.run (moves ++ more)).calls[i]? = some k → k.purpose.asks = true →
      k.phase = .finished (.error .serverTerminated) ∨
      k.phase = .checking ∧ (start.run (moves ++ more)).move (.turn (.call i)) =
        (start.run (moves ++ more)).setPhase i (.finished (.error .serverTerminated))
  /-- Once the queue is closed, so does a notification that begins, which is refused. -/
  notices : (start.run moves).closed = true → ∀ (more : List Move) (i : Nat) (k : Call),
    (start.run moves).calls.length ≤ i → (start.run (moves ++ more)).calls[i]? = some k → k.purpose.tells = true →
      k.phase = .finished (.error .notConnected) ∨
      (start.run (moves ++ more)).move (.turn (.call i)) =
        (start.run (moves ++ more)).setPhase i (.finished (.error .notConnected))
  /-- The stored diagnostics stay as they are. -/
  files : (start.run moves).reader.isLeaving = true → ∀ more,
    (start.run (moves ++ more)).diagnostics = (start.run moves).diagnostics
  /-- Once the closing mark is in the queue, the stream ends with the messages that were put into the queue
  before it, if the server reads. -/
  stream : (start.run moves).closed = true → (∀ p, (start.run moves).outbound? p ≠ some .close) → ∀ more,
    (start.run (moves ++ more)).peerReads = true → (start.run moves).toEnd ≤ more.countP Move.isWriting →
      (start.run (moves ++ more)).wireEnded = true ∧
        (start.run (moves ++ more)).wire = beforeMark (start.entries moves)

/-- In every run, a connection whose reading fails falls silent as it should. -/
theorem run_silenced (options : ClientOptions) (grace : Nat) (moves : List Move) :
    Silenced (connect options grace) moves := by
  have tracked := tracked_run options grace moves
  have unsent := unsent_run options grace moves
  have closing := closing_run options grace moves
  have shutting := shutting_run options grace moves
  exact {
    fails := by
      intro reading
      rw [run_concat]
      exact reading_turn reading
    ends := by
      intro leaving more turns
      have ended : ((connect options grace).run (moves ++ more)).reader = .ended := by
        rw [run_append]
        exact leaving_ended leaving more turns
      refine ⟨ended, (declared_run options grace (moves ++ more)).gone ?_, (closing_run options grace (moves ++ more)).reader ?_⟩
      · rw [ended]
        rfl
      · rw [ended]
        rfl
    pending := by
      intro leaving n i k inside found asks
      refine ⟨fun first more => forsaken_returns tracked unsent closing leaving found asks inside first more,
        fun more result back => ?_⟩
      rw [run_append] at back
      rw [trace_append]
      exact forsaken_back tracked unsent found asks inside (leaving_run leaving more).2 back
    requests := by
      intro gone more i k new found asks
      rw [run_append] at found ⊢
      have turned := turned_run gone (fun j l outside present =>
        absurd (List.getElem?_eq_some_iff.1 present).1 (Nat.not_lt.2 outside)) more i k new found
      rcases turned asks with checking | finished
      · have still := (run_keeps (fun c => c.terminated = true) (fun c m => (c.move_course m).1.terminated) gone more)
        exact .inr ⟨checking, turned_turn still found asks checking⟩
      · exact .inl finished
    notices := by
      intro closed more i k new found tells
      rw [run_append] at found ⊢
      have start : Shut (fun j => ((connect options grace).run moves).calls.length ≤ j)
          ((connect options grace).run moves) :=
        ⟨closed, shutting.shutdowns, fun j l outside present =>
          absurd (List.getElem?_eq_some_iff.1 present).1 (Nat.not_lt.2 outside)⟩
      have later := (start.run more).1
      rcases (later.late i k new found).told tells with ⟨method, params, phase⟩ | finished
      · exact .inr (telling_turn later.closed found tells phase)
      · exact .inl finished
    files := by
      intro leaving more
      rw [run_append]
      exact (leaving_run leaving more).1.files.diagnostics
    stream := fun closed free more => wire_of_closed options grace closed free more }

/-- The moves of a run in which the server sends a header that cannot be read while a request is pending. -/
def disruption : List Move :=
  .begun (.request "textDocument/hover" .null) :: List.replicate 5 (.turn (.call 0)) ++
    [.receive (Frame.bytesOf "Content-Length: many\r\n"), .turn .reader]

theorem run_silenced_disruption :
    let start := connect ⟨"lean4", "Lean 4", [], none⟩ 5000
    let rest : List Move := List.replicate 5 (.turn .reader) ++ List.replicate 3 (.turn (.call 0))
    (start.run disruption).reader = .failing ∧
      ∃ result, (start.run (disruption ++ rest)).result? 0 = some result ∧
        Forsaken (start.trace (disruption ++ rest)) 0 1 result := by
  intro start rest
  have failing : (start.run disruption).reader = .failing := by decide +kernel
  have leaving : (start.run disruption).reader.isLeaving = true := by rw [failing]; rfl
  have inside : (1, 0) ∈ (start.run disruption).pending := by decide +kernel
  have purpose : (start.run disruption).calls[0]?.map Call.purpose =
      some (.request "textDocument/hover" .null) := by decide +kernel
  obtain ⟨k, found, own⟩ := Option.map_eq_some_iff.1 purpose
  obtain ⟨returns, fate⟩ := (run_silenced ⟨"lean4", "Lean 4", [], none⟩ 5000 disruption).pending leaving 1 0 k
    inside found (by rw [own]; rfl)
  obtain ⟨result, back⟩ := returns (List.replicate 5 (.turn .reader)) (List.replicate 3 (.turn (.call 0)))
    (by rw [failing]; decide) (by decide)
  rw [← run_append, ← run_append] at back
  exact ⟨failing, result, back, fate rest result back⟩

end Connection

end LanguageClient
