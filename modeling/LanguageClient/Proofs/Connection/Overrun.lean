import LanguageClient.Proofs.Connection.Silence
import LanguageClient.Proofs.Frame.Capacity

/-! A server that announces more than there is room for. A length that needs more than 64 bits ends the
reader as every other error does, with the table drained; one that fits into 64 bits, but is beyond the
largest buffer, stops it on the spot, and whatever is pending then is left to wait. -/
namespace LanguageClient

namespace ReaderPhase

/-- The turns that a reader may need until it stops, when it has so many bytes to read and no more come. -/
def lasts (bytes : Nat) (reader : ReaderPhase) : Nat :=
  if reader.serves then 3 * bytes + 6 + reader.due else reader.toGo

private theorem lasts_of_serves {reader : ReaderPhase} (serves : reader.serves = true) (bytes : Nat) :
    reader.lasts bytes = 3 * bytes + 6 + reader.due :=
  if_pos serves

private theorem lasts_of_leaving {reader : ReaderPhase} (leaving : reader.isLeaving = true) (bytes : Nat) :
    reader.lasts bytes = reader.toGo := by
  cases reader <;> first | rfl | contradiction

private theorem not_gone_of_serves {reader : ReaderPhase} (serves : reader.serves = true) :
    reader.isGone = false := by
  cases reader <;> first | rfl | contradiction

private theorem serves_or_leaving {reader : ReaderPhase} (alive : reader ≠ .dead) :
    reader.serves = true ∨ reader.isLeaving = true := by
  cases reader with
  | dead => contradiction
  | reading | replyProbing | replySending => exact .inl rfl
  | _ => exact .inr rfl

end ReaderPhase

namespace Connection

/-- A reader that reads dies of a body that is announced beyond the largest buffer, and of nothing else. -/
theorem dead_turn_iff {c : Connection} (reading : c.reader = .reading) :
    (c.move (.turn .reader)).reader = .dead ↔
      ∃ n behind, Frame.Announces c.inboxEnded c.inbox n behind ∧ Frame.bufferLimit < n := by
  rw [← Frame.nextMessage_unallocatable_iff]
  cases c.reader_step with
  | waited _ next same =>
    rw [same, reading, next]
    simp
  | took message rest _ next _ serves =>
    rw [next]
    refine iff_of_false (fun dead => ?_) (by simp)
    rw [dead] at serves
    contradiction
  | failed _ error failing =>
    rw [failing]
    refine iff_of_false nofun fun ⟨rest, next⟩ => ?_
    rcases error with ⟨e, left, read⟩ | ⟨fault, left, read, other⟩
    · cases read.symm.trans next
    · cases read.symm.trans next
      contradiction
  | died rest _ next dead => exact iff_of_true dead ⟨rest, next⟩
  | replied _ busy => exact absurd reading busy
  | left leaving =>
    rw [reading] at leaving
    contradiction
  | stopped halted =>
    rw [reading] at halted
    rcases halted with now | now <;> contradiction

/-- From any other phase the reader does not die. -/
theorem not_dead_turn {c : Connection} (busy : c.reader ≠ .reading) (alive : c.reader ≠ .dead) :
    (c.move (.turn .reader)).reader ≠ .dead := by
  intro dead
  cases c.reader_step with
  | waited reading | took _ _ reading | failed reading | died _ reading => exact busy reading
  | replied _ _ serves =>
    rw [dead] at serves
    contradiction
  | left _ leaving =>
    rw [dead] at leaving
    contradiction
  | stopped _ same =>
    rw [same] at dead
    exact alive dead

/-- A declared length that needs more than 64 bits is an error of reading. -/
theorem exceeds_turn {c : Connection} (reading : c.reader = .reading) (exceeds : Frame.Exceeds c.inboxEnded c.inbox) :
    (c.move (.turn .reader)).reader = .failing := by
  obtain ⟨rest, next⟩ := Frame.nextMessage_exceeds exceeds
  have moved : c.move (.turn .reader) = c.stepReader?.getD c := rfl
  rw [moved, stepReader?, reading]
  dsimp only
  rw [next]
  rfl

/-- Only its own turns let the reader say that it has ended. -/
theorem move_terminated {c : Connection} {m : Move} (other : m ≠ .turn .reader) :
    (c.move m).terminated = c.terminated := by
  cases m with
  | turn party => exact (turn_apart fun own => other (congrArg Move.turn own)).terminated
  | receive bytes =>
    change (c.receive bytes).terminated = _
    unfold receive
    split <;> rfl
  | begun | endInbox | dropPeer | advance | process => rfl

/-- Whoever says that the reader has ended is the reader on its way to its end. -/
theorem gone_of_terminated_move {c : Connection} (said : c.terminated = true → c.reader.isGone = true) (m : Move) :
    (c.move m).terminated = true → (c.move m).reader.isGone = true := by
  intro terminated
  by_cases reads : m = .turn .reader
  · subst reads
    have serving (serves : c.reader.serves = true)
        (kept : (c.move (.turn .reader)).terminated = c.terminated) : False := by
      rw [kept] at terminated
      have gone := said terminated
      rw [ReaderPhase.not_gone_of_serves serves] at gone
      contradiction
    cases c.reader_step with
    | waited _ _ same | stopped _ same =>
      rw [same] at terminated ⊢
      exact said terminated
    | took _ _ reading _ _ _ _ kept | failed reading _ _ kept | died _ reading _ _ kept =>
      exact (serving (by rw [reading]; rfl) kept).elim
    | replied serves _ _ _ _ kept => exact (serving serves kept).elim
    | left _ _ _ gone kept =>
      rcases kept with kept | now
      · exact gone (said (kept.symm.trans terminated))
      · exact now
  · rw [move_terminated reads] at terminated
    rw [(move_reader reads).1]
    exact said terminated

private theorem gone_of_terminated_run (options : ClientOptions) (grace : Nat) (moves : List Move) :
    ((connect options grace).run moves).terminated = true → ((connect options grace).run moves).reader.isGone = true :=
  run_keeps (fun c => c.terminated = true → c.reader.isGone = true) (fun _ m said => gone_of_terminated_move said m)
    (by nofun) moves

private theorem lasts_turn {c : Connection} (ended : c.inboxEnded = true) :
    (c.move (.turn .reader)).reader.lasts (c.move (.turn .reader)).inbox.length ≤
      c.reader.lasts c.inbox.length - 1 := by
  have whole (reading : c.reader = .reading) : c.reader.lasts c.inbox.length = 3 * c.inbox.length + 6 := by
    rw [reading]
    rfl
  cases c.reader_step with
  | waited _ next =>
    rw [ended] at next
    exact absurd next (Frame.nextMessage_decided _)
  | took message rest reading next inbox serves due =>
    have shorter := Frame.nextMessage_shorter next
    rw [whole reading, ReaderPhase.lasts_of_serves serves, inbox]
    omega
  | failed reading _ failing =>
    rw [whole reading, failing, ReaderPhase.lasts_of_leaving rfl]
    simp only [ReaderPhase.toGo]
    omega
  | died _ _ _ dead =>
    rw [dead]
    exact Nat.zero_le _
  | replied before _ serves due inbox =>
    rw [ReaderPhase.lasts_of_serves serves, ReaderPhase.lasts_of_serves before, inbox]
    omega
  | left before leaving less =>
    rw [ReaderPhase.lasts_of_leaving leaving, ReaderPhase.lasts_of_leaving before]
    omega
  | stopped halted same =>
    rw [same]
    rcases halted with now | now <;> rw [now] <;> exact Nat.zero_le _

/-- When no more bytes come, the reader stops: it comes to its end or it dies. -/
theorem stops_run {c : Connection} (ended : c.inboxEnded = true) (more : List Move)
    (turns : c.reader.lasts c.inbox.length ≤ more.countP Move.isReading) :
    (c.run more).reader = .ended ∨ (c.run more).reader = .dead := by
  induction more generalizing c with
  | nil =>
    have none_left : c.reader.lasts c.inbox.length = 0 := Nat.le_zero.1 turns
    have idle : c.reader.serves = false := by
      by_contra serves
      rw [ReaderPhase.lasts_of_serves (by simpa using serves)] at none_left
      omega
    by_cases dead : c.reader = .dead
    · exact .inr dead
    · have leaving := (ReaderPhase.serves_or_leaving dead).resolve_left (by rw [idle]; nofun)
      rw [ReaderPhase.lasts_of_leaving leaving] at none_left
      exact .inl (leaving_ended leaving [] (Nat.le_of_eq none_left))
  | cons m rest ih =>
    by_cases reads : m = .turn .reader
    · subst reads
      have own : (Move.turn .reader).isReading = true := rfl
      rw [List.countP_cons_of_pos own] at turns
      refine ih (c.reader_turn.2.trans ended) ?_
      have less := lasts_turn ended
      omega
    · have notOwn : ¬ m.isReading = true := fun own => reads (Move.isReading_iff.1 own)
      rw [List.countP_cons_of_neg notOwn] at turns
      obtain ⟨reader, inbox, stays⟩ := move_reader (c := c) reads
      have nothing : c.arrival m = [] := by cases m <;> simp [arrival, ended]
      refine ih (stays ended) ?_
      rw [reader, inbox, nothing, List.append_nil]
      exact turns

private theorem dead_move {c : Connection} (dead : c.reader = .dead) (m : Move) : (c.move m).reader = .dead := by
  by_cases reads : m = .turn .reader
  · subst reads
    have moved : c.move (.turn .reader) = c.stepReader?.getD c := rfl
    rw [moved, stepReader?, dead]
    exact dead
  · rw [(move_reader reads).1]
    exact dead

private theorem dead_run {c : Connection} (dead : c.reader = .dead) (more : List Move) :
    (c.run more).reader = .dead ∧ ∀ r, .handled r ∉ c.trace more := by
  induction more generalizing c with
  | nil => exact ⟨dead, fun _ => List.not_mem_nil⟩
  | cons m rest ih =>
    obtain ⟨later, silent⟩ := ih (dead_move dead m)
    refine ⟨later, fun r inside => ?_⟩
    rcases List.mem_append.1 inside with now | after
    · exact event?_of_unread (by rw [dead]; nofun) m r (Option.mem_toList.1 now)
    · exact silent r after

/-- The reader has died where a body was announced beyond the largest buffer, and only there. -/
theorem dead_run_iff {c : Connection} (alive : c.reader ≠ .dead) (moves : List Move) :
    (c.run moves).reader = .dead ↔ ∃ before after n behind, moves = before ++ .turn .reader :: after ∧
      (c.run before).reader = .reading ∧
        Frame.Announces (c.run before).inboxEnded (c.run before).inbox n behind ∧ Frame.bufferLimit < n := by
  constructor
  · intro dead
    induction moves using List.reverseRecOn with
    | nil => exact absurd dead alive
    | append_singleton moves m ih =>
      by_cases already : (c.run moves).reader = .dead
      · obtain ⟨before, after, n, behind, split, found⟩ := ih already
        exact ⟨before, after ++ [m], n, behind, by simp [split], found⟩
      · rw [run_concat] at dead
        have reads : m = .turn .reader := by
          by_contra other
          rw [(move_reader other).1] at dead
          exact already dead
        subst reads
        have reading : (c.run moves).reader = .reading := by
          by_contra busy
          exact not_dead_turn busy already dead
        obtain ⟨n, behind, announces, huge⟩ := (dead_turn_iff reading).1 dead
        exact ⟨moves, [], n, behind, rfl, reading, announces, huge⟩
  · rintro ⟨before, after, n, behind, rfl, reading, announces, huge⟩
    have split : before ++ .turn .reader :: after = (before ++ [.turn .reader]) ++ after := by simp
    rw [split, run_append, run_concat]
    exact (dead_run ((dead_turn_iff reading).2 ⟨n, behind, announces, huge⟩) after).1

private theorem cancellation_inj {n : Nat} {code code' : Int32} {reason reason' : String}
    (same : cancellation n code reason = cancellation n code' reason') : code = code' ∧ reason = reason' := by
  cases same
  exact ⟨rfl, rfl⟩

/-- How a request comes back that was pending when the reader died: a shutdown drains the table, or it was
never put into the queue. -/
theorem dead_back {t : List Event} {c : Connection} {i n : Nat} {k : Call} {more : List Move} (tracked : Tracked t c)
    (unsent : Unsent t c) (declared : Declared (t ++ c.trace more) (c.run more))
    (live : (c.run more).terminated = false) (dead : c.reader = .dead) (found : c.calls[i]? = some k)
    (asks : k.purpose.asks = true) (inside : (n, i) ∈ c.pending) {result : Except ClientError Json}
    (back : (c.run more).result? i = some result) :
    .drained ErrorCode.requestCancelled "Server shutdown" ∈ c.trace more ∧
        result = .error (.serverError ErrorCode.requestCancelled "Server shutdown") ∨
      (∀ m, .sent i m ∉ t ++ c.trace more) ∧ result = .error .notConnected := by
  have silent := (dead_run dead more).2
  have numbers := (trace_keeps Tracked (fun _ _ m tracked => tracked.move m) tracked more).entered.numbers
  have waits := (Fated.of_pending tracked found asks inside).2
  cases forsaken_back tracked unsent found asks inside silent back with
  | gone reason first =>
    obtain ⟨code, reason', listed, same⟩ := drained_of_silent silent waits numbers first
    obtain ⟨rfl, rfl⟩ := cancellation_inj same
    rcases declared.drained _ _ (List.mem_append_right _ listed) with other | said
    · exact absurd other (by decide)
    · rw [live] at said
      contradiction
  | cancelled first =>
    obtain ⟨code, reason, listed, same⟩ := drained_of_silent silent waits numbers first
    obtain ⟨rfl, rfl⟩ := cancellation_inj same
    exact .inl ⟨listed, rfl⟩
  | refused unsent => exact .inr ⟨unsent, rfl⟩

/-- What the lengths that a server announces make of the reader, after a run from `start` with these
moves. -/
structure Allotted (start : Connection) (moves : List Move) : Prop where
  /-- A length that needs more than 64 bits is an error of reading. -/
  refused : (start.run moves).reader = .reading →
    Frame.Exceeds (start.run moves).inboxEnded (start.run moves).inbox →
      (∃ rest, Frame.nextMessage (start.run moves).inboxEnded (start.run moves).inbox =
          .fault (.badLength .tooLarge) rest) ∧
        (start.run (moves ++ [.turn .reader])).reader = .failing
  /-- The reader dies of a length that fits into 64 bits and is beyond the largest buffer, as soon as the
  header is whole. -/
  dies : (start.run moves).reader = .reading →
    ((start.run (moves ++ [.turn .reader])).reader = .dead ↔
      ∃ n behind, Frame.Announces (start.run moves).inboxEnded (start.run moves).inbox n behind ∧
        Frame.bufferLimit < n ∧ n < UInt64.size)
  /-- It dies in no other way, and stays dead. -/
  died : (start.run moves).reader = .dead ↔ ∃ before after n behind, moves = before ++ .turn .reader :: after ∧
    (start.run before).reader = .reading ∧
      Frame.Announces (start.run before).inboxEnded (start.run before).inbox n behind ∧
        Frame.bufferLimit < n ∧ n < UInt64.size
  /-- Unless it has died, the reader takes in messages, or it is on its way to its end or there. -/
  lives : (start.run moves).reader ≠ .dead →
    (start.run moves).reader.serves = true ∨ (start.run moves).reader.isLeaving = true
  /-- When no more bytes come, it stops in one of the two ways. -/
  stops : (start.run moves).inboxEnded = true → ∀ more,
    (start.run moves).reader.lasts (start.run moves).inbox.length ≤ more.countP Move.isReading →
      (start.run (moves ++ more)).reader = .ended ∨ (start.run (moves ++ more)).reader = .dead
  /-- At its end it has said so, and the queue is closed. -/
  ends : (start.run moves).reader = .ended → (start.run moves).terminated = true ∧ (start.run moves).closed = true
  /-- On the way there it brings back the requests that are pending. -/
  pending : (start.run moves).reader.isLeaving = true → ∀ (n i : Nat) (k : Call),
    (n, i) ∈ (start.run moves).pending → (start.run moves).calls[i]? = some k → k.purpose.asks = true →
      (∀ first more, (start.run moves).reader.toGo ≤ first.countP Move.isReading →
        3 ≤ more.countP (Move.isTurnOf i) →
          ∃ result, (((start.run moves).run first).run more).result? i = some result) ∧
      ∀ more result, (start.run (moves ++ more)).result? i = some result →
        Forsaken (start.trace (moves ++ more)) i n result
  /-- A reader that has died never says that it has ended, and a request that is pending then comes back only
  when a shutdown drains the table, or when it was never put into the queue. -/
  hangs : (start.run moves).reader = .dead → ∀ more,
    (start.run (moves ++ more)).reader = .dead ∧ (start.run (moves ++ more)).terminated = false ∧
      ∀ (n i : Nat) (k : Call) (result : Except ClientError Json), (n, i) ∈ (start.run moves).pending →
        (start.run moves).calls[i]? = some k → k.purpose.asks = true →
          (start.run (moves ++ more)).result? i = some result →
            .drained ErrorCode.requestCancelled "Server shutdown" ∈ (start.run moves).trace more ∧
                result = .error (.serverError ErrorCode.requestCancelled "Server shutdown") ∨
              (∀ m, .sent i m ∉ start.trace (moves ++ more)) ∧ result = .error .notConnected

/-- In every run, the reader ends with the table drained, unless it dies of a length that fits into 64 bits and
is beyond the largest buffer. -/
theorem run_allotted (options : ClientOptions) (grace : Nat) (moves : List Move) :
    Allotted (connect options grace) moves := by
  have tracked := tracked_run options grace moves
  have unsent := unsent_run options grace moves
  exact {
    refused := by
      intro reading exceeds
      rw [run_concat]
      exact ⟨Frame.nextMessage_exceeds exceeds, exceeds_turn reading exceeds⟩
    dies := by
      intro reading
      rw [run_concat, dead_turn_iff reading]
      exact exists₂_congr fun n behind => and_congr_right fun announces => (and_iff_left announces.lt_size).symm
    died := by
      rw [dead_run_iff (by nofun)]
      constructor
      · rintro ⟨before, after, n, behind, split, reading, announces, huge⟩
        exact ⟨before, after, n, behind, split, reading, announces, huge, announces.lt_size⟩
      · rintro ⟨before, after, n, behind, split, reading, announces, huge, -⟩
        exact ⟨before, after, n, behind, split, reading, announces, huge⟩
    lives := ReaderPhase.serves_or_leaving
    stops := by
      intro ended more turns
      rw [run_append]
      exact stops_run ended more turns
    ends := by
      intro ended
      refine ⟨(declared_run options grace moves).gone ?_, (closing_run options grace moves).reader ?_⟩ <;>
        rw [ended] <;> rfl
    pending := by
      intro leaving n i k inside found asks
      refine ⟨forsaken_returns tracked unsent (closing_run options grace moves) leaving found asks inside,
        fun more result back => ?_⟩
      rw [run_append] at back
      rw [trace_append]
      exact forsaken_back tracked unsent found asks inside (leaving_run leaving more).2 back
    hangs := by
      intro dead more
      have still : ((connect options grace).run (moves ++ more)).reader = .dead := by
        rw [run_append]
        exact (dead_run dead more).1
      have live : ((connect options grace).run (moves ++ more)).terminated = false := by
        by_contra said
        have gone := gone_of_terminated_run options grace (moves ++ more) (by simpa using said)
        rw [still] at gone
        contradiction
      refine ⟨still, live, fun n i k result inside found asks back => ?_⟩
      have declared := declared_run options grace (moves ++ more)
      rw [run_append, trace_append] at declared
      rw [run_append] at live back
      rw [trace_append]
      exact dead_back tracked unsent declared live dead found asks inside back }

/-- The moves of a run in which the server announces one byte more than the largest buffer holds, while a
request waits for its answer. -/
def announcement : List Move :=
  .begun (.request "textDocument/hover" .null) :: List.replicate 5 (.turn (.call 0)) ++
    [.receive (Frame.bytesOf (Frame.header (Frame.bufferLimit + 1)))]

/-- The request waits on, whatever follows, unless a shutdown drains the table. -/
theorem run_allotted_announcement :
    let start := connect ⟨"lean4", "Lean 4", [], none⟩ 5000
    let moves := announcement ++ [.turn .reader]
    (start.run moves).reader = .dead ∧ ∀ more, (start.run (moves ++ more)).terminated = false ∧
      ∀ result, (start.run (moves ++ more)).result? 0 = some result →
        .drained ErrorCode.requestCancelled "Server shutdown" ∈ (start.run moves).trace more := by
  intro start moves
  have dead : (start.run moves).reader = .dead := by decide +kernel
  have inside : (1, 0) ∈ (start.run moves).pending := by decide +kernel
  have purpose : (start.run moves).calls[0]?.map Call.purpose =
      some (.request "textDocument/hover" .null) := by decide +kernel
  obtain ⟨k, found, own⟩ := Option.map_eq_some_iff.1 purpose
  have sent : .sent 0 1 ∈ start.trace moves := List.mem_of_getElem? (i := 1) (by rfl)
  refine ⟨dead, fun more => ?_⟩
  obtain ⟨-, live, back⟩ := (run_allotted ⟨"lean4", "Lean 4", [], none⟩ 5000 moves).hangs dead more
  refine ⟨live, fun result returned => ?_⟩
  rcases back 1 0 k result inside found (by rw [own]; rfl) returned with ⟨listed, -⟩ | ⟨unsent, -⟩
  · exact listed
  · refine absurd ?_ (unsent 1)
    rw [trace_append]
    exact List.mem_append_left _ sent

/-- A server can announce more than the largest buffer holds, and then the reader neither goes on nor goes to
its end. -/
theorem announcement_kills :
    (¬ ∀ (options : ClientOptions) (grace : Nat) (moves : List Move) (n : Nat) (behind : Frame.Bytes),
      ((connect options grace).run moves).reader = .reading →
        Frame.Announces ((connect options grace).run moves).inboxEnded ((connect options grace).run moves).inbox
          n behind → n ≤ Frame.bufferLimit) ∧
      ¬ ∀ (options : ClientOptions) (grace : Nat) (moves : List Move),
        ((connect options grace).run moves).reader.serves = true ∨
          ((connect options grace).run moves).reader.isLeaving = true := by
  let start := connect ⟨"lean4", "Lean 4", [], none⟩ 5000
  constructor
  · intro always
    have reading : (start.run announcement).reader = .reading := by decide +kernel
    have inbox : (start.run announcement).inbox = Frame.bytesOf (Frame.header (Frame.bufferLimit + 1)) ++ [] := by
      decide +kernel
    have announces : Frame.Announces (start.run announcement).inboxEnded (start.run announcement).inbox
        (Frame.bufferLimit + 1) [] := by
      rw [inbox]
      exact Frame.announces_header _ (by decide) []
    exact Nat.not_succ_le_self _ (always _ _ announcement _ _ reading announces)
  · intro always
    have dead : (start.run (announcement ++ [.turn .reader])).reader = .dead := by decide +kernel
    have goes := always ⟨"lean4", "Lean 4", [], none⟩ 5000 (announcement ++ [.turn .reader])
    rw [dead] at goes
    exact absurd goes (by decide)

end Connection

end LanguageClient
