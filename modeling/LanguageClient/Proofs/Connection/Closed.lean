import LanguageClient.Proofs.Connection.Flow

/-! Who has closed the queue, and why the writer has ended. The queue is closed by the reader or by a
shutdown, and either goes on to drain the table of pending requests; the writer may also end because
the server does not read, and then nobody drains the table. -/
namespace LanguageClient

def CallPhase.isShutdown : CallPhase → Bool
  | .announcing => true
  | .deciding => true
  | phase => phase.isLeaving

namespace Connection

def Shutdowns (c : Connection) : Prop :=
  ∀ (i : Nat) (k : Call), c.calls[i]? = some k → k.phase.isShutdown = true → k.purpose = .shutdown

private theorem isShutdown_afterResult {purpose : Purpose} {result : Except ClientError Json}
    (shutdown : (afterResult purpose result).isShutdown = true) : purpose = .shutdown := by
  unfold afterResult at shutdown
  repeat' split at shutdown
  all_goals first | rfl | contradiction

private theorem isShutdown_afterTelling {purpose : Purpose} {result : Except ClientError Json}
    (shutdown : (afterTelling purpose result).isShutdown = true) : purpose = .shutdown := by
  unfold afterTelling at shutdown
  split at shutdown
  · rfl
  · contradiction

private theorem Pass.isShutdown {c c' : Connection} {k : Call} {phase : CallPhase} (pass : Pass c c' k phase)
    (shutdown : phase.isShutdown = true) : k.phase.isShutdown = true ∨ k.purpose = .shutdown := by
  cases pass with
  | announced start | spared start | closing _ start | reaped _ _ start => exact .inl (by rw [start]; rfl)
  | closed failure start =>
    rcases start with start | start <;> exact .inl (by rw [start]; rfl)
  | expired n own => exact .inr own
  | rejected | answered => exact .inr (isShutdown_afterResult shutdown)
  | told => exact .inr (isShutdown_afterTelling shutdown)
  | decided | checked | refused | admitted | dropped | telling => contradiction

theorem Shutdowns.change {c c' : Connection} {e : Option Event} (shutdowns : Shutdowns c)
    (change : Change c c' e) : Shutdowns c' := by
  intro i k' found shutdown
  rcases change.advance found with ⟨_, _, purpose, rfl⟩ | ⟨k, earlier, same, advance⟩
  · cases purpose <;> first | rfl | contradiction
  rw [same]
  cases advance with
  | stayed e phase => exact shutdowns i k earlier (phase ▸ shutdown)
  | passed pass => exact (pass.isShutdown shutdown).elim (shutdowns i k earlier) id
  | withdrawn n start phase => exact isShutdown_afterResult (phase ▸ shutdown)
  | drained code reason failure result start => exact shutdowns i k earlier (by rw [start]; rfl)
  | numbered start phase | registered n start phase | sent n start phase =>
    rw [phase] at shutdown
    contradiction

private theorem Pass.shut_stays {c c' : Connection} {k : Call} {phase : CallPhase} (pass : Pass c c' k phase)
    (shut : k.phase.isShut = true) : phase.isShut = true := by
  cases pass with
  | closed | reaped => rfl
  | told method params result start =>
    rcases start with start | start <;> rw [start] at shut <;> contradiction
  | expired n own start =>
    rcases start with start | start | ⟨start, _⟩ <;> rw [start] at shut <;> contradiction
  | announced start | spared start | decided start | rejected start | checked start | refused _ start
  | admitted _ start | dropped _ start | answered _ _ start | telling _ _ start | closing _ start =>
    rw [start] at shut
    contradiction

/-- A shutdown that has closed the queue goes on to its end. -/
theorem Change.shut_stays {c c' : Connection} {e : Option Event} (change : Change c c' e)
    (shutdowns : Shutdowns c) {i : Nat} {k : Call} (found : c.calls[i]? = some k) (shut : k.IsShut) :
    ∃ k', c'.calls[i]? = some k' ∧ k'.IsShut := by
  obtain ⟨k', found', purpose, advance⟩ := change.advances found
  refine ⟨k', found', ?_⟩
  cases advance with
  | stayed e phase =>
    rw [Call.IsShut, phase, purpose]
    exact shut
  | passed pass =>
    rcases shut with shut | ⟨_, result, finished⟩
    · exact .inl (pass.shut_stays shut)
    · exact absurd finished (pass.not_finished result)
  | drained code reason failure result start phase =>
    exact .inr ⟨purpose.trans (shutdowns i k found (by rw [start]; rfl)), result, phase⟩
  | numbered start | registered n start | sent n start | withdrawn n start =>
    rw [Call.IsShut, start] at shut
    rcases shut with shut | ⟨_, _, finished⟩ <;> contradiction

def HasCloser (c : Connection) : Prop :=
  c.reader.isEnding = true ∨ ∃ (i : Nat) (k : Call), c.calls[i]? = some k ∧ k.IsShut

structure Shutting (c : Connection) : Prop where
  shutdowns : Shutdowns c
  closer : c.closed = true → HasCloser c
  entry : ∀ p, c.outbound? p = some .close → c.closed = true
  mark : .close ∈ c.queue → c.closed = true
  writer : c.writer ≠ .ready → c.closed = true ∨ c.peerReads = false

private theorem HasCloser.move {c : Connection} (closer : HasCloser c) (shutdowns : Shutdowns c) (m : Move) :
    HasCloser (c.move m) := by
  rcases closer with ending | ⟨i, k, found, shut⟩
  · exact .inl ((c.move_course m).1.ending ending)
  · obtain ⟨k', found', shut'⟩ := (c.move_change m).1.shut_stays shutdowns found shut
    exact .inr ⟨i, k', found', shut'⟩

/-- Whoever is about to put the closing mark into the queue is closing the connection. -/
theorem HasCloser.of_entry {c : Connection} {p : Party} (entry : c.outbound? p = some .close) : HasCloser c := by
  cases p with
  | reader =>
    left
    cases reader : c.reader with
    | marking => rfl
    | _ =>
      rw [outbound?, reader] at entry
      cases entry
  | call i =>
    right
    cases found : c.calls[i]? with
    | none =>
      rw [outbound?, found] at entry
      contradiction
    | some k =>
      rw [outbound?_call found] at entry
      obtain ⟨purpose, phase, answer, deadline⟩ := k
      refine ⟨i, _, found, .inl ?_⟩
      cases phase with
      | marking => rfl
      | _ => cases entry
  | writer | timer => contradiction

theorem Shutting.connect (options : ClientOptions) (grace : Nat) : Shutting (connect options grace) := by
  constructor
  · intro i k found
    simp [Connection.connect] at found
  · exact fun closed => absurd closed Bool.false_ne_true
  · intro p entry
    cases p <;> contradiction
  · exact fun inside => absurd inside List.not_mem_nil
  · exact fun ended => absurd rfl ended

/-- A step over a queue that is as open or closed as it was. -/
theorem Shutting.step {c c' : Connection} (shutting : Shutting c) (shutdowns : Shutdowns c')
    (closer : HasCloser c → HasCloser c') (closed : c'.closed = c.closed)
    (entries : ∀ p, c'.outbound? p = some .close → c.outbound? p = some .close)
    (mark : .close ∈ c'.queue → .close ∈ c.queue ∨ c.closed = true)
    (writer : c'.writer ≠ .ready → c.writer ≠ .ready ∨ c.closed = true ∨ c.peerReads = false)
    (reads : c.peerReads = false → c'.peerReads = false) : Shutting c' where
  shutdowns := shutdowns
  closer now := closer (shutting.closer (closed.symm.trans now))
  entry p had := closed.trans (shutting.entry p (entries p had))
  mark inside := closed.trans ((mark inside).elim shutting.mark id)
  writer ended := by
    rcases writer ended with before | now | deaf
    · exact (shutting.writer before).imp closed.trans reads
    · exact .inl (closed.trans now)
    · exact .inr (reads deaf)

private theorem Shutting.move {c : Connection} (shutting : Shutting c) (m : Move) : Shutting (c.move m) := by
  have shutdowns := shutting.shutdowns.change (c.move_change m).1
  have step := shutting.step shutdowns fun closer => closer.move shutting.shutdowns m
  have same {p : Party} (entries : ∀ q, q ≠ p → (c.move m).outbound? q = c.outbound? q)
      (own : (c.move m).outbound? p ≠ some .close) (q : Party) (had : (c.move m).outbound? q = some .close) :
      c.outbound? q = some .close := by
    by_cases this : q = p
    · subst this
      exact absurd had own
    · exact entries q this ▸ had
  cases c.move_flow m with
  | still _ _ outlet entries =>
    obtain ⟨queue, wire, writer, closed, reads⟩ := Outlet.mk.inj outlet
    exact step closed (fun p had => entries p ▸ had) (fun inside => .inl (queue ▸ inside))
      (fun ended => .inl (writer ▸ ended)) reads.trans
  | looked p text _ _ outlet own others =>
    obtain ⟨queue, wire, writer, closed, reads⟩ := Outlet.mk.inj outlet
    exact step closed (same others (by rw [own]; nofun)) (fun inside => .inl (queue ▸ inside))
      (fun ended => .inl (writer ▸ ended)) reads.trans
  | shut p _ _ outlet own others =>
    obtain ⟨queue, wire, writer, closed, reads⟩ := Outlet.mk.inj outlet
    exact ⟨shutdowns, fun _ => .of_entry own, fun _ _ => closed, fun _ => closed, fun _ => .inl closed⟩
  | put p entry had outlet own others =>
    by_cases ended : c.writer = .ended
    · rw [Outlet.put_of_ended (o := c.outlet) ended] at outlet
      obtain ⟨queue, wire, writer, closed, reads⟩ := Outlet.mk.inj outlet
      exact step closed (same others (by rw [own]; nofun)) (fun inside => .inl (queue ▸ inside))
        (fun ended => .inl (writer ▸ ended)) reads.trans
    · rw [Outlet.put_of_going (o := c.outlet) ended] at outlet
      obtain ⟨queue, wire, writer, closed, reads⟩ := Outlet.mk.inj outlet
      refine step closed (same others (by rw [own]; nofun)) (fun inside => ?_)
        (fun ended => .inl (fun ready => ended (writer.trans ready))) reads.trans
      rw [queue] at inside
      rcases List.mem_append.1 inside with before | new
      · exact .inl before
      · cases List.mem_singleton.1 new
        exact .inr (shutting.entry p had)
  | wrote text rest ready _ full outlet entries =>
    obtain ⟨queue, wire, writer, closed, reads⟩ := Outlet.mk.inj outlet
    refine step closed (fun p had => entries p ▸ had) (fun inside => .inl ?_)
      (fun ended => absurd (writer.trans ready) ended) reads.trans
    rw [full]
    exact List.mem_cons_of_mem _ (queue ▸ inside)
  | failed text rest ready deaf full outlet entries =>
    obtain ⟨queue, wire, writer, closed, reads⟩ := Outlet.mk.inj outlet
    refine step closed (fun p had => entries p ▸ had) (fun inside => .inl ?_)
      (fun _ => .inr (.inr deaf)) reads.trans
    rw [full]
    exact List.mem_cons_of_mem _ (queue ▸ inside)
  | took rest ready full outlet entries =>
    obtain ⟨queue, wire, writer, closed, reads⟩ := Outlet.mk.inj outlet
    -- The mark has been put into the queue by somebody who had closed it.
    have now : c.closed = true := shutting.mark (by rw [full]; exact List.mem_cons_self)
    exact step closed (fun p had => entries p ▸ had) (fun _ => .inr now) (fun _ => .inr (.inl now)) reads.trans
  | stopped finishing outlet entries =>
    obtain ⟨queue, wire, writer, closed, reads⟩ := Outlet.mk.inj outlet
    exact step closed (fun p had => entries p ▸ had) (fun inside => by rw [queue] at inside; contradiction)
      (fun _ => .inl (by rw [finishing]; nofun)) reads.trans
  | dropped outlet entries =>
    obtain ⟨queue, wire, writer, closed, reads⟩ := Outlet.mk.inj outlet
    exact step closed (fun p had => entries p ▸ had) (fun inside => .inl (queue ▸ inside))
      (fun ended => .inl (writer ▸ ended)) fun _ => reads

theorem shutting_run (options : ClientOptions) (grace : Nat) (moves : List Move) :
    Shutting ((connect options grace).run moves) :=
  run_keeps Shutting (fun _ m shutting => shutting.move m) (.connect options grace) moves

/-- No task can move. -/
structure AtRest (c : Connection) : Prop where
  reader : c.step? .reader = none
  writer : c.step? .writer = none
  call : ∀ i, c.step? (.call i) = none

/-- Over a pair of streams there is no process. -/
theorem absent_run (options : ClientOptions) (grace : Nat) {moves : List Move}
    (streams : ∀ m ∈ moves, ∀ state, m ≠ .process state) :
    ((connect options grace).run moves).process = .absent := by
  induction moves using List.reverseRecOn with
  | nil => rfl
  | append_singleton moves m ih =>
    rw [run_concat]
    have before := ih fun m' inside => streams m' (List.mem_append_left _ inside)
    exact (move_course _ m).2 (streams m (by simp)) before

/-- At rest the closing has come to its end. -/
theorem HasCloser.ended {c : Connection} (closer : HasCloser c) (rest : AtRest c)
    (absent : c.process = .absent) : Ended c := by
  rcases closer with ending | ⟨i, k, found, closing | ⟨own, result, finished⟩⟩
  · left
    have stuck : c.stepReader? = none := rest.reader
    unfold stepReader? at stuck
    cases reader : c.reader with
    | ended => rfl
    | marking | cancelling =>
      rw [reader] at stuck
      contradiction
    | _ =>
      rw [reader] at ending
      contradiction
  · have stuck : c.stepCall? i = none := rest.call i
    unfold stepCall? at stuck
    obtain ⟨purpose, phase, answer, deadline⟩ := k
    rw [found] at stuck
    cases phase with
    | marking | cancelling => contradiction
    | reaping failure =>
      dsimp only [Option.bind_eq_bind, Option.bind_some] at stuck
      rw [absent] at stuck
      contradiction
    | _ => contradiction
  · exact .inr ⟨i, k, result, found, own, finished⟩

private theorem Over.not_waiting {c : Connection} (gone : Over c) (rest : AtRest c) {i n : Nat} {k : Call}
    (found : c.calls[i]? = some k) : k.phase ≠ .waiting n := by
  intro phase
  obtain ⟨r, given⟩ := gone.answered found phase
  have stuck : c.stepCall? i = none := rest.call i
  obtain ⟨purpose, _, _, deadline⟩ := k
  cases phase
  cases given
  rw [stepCall?, found] at stuck
  contradiction

/-- A request that nobody will answer: it has been put into the queue of a writer that has ended, the
queue is open, and nobody is about to drain the table. -/
structure Stranded (c : Connection) (i n : Nat) (k : Call) : Prop where
  isOpen : c.closed = false
  deaf : c.peerReads = false
  unanswered : k.answer = none
  pending : (n, i) ∈ c.pending
  noCloser : ¬ HasCloser c

private theorem AtRest.unanswered {c : Connection} (rest : AtRest c) {i n : Nat} {k : Call}
    (found : c.calls[i]? = some k) (phase : k.phase = .waiting n) : k.answer = none := by
  have stuck : c.stepCall? i = none := rest.call i
  obtain ⟨purpose, _, answer, deadline⟩ := k
  cases phase
  rw [stepCall?, found] at stuck
  cases answer with
  | none => rfl
  | some r => contradiction

/-- When all is at rest and the writer has ended, no call waits if the queue was closed. A call that
waits has been stranded by a failed write. -/
theorem writer_ended_waiting (options : ClientOptions) (grace : Nat) (moves : List Move)
    (streams : ∀ m ∈ moves, ∀ state, m ≠ .process state)
    (rest : AtRest ((connect options grace).run moves))
    (ended : ((connect options grace).run moves).writer = .ended) :
    let c := (connect options grace).run moves
    (c.closed = true ∨ c.peerReads = false) ∧
    (c.closed = true → ∀ (i : Nat) (k : Call) (n : Nat), c.calls[i]? = some k → k.phase ≠ .waiting n) ∧
    ∀ (i : Nat) (k : Call) (n : Nat), c.calls[i]? = some k → k.phase = .waiting n → Stranded c i n k := by
  have consistent := (tracked_run options grace moves).consistent
  have closing := closing_run options grace moves
  have shutting := shutting_run options grace moves
  have absent := absent_run options grace streams
  generalize (connect options grace).run moves = c at *
  have why : c.closed = true ∨ c.peerReads = false := shutting.writer (by rw [ended]; nofun)
  have settled (closer : HasCloser c) (i : Nat) (k : Call) (n : Nat) (found : c.calls[i]? = some k) :
      k.phase ≠ .waiting n :=
    Over.not_waiting ⟨consistent, closing, closer.ended rest absent⟩ rest found
  refine ⟨why, fun closed => settled (shutting.closer closed), fun i k n found phase => ?_⟩
  -- A closer that is at rest has come to its end, and has drained the table before.
  have noCloser : ¬ HasCloser c := fun closer => settled closer i k n found phase
  have isOpen : c.closed = false := by
    cases closed : c.closed with
    | false => rfl
    | true => exact absurd (shutting.closer closed) noCloser
  have unanswered := rest.unanswered found phase
  exact {
    isOpen := isOpen
    deaf := why.resolve_left (by rw [isOpen]; nofun)
    unanswered := unanswered
    pending := consistent.kept i k n found (by rw [phase]; rfl) unanswered
    noCloser := noCloser }

def deafness : List Move :=
  [.begun (.request "textDocument/hover" .null), .turn (.call 0), .turn (.call 0), .turn (.call 0),
    .turn (.call 0), .turn (.call 0), .dropPeer, .turn .writer, .turn .writer]

def deafened : Connection := (connect ⟨"lean4", "Lean 4", [], none⟩ 5000).run deafness

private theorem atRest_deafened : AtRest deafened where
  reader := by decide
  writer := by rfl
  call i := by
    cases i with
    | zero => rfl
    | succ i => rfl

theorem writer_ended_waiting_deafened : AtRest deafened ∧ deafened.writer = .ended ∧
    ∃ k, deafened.calls[0]? = some k ∧ Stranded deafened 0 1 k := by
  have found : deafened.calls[0]? = some ⟨.request "textDocument/hover" .null, .waiting 1, none, 0⟩ := by rfl
  have streams : ∀ m ∈ deafness, ∀ state, m ≠ .process state := by simp [deafness]
  have all := writer_ended_waiting ⟨"lean4", "Lean 4", [], none⟩ 5000 deafness streams atRest_deafened (by rfl)
  exact ⟨atRest_deafened, rfl, _, found, all.2.2 0 _ 1 found rfl⟩

/-- The server's stream is still open, and not even a timer is left to free the call. -/
theorem deafened_strands : ¬ ∀ (options : ClientOptions) (grace : Nat) (moves : List Move),
    (∀ m ∈ moves, ∀ state, m ≠ .process state) → (∀ p, ((connect options grace).run moves).step? p = none) →
    ((connect options grace).run moves).writer = .ended →
    ∀ (i : Nat) (k : Call) (n : Nat), ((connect options grace).run moves).calls[i]? = some k →
      k.phase ≠ .waiting n := by
  intro always
  have found : deafened.calls[0]? = some ⟨.request "textDocument/hover" .null, .waiting 1, none, 0⟩ := by rfl
  have still : ∀ p, deafened.step? p = none := by
    intro p
    cases p with
    | reader => exact atRest_deafened.reader
    | writer => exact atRest_deafened.writer
    | call i => exact atRest_deafened.call i
    | timer i => cases i <;> rfl
  exact always _ _ deafness (by simp [deafness]) still rfl 0 _ 1 found rfl

end Connection

end LanguageClient
