import LanguageClient.Proofs.Connection.Correlation

/-! No request waits for ever. A request comes to the table before it looks whether the queue is
closed, and both endings close the queue before they drain the table; so once one of them has
finished, whoever has put a request into the queue has an answer, and whoever comes later is
refused and takes back its own entry. -/
namespace LanguageClient

namespace CallPhase

/-- The queue is open, as far as the call knows, and its request is about to be or was put into it. -/
def isCommitted : CallPhase → Bool
  | .sending _ => true
  | .waiting _ => true
  | _ => false

def isUpcoming : CallPhase → Bool
  | .checking => true
  | .numbering => true
  | .registering _ => true
  | .probing _ => true
  | .sending _ => true
  | _ => false

def isShut : CallPhase → Bool
  | .marking _ => true
  | .reaping _ => true
  | .cancelling _ => true
  | _ => false

def rank : CallPhase → Nat
  | .announcing => 8
  | .deciding => 7
  | .checking => 6
  | .numbering => 5
  | .registering _ => 4
  | .probing _ => 3
  | .sending _ => 2
  | .withdrawing _ => 1
  | .waiting _ => 1
  | _ => 0

end CallPhase

def Call.IsShut (k : Call) : Prop :=
  k.phase.isShut = true ∨ k.purpose = .shutdown ∧ ∃ result, k.phase = .finished result

def Move.isTurnOf (call : Nat) : Move → Bool
  | .turn (.call number) => number = call
  | _ => false

namespace Connection

/-- One of the two endings has finished: that of the reader, or that of a shutdown. -/
def Ended (c : Connection) : Prop :=
  c.reader = .ended ∨ ∃ (i : Nat) (k : Call) (result : Except ClientError Json),
    c.calls[i]? = some k ∧ k.purpose = .shutdown ∧ k.phase = .finished result

structure Closing (c : Connection) : Prop where
  reader : c.reader.isEnding = true → c.closed = true
  shut : ∀ (i : Nat) (k : Call), c.calls[i]? = some k → k.IsShut → c.closed = true
  settled : Ended c → ∀ (n i : Nat) (k : Call), (n, i) ∈ c.pending → c.calls[i]? = some k →
    k.phase.isCommitted = false

@[simp] theorem rank_afterResult (purpose : Purpose) (result : Except ClientError Json) :
    (afterResult purpose result).rank = 0 := by
  unfold afterResult
  repeat (split <;> try rfl)

@[simp] theorem isShut_afterResult (purpose : Purpose) (result : Except ClientError Json) :
    (afterResult purpose result).isShut = false := by
  unfold afterResult
  repeat (split <;> try rfl)

@[simp] theorem rank_afterTelling (purpose : Purpose) (result : Except ClientError Json) :
    (afterTelling purpose result).rank = 0 := by
  unfold afterTelling
  split <;> rfl

@[simp] theorem isShut_afterTelling (purpose : Purpose) (result : Except ClientError Json) :
    (afterTelling purpose result).isShut = false := by
  unfold afterTelling
  split <;> rfl

private theorem isCommitted_of_held? {phase : CallPhase} (free : phase.held? = none) :
    phase.isCommitted = false := by
  cases phase <;> first | rfl | contradiction

private theorem afterResult_shutdown (result result' : Except ClientError Json) :
    afterResult .shutdown result ≠ .finished result' := by
  cases result <;> nofun

private theorem Pass.rank {c c' : Connection} {k : Call} {phase : CallPhase} (pass : Pass c c' k phase) :
    phase.rank < k.phase.rank ∨ phase.rank = 0 := by
  cases pass with
  | announced start | decided start | checked start | refused _ start | admitted _ start
  | dropped _ start =>
    simp [start, CallPhase.rank]
  | spared | telling | closing | closed | reaped | expired => exact .inr rfl
  | rejected | answered => exact .inr (rank_afterResult _ _)
  | told => exact .inr (rank_afterTelling _ _)

private theorem Pass.shut {c c' : Connection} {k : Call} {phase : CallPhase} (pass : Pass c c' k phase)
    (shut : phase.isShut = true) : c'.closed = true ∨ c.closed = true ∨ k.phase.isShut = true := by
  cases pass with
  | closing failure start closed => exact .inl closed
  | closed failure start closed =>
    rcases start with start | start
    · exact .inr (.inl (closed start))
    · exact .inr (.inr (by rw [start]; rfl))
  | reaped failure later start => exact .inr (.inr (by rw [start]; rfl))
  | rejected | answered | told => simp at shut
  | _ => contradiction

/-- Over a closed queue no call goes on to send its request. -/
theorem Pass.committed {c c' : Connection} {k : Call} {phase : CallPhase} (pass : Pass c c' k phase)
    (closed : c.closed = true) : phase.isCommitted = false := by
  cases pass with
  | admitted n start isOpen =>
    rw [closed] at isOpen
    contradiction
  | rejected | answered => exact isCommitted_of_held? (held?_of_number? (number?_afterResult _ _))
  | told => exact isCommitted_of_held? (held?_of_number? (number?_afterTelling _ _))
  | _ => rfl

private theorem Pass.shutdown {c c' : Connection} {k : Call} {phase : CallPhase} (pass : Pass c c' k phase)
    (own : k.purpose = .shutdown) (result : Except ClientError Json) : phase ≠ .finished result := by
  cases pass with
  | rejected | answered => rw [own]; exact afterResult_shutdown _ _
  | told => rw [own]; nofun
  | _ => nofun

/-- What becomes of a call in one move: it keeps its purpose, and where it goes on it comes nearer to
the end of its request. -/
theorem Change.goes {c c' : Connection} {e : Option Event} (change : Change c c' e) {i : Nat} {k : Call}
    (found : c.calls[i]? = some k) : ∃ k', c'.calls[i]? = some k' ∧ k'.purpose = k.purpose ∧
      (k'.phase = k.phase ∨ (k'.phase.rank < k.phase.rank ∨ k'.phase.rank = 0) ∧
        ∀ result, k.phase ≠ .finished result) := by
  obtain ⟨k', found', purpose, advance⟩ := change.advances found
  refine ⟨k', found', purpose, ?_⟩
  cases advance with
  | stayed e phase => exact .inl phase
  | passed pass => exact .inr ⟨pass.rank, pass.not_finished⟩
  | numbered start phase | registered n start phase | sent n start phase =>
    exact .inr ⟨.inl (by simp [start, phase, CallPhase.rank]), by simp [start]⟩
  | withdrawn n start phase => exact .inr ⟨.inr (by rw [phase, rank_afterResult]), by simp [start]⟩
  | drained code reason failure result start phase =>
    exact .inr ⟨.inr (by rw [phase]; rfl), by simp [start]⟩

/-- A shutdown that has closed the queue has just done so, or found it closed, or had done so before. -/
theorem Change.shut {c c' : Connection} {e : Option Event} (change : Change c c' e) {j : Nat} {l' : Call}
    (found : c'.calls[j]? = some l') (shut : l'.IsShut) :
    c'.closed = true ∨ c.closed = true ∨ ∃ l, c.calls[j]? = some l ∧ l.IsShut := by
  rcases change.advance found with ⟨_, _, purpose, rfl⟩ | ⟨l, earlier, same, advance⟩
  · rcases shut with shut | ⟨own, result, finished⟩ <;> cases purpose <;> contradiction
  cases advance with
  | stayed e phase =>
    refine .inr (.inr ⟨l, earlier, ?_⟩)
    rw [Call.IsShut, ← phase, ← same]
    exact shut
  | passed pass =>
    rcases shut with shut | ⟨own, result, finished⟩
    · rcases pass.shut shut with now | before | already
      · exact .inl now
      · exact .inr (.inl before)
      · exact .inr (.inr ⟨l, earlier, .inl already⟩)
    · exact absurd finished (pass.shutdown (same.symm.trans own) result)
  | drained code reason failure result start => exact .inr (.inr ⟨l, earlier, .inl (by rw [start]; rfl)⟩)
  | withdrawn n start phase =>
    rcases shut with shut | ⟨own, result, finished⟩
    · simp [phase] at shut
    · rw [phase, same.symm.trans own] at finished
      exact absurd finished (afterResult_shutdown _ _)
  | numbered start phase | registered n start phase | sent n start phase =>
    rw [Call.IsShut, phase] at shut
    rcases shut with shut | ⟨_, _, finished⟩ <;> contradiction

private theorem Ended.keep {c c' : Connection} {e : Option Event} (ended : Ended c) (change : Change c c' e)
    (onward : Onward c c') : Ended c' := by
  rcases ended with gone | ⟨i, k, result, found, own, finished⟩
  · exact .inl (onward.gone gone)
  · obtain ⟨k', found', purpose, same | ⟨_, going⟩⟩ := change.goes found
    · exact .inr ⟨i, k', result, found', purpose.trans own, same.trans finished⟩
    · exact absurd finished (going result)

/-- An ending that has just finished has left nothing pending. -/
theorem Ended.fresh {c c' : Connection} {e : Option Event} (ended : Ended c') (change : Change c c' e)
    (onward : Onward c c') : Ended c ∨ c'.pending = [] := by
  rcases ended with gone | ⟨i, k', result, found, own, finished⟩
  · exact (onward.ended gone).imp .inl id
  · rcases change.advance found with ⟨_, _, purpose, rfl⟩ | ⟨k, earlier, same, advance⟩
    · cases purpose <;> contradiction
    cases advance with
    | stayed e phase =>
      exact .inl (.inr ⟨i, k, result, earlier, same.symm.trans own, phase.symm.trans finished⟩)
    | passed pass => exact absurd finished (pass.shutdown (same.symm.trans own) result)
    | withdrawn n start phase =>
      rw [phase, same.symm.trans own] at finished
      exact absurd finished (afterResult_shutdown _ _)
    | drained =>
      cases change with
      | drained code reason nextId pending => exact .inr pending
    | numbered start phase | registered n start phase | sent n start phase =>
      rw [phase] at finished
      contradiction

namespace Closing

private theorem closed {c : Connection} (closing : Closing c) (ended : Ended c) : c.closed = true := by
  rcases ended with gone | ⟨i, k, result, found, own, finished⟩
  · exact closing.reader (by rw [gone]; rfl)
  · exact closing.shut i k found (.inr ⟨own, result, finished⟩)

/-- After an ending no pending request is sent, and what comes to the table anew is refused. -/
theorem settle {c c' : Connection} {e : Option Event} (closing : Closing c) (ended : Ended c)
    (change : Change c c' e) (n i : Nat) (k' : Call) (inside : (n, i) ∈ c'.pending)
    (found' : c'.calls[i]? = some k') : k'.phase.isCommitted = false := by
  have kept : ∀ {j : Nat} {k l : Call}, c.calls[j]? = some k → c'.calls = c.calls.set j l →
      l.phase.isCommitted = false → (n, i) ∈ c.pending → k'.phase.isCommitted = false := by
    intro j k l _ calls free before
    rw [calls] at found'
    rcases getElem?_set_cases found' with ⟨rfl, rfl⟩ | ⟨_, earlier⟩
    · exact free
    · exact closing.settled ended n i k' before earlier
  cases change with
  | idle nextId pending calls => exact closing.settled ended n i k' (pending ▸ inside) (calls ▸ found')
  | begun purpose nextId pending calls =>
    rw [calls] at found'
    rcases getElem?_concat_cases found' with earlier | rfl
    · exact closing.settled ended n i k' (pending ▸ inside) earlier
    · exact isCommitted_of_held? (held?_of_number? (callOf_unnumbered purpose))
  | passed j k phase deadline present pass nextId pending calls =>
    exact kept present calls (pass.committed (closing.closed ended)) (pending ▸ inside)
  | numbered j k present phase nextId pending calls => exact kept present calls rfl (pending ▸ inside)
  | registered j k m present phase nextId pending calls =>
    rw [pending] at inside
    rcases List.mem_append.1 inside with old | new
    · exact kept present calls rfl old
    · cases List.mem_singleton.1 new
      rw [calls, List.getElem?_set_self (List.getElem?_eq_some_iff.1 present).1] at found'
      cases found'
      rfl
  | sent j k m present phase nextId pending calls =>
    rw [pending] at inside
    -- A call that is about to send has no entry any more, so the entry belongs to somebody else.
    by_cases same : j = i
    · subst same
      have committed := closing.settled ended n j k inside present
      rw [phase] at committed
      contradiction
    · rw [calls, List.getElem?_set_ne same] at found'
      exact closing.settled ended n i k' inside found'
  | withdrawn j k m present phase nextId pending calls =>
    rw [pending, mem_filter_number] at inside
    exact kept present calls (isCommitted_of_held? (held?_of_number? (number?_afterResult _ _))) inside.1
  | matched r m j number entry nextId pending calls =>
    rw [pending, mem_filter_number] at inside
    rw [calls, List.getElem?_modify] at found'
    obtain ⟨l, earlier, rfl⟩ := Option.map_eq_some_iff.1 found'
    have before := closing.settled ended n i l inside.1 earlier
    split <;> exact before
  | unmatched r stray nextId pending calls =>
    exact closing.settled ended n i k' (pending ▸ inside) (calls ▸ found')
  | drained code reason nextId pending length calls => simp [pending] at inside

theorem change {c c' : Connection} {e : Option Event} (closing : Closing c) (change : Change c c' e)
    (onward : Onward c c') : Closing c' where
  reader ending := by
    rcases onward.ending ending with before | now
    · exact onward.closed (closing.reader before)
    · exact now
  shut i k' found shut := by
    rcases change.shut found shut with now | before | ⟨k, earlier, gone⟩
    · exact now
    · exact onward.closed before
    · exact onward.closed (closing.shut i k earlier gone)
  settled ended n i k' inside found := by
    rcases ended.fresh change onward with before | empty
    · exact closing.settle before change n i k' inside found
    · simp [empty] at inside

theorem connect (options : ClientOptions) (grace : Nat) : Closing (connect options grace) where
  reader := nofun
  shut i k found := by simp [Connection.connect] at found
  settled _ n i k inside := by simp [Connection.connect] at inside

end Closing

theorem closing_run (options : ClientOptions) (grace : Nat) (moves : List Move) :
    Closing ((connect options grace).run moves) := by
  refine run_keeps Closing (fun c m closing => ?_) (.connect options grace) moves
  obtain ⟨change, onward⟩ := c.move_change m
  exact closing.change change onward

theorem move_call (c : Connection) (i : Nat) :
    c.move (.turn (.call i)) = (c.stepCall? i).getD c := rfl

theorem setPhase_getElem? {c : Connection} {i : Nat} {k : Call} (found : c.calls[i]? = some k)
    (phase : CallPhase) : (c.setPhase i phase).calls[i]? = some { k with phase := phase } := by
  simp [setPhase, found]

private theorem afterRequest_getElem? {c : Connection} {i : Nat} {k : Call} (found : c.calls[i]? = some k)
    (purpose : Purpose) (result : Except ClientError Json) :
    (c.afterRequest i purpose result).calls[i]? = some { k with phase := afterResult purpose result } := by
  obtain ⟨log, welcome, after⟩ := c.afterRequest_eq i purpose result
  rw [after]
  exact setPhase_getElem? (c := { c with log := log, welcome := welcome }) found _

theorem waiting_turn {c : Connection} {i n : Nat} {k : Call} {r : Response}
    (found : c.calls[i]? = some k) (phase : k.phase = .waiting n) (answer : k.answer = some r) :
    (c.move (.turn (.call i))).calls[i]? =
      some { k with phase := afterResult k.purpose (resultOf r) } := by
  obtain ⟨purpose, _, _, deadline⟩ := k
  cases phase
  cases answer
  rw [move_call]
  unfold stepCall?
  rw [found]
  exact afterRequest_getElem? found _ _

theorem withdrawing_turn {c : Connection} {i n : Nat} {k : Call} (found : c.calls[i]? = some k)
    (phase : k.phase = .withdrawing n) :
    (c.move (.turn (.call i))).pending = c.pending.filter (fun entry => entry.1 ≠ n) ∧
      (c.move (.turn (.call i))).calls[i]? =
        some { k with phase := afterResult k.purpose (.error .notConnected) } := by
  obtain ⟨purpose, _, answer, deadline⟩ := k
  cases phase
  rw [move_call]
  unfold stepCall?
  rw [found]
  constructor
  · obtain ⟨log, welcome, after⟩ := afterRequest_eq
      { c with pending := c.pending.filter fun entry => entry.1 ≠ n } i purpose (.error .notConnected)
    dsimp only [Option.bind_eq_bind, Option.bind_some, Option.getD_some]
    rw [after]
    rfl
  · exact afterRequest_getElem? (c := { c with pending := c.pending.filter fun entry => entry.1 ≠ n })
      found _ _

/-- A turn of its own brings a call nearer to the end of its request. -/
theorem own_turn {c : Connection} {i : Nat} {k : Call} (found : c.calls[i]? = some k)
    (busy : 0 < k.phase.rank) (answered : ∀ n, k.phase = .waiting n → ∃ r, k.answer = some r) :
    ∃ k', (c.move (.turn (.call i))).calls[i]? = some k' ∧ k'.phase.rank < k.phase.rank := by
  obtain ⟨purpose, phase, answer, deadline⟩ := k
  cases phase with
  | withdrawing n =>
    exact ⟨_, (withdrawing_turn found rfl).2, by rw [rank_afterResult]; exact busy⟩
  | waiting n =>
    obtain ⟨r, given⟩ := answered n rfl
    exact ⟨_, waiting_turn found rfl given, by rw [rank_afterResult]; exact busy⟩
  | announcing =>
    rw [move_call, stepCall?, found]
    exact ⟨_, setPhase_getElem? (c := { c with shuttingDown := true }) found _, Nat.lt_succ_self _⟩
  | deciding =>
    rw [move_call, stepCall?, found]
    dsimp only [Option.bind_eq_bind, Option.bind_some]
    split
    · exact ⟨_, setPhase_getElem? found _, busy⟩
    · let timed := { c with calls := c.calls.modify i fun k => { k with deadline := c.clock + c.grace } }
      have later : timed.calls[i]? = some ⟨purpose, .deciding, answer, c.clock + c.grace⟩ := by
        simp [timed, found]
      exact ⟨_, setPhase_getElem? later _, Nat.lt_succ_self _⟩
  | checking =>
    rw [move_call, stepCall?, found]
    dsimp only [Option.bind_eq_bind, Option.bind_some]
    split
    · exact ⟨_, afterRequest_getElem? found _ _, by rw [rank_afterResult]; exact busy⟩
    · exact ⟨_, setPhase_getElem? found _, Nat.lt_succ_self _⟩
  | numbering =>
    rw [move_call, stepCall?, found]
    exact ⟨_, setPhase_getElem? (c := { c with nextId := c.nextId + 1 }) found _, Nat.lt_succ_self _⟩
  | registering n =>
    rw [move_call, stepCall?, found]
    exact ⟨_, setPhase_getElem? (c := { c with pending := c.pending ++ [(n, i)] }) found _,
      Nat.lt_succ_self _⟩
  | probing n =>
    rw [move_call, stepCall?, found]
    dsimp only [Option.bind_eq_bind, Option.bind_some]
    split
    · exact ⟨_, setPhase_getElem? found _, by simp [CallPhase.rank]⟩
    · exact ⟨_, setPhase_getElem? found _, Nat.lt_succ_self _⟩
  | sending n =>
    rw [move_call, stepCall?, found]
    dsimp only [Option.bind_eq_bind, Option.bind_some, enqueue?]
    by_cases ended : c.writer = .ended
    · simp only [if_pos ended]
      exact ⟨_, setPhase_getElem? found _, Nat.lt_succ_self _⟩
    · simp only [if_neg ended]
      exact ⟨_, setPhase_getElem? (c := { c with queue := _ }) found _, Nat.lt_succ_self _⟩
  | _ => contradiction

structure Over (c : Connection) : Prop where
  consistent : Consistent c
  closing : Closing c
  ended : Ended c

namespace Over

variable {c : Connection}

theorem move (gone : Over c) (m : Move) : Over (c.move m) := by
  obtain ⟨change, onward⟩ := c.move_change m
  exact ⟨gone.consistent.change change, gone.closing.change change onward,
    gone.ended.keep change onward⟩

/-- A call that waits has been answered: if it were not, its request would still be pending. -/
theorem answered (gone : Over c) {i n : Nat} {k : Call} (found : c.calls[i]? = some k)
    (phase : k.phase = .waiting n) : ∃ r, k.answer = some r := by
  cases answer : k.answer with
  | some r => exact ⟨r, rfl⟩
  | none =>
    have inside := gone.consistent.kept i k n found (by rw [phase]; rfl) answer
    have free := gone.closing.settled gone.ended n i k inside found
    rw [phase] at free
    contradiction

/-- With enough turns of its own every call comes to the end of its request, whatever else happens
in between. -/
theorem through (gone : Over c) {i : Nat} {k : Call} (found : c.calls[i]? = some k) (more : List Move)
    (turns : k.phase.rank ≤ more.countP (Move.isTurnOf i)) :
    ∃ k', (c.run more).calls[i]? = some k' ∧ k'.purpose = k.purpose ∧ k'.phase.rank = 0 := by
  induction more generalizing c k with
  | nil => exact ⟨k, found, rfl, Nat.le_zero.1 turns⟩
  | cons m rest ih =>
    obtain ⟨k₁, found₁, purpose₁, nearer⟩ := (c.move_change m).1.goes found
    -- A turn of its own takes the call on by one; other moves do not set it back.
    have left : k₁.phase.rank ≤ rest.countP (Move.isTurnOf i) := by
      by_cases own : Move.isTurnOf i m = true
      · have isOwn : m = .turn (.call i) := by
          unfold Move.isTurnOf at own
          split at own
          · rw [of_decide_eq_true own]
          · contradiction
        rw [List.countP_cons_of_pos own] at turns
        by_cases busy : 0 < k.phase.rank
        · obtain ⟨k₂, found₂, less⟩ := own_turn found busy fun n phase => gone.answered found phase
          rw [← isOwn] at found₂
          cases found₁.symm.trans found₂
          omega
        · rcases nearer with same | ⟨less | zero, _⟩
          · rw [same]
            omega
          · omega
          · omega
      · rw [List.countP_cons_of_neg own] at turns
        rcases nearer with same | ⟨less | zero, _⟩
        · rw [same]
          exact turns
        · omega
        · omega
    obtain ⟨k', found', purpose, rank⟩ := ih (gone.move m) found₁ left
    exact ⟨k', found', purpose.trans purpose₁, rank⟩

end Over

/-- How requests come out once an ending has finished, after a run with the trace `t` that has led
to `c`. -/
structure Concluded (t : List Event) (c : Connection) : Prop where
  /-- A request that has come to the queue has been answered or drained, or was refused, or its call
  has come back. -/
  request : ∀ (i : Nat) (k : Call) (method : String) (params : Json), c.calls[i]? = some k →
    k.purpose = .request method params → k.phase.isUpcoming = true ∨
      (∃ n r, k.phase = .waiting n ∧ k.answer = some r ∧ FirstAnswer t i n (some r)) ∨
      (∃ n, k.phase = .withdrawing n) ∨
      ∃ result, k.phase = .finished result ∧ Returned t i result
  /-- The answer is what its call comes back with. -/
  answered : ∀ (i : Nat) (k : Call) (n : Nat), c.calls[i]? = some k → k.phase = .waiting n →
    ∃ r, FirstAnswer t i n (some r) ∧ (c.move (.turn (.call i))).calls[i]? =
      some { k with phase := afterResult k.purpose (resultOf r) }
  /-- A call that was refused takes back its entry and comes back with an error. -/
  refused : ∀ (i : Nat) (k : Call) (n : Nat), c.calls[i]? = some k → k.phase = .withdrawing n →
    (c.move (.turn (.call i))).pending = c.pending.filter (fun entry => entry.1 ≠ n) ∧
      (c.move (.turn (.call i))).calls[i]? =
        some { k with phase := afterResult k.purpose (.error .notConnected) }
  /-- No request is left waiting: its call comes back after turns of its own. -/
  returned : ∀ (i : Nat) (k : Call) (method : String) (params : Json) (more : List Move),
    c.calls[i]? = some k → k.purpose = .request method params →
      k.phase.rank ≤ more.countP (Move.isTurnOf i) →
        ∃ result, (c.run more).result? i = some result ∧ Returned (t ++ c.trace more) i result
  /-- So are the requests that belong to other calls: each call gets through with its own. -/
  through : ∀ (i : Nat) (k : Call) (more : List Move), c.calls[i]? = some k →
    k.phase.rank ≤ more.countP (Move.isTurnOf i) →
      ∃ k', (c.run more).calls[i]? = some k' ∧ k'.purpose = k.purpose ∧ k'.phase.rank = 0
  /-- What is still pending belongs to a call that is about to be refused or to take back its entry,
  or to a shutdown that has given up its request and has yet to drain the table. -/
  left : ∀ n i, (n, i) ∈ c.pending → ∃ k, c.calls[i]? = some k ∧ (k.phase = .probing n ∨
    k.phase = .withdrawing n ∨ k.purpose = .shutdown ∧ k.phase.isLeaving = true)
  /-- Nothing is pending once all calls have come back. -/
  empty : (∀ k ∈ c.calls, ∃ result, k.phase = .finished result) → c.pending = []

private theorem Over.left {c : Connection} (gone : Over c) {n i : Nat} (inside : (n, i) ∈ c.pending) :
    ∃ k, c.calls[i]? = some k ∧ (k.phase = .probing n ∨ k.phase = .withdrawing n ∨
      k.purpose = .shutdown ∧ k.phase.isLeaving = true) := by
  obtain ⟨k, found, _, own⟩ := gone.consistent.owner n i inside
  have free := gone.closing.settled gone.ended n i k inside found
  refine ⟨k, found, ?_⟩
  rcases own with held | leaving
  · cases phase : k.phase with
    | probing m =>
      rw [phase] at held
      cases held
      exact .inl rfl
    | withdrawing m =>
      rw [phase] at held
      cases held
      exact .inr (.inl rfl)
    | sending m | waiting m =>
      rw [phase] at free
      contradiction
    | _ =>
      rw [phase] at held
      contradiction
  · exact .inr (.inr leaving)

theorem Over.empty {c : Connection} (gone : Over c)
    (finished : ∀ k ∈ c.calls, ∃ result, k.phase = .finished result) : c.pending = [] := by
  apply List.eq_nil_iff_forall_not_mem.2
  rintro ⟨n, i⟩ inside
  obtain ⟨k, found, own⟩ := gone.left inside
  obtain ⟨result, back⟩ := finished k (List.mem_of_getElem? found)
  rw [back] at own
  rcases own with probing | withdrawing | ⟨_, leaving⟩ <;> contradiction

private theorem Over.returned {c : Connection} (gone : Over c) {t : List Event} {i : Nat} {k : Call}
    {method : String} {params : Json} {more : List Move} (found : c.calls[i]? = some k)
    (own : k.purpose = .request method params) (turns : k.phase.rank ≤ more.countP (Move.isTurnOf i))
    (later : Requests (t ++ c.trace more) (c.run more)) :
    ∃ result, (c.run more).result? i = some result ∧ Returned (t ++ c.trace more) i result := by
  obtain ⟨⟨purpose, phase, answer, deadline⟩, found', same, rank⟩ := gone.through found more turns
  rcases later i _ method params found' (same.trans own) with going | ⟨result, finished, returned⟩
  · cases phase <;> contradiction
  · cases finished
    exact ⟨result, by rw [result?, found'], returned⟩

/-- Once an ending has finished, no request is left waiting, in whatever order all came about. -/
theorem ended_concluded (options : ClientOptions) (grace : Nat) (moves : List Move)
    (ended : Ended ((connect options grace).run moves)) :
    Concluded ((connect options grace).trace moves) ((connect options grace).run moves) := by
  have tracked := tracked_run options grace moves
  have gone : Over ((connect options grace).run moves) :=
    ⟨tracked.consistent, closing_run options grace moves, ended⟩
  exact {
    request := by
      intro i k method params found own
      rcases tracked.requests i k method params found own with going | back
      · cases phase : k.phase with
        | waiting n =>
          obtain ⟨r, answer⟩ := gone.answered found phase
          exact .inr (.inl ⟨n, r, rfl, answer, answer ▸ tracked.waiting found phase⟩)
        | withdrawing n => exact .inr (.inr (.inl ⟨n, rfl⟩))
        | checking | numbering | registering | probing | sending => exact .inl rfl
        | _ =>
          rw [phase] at going
          contradiction
      · exact .inr (.inr (.inr back))
    answered := by
      intro i k n found phase
      obtain ⟨r, answer⟩ := gone.answered found phase
      exact ⟨r, answer ▸ tracked.waiting found phase, waiting_turn found phase answer⟩
    refused := fun i k n found phase => withdrawing_turn found phase
    returned := by
      intro i k method params more found own turns
      have later := (tracked_run options grace (moves ++ more)).requests
      rw [run_append, trace_append] at later
      exact gone.returned found own turns later
    through := fun i k more found turns => gone.through found more turns
    left := fun n i inside => gone.left inside
    empty := gone.empty }

/-- The moves of a run in which the server ends its stream while a request has come to the table, but
not yet to the queue. -/
def interruption : List Move :=
  [.begun (.request "textDocument/hover" .null), .turn (.call 0), .turn (.call 0), .turn (.call 0),
    .endInbox, .turn .reader, .turn .reader, .turn .reader, .turn .reader, .turn .reader, .turn .reader]

def interrupted : Connection := (connect ⟨"lean4", "Lean 4", [], none⟩ 5000).run interruption

theorem ended_concluded_interrupted : Ended interrupted ∧ ∃ result,
    (interrupted.run [.turn (.call 0), .turn (.call 0), .turn (.call 0)]).result? 0 = some result := by
  have ended : Ended interrupted := .inl (by decide)
  have found : interrupted.calls[0]? = some ⟨.request "textDocument/hover" .null, .probing 1,
    some (cancellation 1 ErrorCode.serverTerminated "Lean 4 language server terminated"), 0⟩ := by rfl
  have concluded := ended_concluded ⟨"lean4", "Lean 4", [], none⟩ 5000 interruption ended
  obtain ⟨result, back, _⟩ := concluded.returned 0 _ _ _
    [.turn (.call 0), .turn (.call 0), .turn (.call 0)] found rfl (by decide)
  exact ⟨ended, result, back⟩

end Connection

end LanguageClient
