import LanguageClient.Proofs.Connection.Flow

/-! Where the error that the server has gone comes from. The reader says that it has ended before it
drains the table, and calls are rejected after that; so a request that comes back with this error has
the reader's word for it, unless the server itself has answered with the code that the client keeps for
it. Every other error of the server reaches its call as it is. -/
namespace LanguageClient.Connection

/-- An answer has come from the server or from a draining. -/
theorem FirstAnswer.source {t : List Event} {i n : Nat} {r : Response} (first : FirstAnswer t i n (some r)) :
    .handled r ∈ t ∨ ∃ code reason, .drained code reason ∈ t ∧ r = cancellation n code reason := by
  obtain ⟨before, after, rfl, found⟩ := first
  obtain ⟨e, inside, given⟩ := List.exists_of_findSome?_eq_some found
  have known : e ∈ before ++ .registered i n :: after := by simp [inside]
  cases e with
  | handled r' =>
    rw [answerTo?] at given
    split at given
    · cases given
      exact .inl known
    · contradiction
  | drained code reason =>
    cases given
    exact .inr ⟨code, reason, known, rfl⟩
  | registered | sent => contradiction

theorem FirstAnswer.append {t : List Event} {i n : Nat} {r : Response} (first : FirstAnswer t i n (some r))
    (more : List Event) : FirstAnswer (t ++ more) i n (some r) := by
  obtain ⟨before, after, rfl, found⟩ := first
  exact ⟨before, after ++ more, by simp, by rw [List.findSome?_append, found]; rfl⟩

private theorem resultOf_error {r : Response} {e : ResponseError} (outcome : r.outcome = .error e)
    (other : e.code ≠ ErrorCode.serverTerminated) : resultOf r = .error (.serverError e.code e.message) := by
  rw [resultOf, outcome]
  exact if_neg other

private theorem resultOf_serverTerminated {r : Response} (result : resultOf r = .error .serverTerminated) :
    ∃ e, r.outcome = .error e ∧ e.code = ErrorCode.serverTerminated := by
  cases outcome : r.outcome with
  | ok value =>
    rw [resultOf, outcome] at result
    contradiction
  | error e =>
    by_contra other
    have plain := resultOf_error outcome fun same => other ⟨e, rfl, same⟩
    cases plain.symm.trans result

private theorem drained_code {c : Connection} {m : Move} {code : Int32} {reason : String}
    (event : c.event? m = some (.drained code reason)) :
    code = ErrorCode.requestCancelled ∨ c.reader.isGone = true := by
  cases m with
  | turn party =>
    cases party with
    | reader =>
      change c.readerEvent? = _ at event
      unfold readerEvent? at event
      cases reader : c.reader with
      | cancelling => exact .inr rfl
      | reading =>
        rw [reader] at event
        dsimp only at event
        split at event <;> cases event
      | _ =>
        rw [reader] at event
        contradiction
    | call j =>
      change c.callEvent? j = _ at event
      unfold callEvent? at event
      split at event
      · cases event
      · split at event <;> cases event
      · cases event
        exact .inl rfl
      · cases event
    | writer | timer => contradiction
  | _ => contradiction

/-- Whoever drains the table with the code for a server that has gone is the reader, and it has said
before that it has ended. -/
structure Declared (t : List Event) (c : Connection) : Prop where
  gone : c.reader.isGone = true → c.terminated = true
  drained : ∀ code reason, .drained code reason ∈ t →
    code = ErrorCode.requestCancelled ∨ c.terminated = true

private theorem Declared.move {t : List Event} {c : Connection} (declared : Declared t c) (m : Move) :
    Declared (t ++ (c.event? m).toList) (c.move m) where
  gone now := by
    have course := (c.move_course m).1
    rcases course.gone now with before | said
    · exact course.terminated (declared.gone before)
    · exact said
  drained code reason inside := by
    have course := (c.move_course m).1
    rcases List.mem_append.1 inside with old | new
    · exact (declared.drained code reason old).imp_right course.terminated
    · have event := Option.mem_toList.1 new
      exact (drained_code event).imp_right fun gone => course.terminated (declared.gone gone)

section Pass
variable {c c' : Connection} {k : Call} {phase : CallPhase} {method : String} {params : Json}

/-- A request that comes back in this step was rejected or has its answer. -/
theorem Pass.back (pass : Pass c c' k phase) (requesting : k.phase.isRequesting = true)
    {result : Except ClientError Json} (finished : phase = .finished result) :
    c.terminated = true ∨ ∃ n, k.phase = .waiting n := by
  cases pass with
  | rejected start gone => exact .inl gone
  | answered n r start given => exact .inr ⟨n, start⟩
  | told method params result start =>
    rcases start with start | start <;> rw [start] at requesting <;> contradiction
  | _ => contradiction

private theorem Pass.of_waiting (pass : Pass c c' k phase) (own : k.purpose = .request method params) {n : Nat}
    (waiting : k.phase = .waiting n) : ∃ r, k.answer = some r ∧ phase = .finished (resultOf r) := by
  cases pass with
  | answered m r start given => exact ⟨r, given, by rw [own]; rfl⟩
  | expired m other =>
    rw [own] at other
    contradiction
  | told method params result start | closed failure start =>
    rcases start with start | start <;> rw [start] at waiting <;> contradiction
  | announced start | spared start | decided start | rejected start | checked start | refused _ start
  | admitted _ start | dropped _ start | telling _ _ start | closing _ start | reaped _ _ start =>
    rw [start] at waiting
    contradiction

end Pass

/-- What is known of a request: where it has come back without having come to the table the reader had
ended, and where it was sent it waits or has come back with its answer. -/
structure Accounted (t : List Event) (c : Connection) (i : Nat) (k : Call) : Prop where
  rejected : ∀ result, k.phase = .finished result → (∀ n, (i, n) ∉ registrations t) → c.terminated = true
  sent : ∀ n, .sent i n ∈ t → k.phase = .waiting n ∨
    ∃ r, FirstAnswer t i n (some r) ∧ k.phase = .finished (resultOf r)

namespace Accounted

variable {t : List Event} {c c' : Connection} {e : Option Event} {i : Nat} {k k' : Call}

private theorem keep (accounted : Accounted t c i k) (stays : c.terminated = true → c'.terminated = true)
    (other : ∀ n, e ≠ some (.sent i n)) (phase : k'.phase = k.phase) :
    Accounted (t ++ e.toList) c' i k' where
  rejected result finished outside := by
    refine stays (accounted.rejected result (phase ▸ finished) fun n inside => ?_)
    exact outside n (mem_registrations_append inside _)
  sent n inside := by
    rw [phase]
    rcases List.mem_append.1 inside with old | new
    · exact (accounted.sent n old).imp_right fun ⟨r, first, back⟩ => ⟨r, first.keep e, back⟩
    · exact absurd (Option.mem_toList.1 new) (other n)

private theorem of_unsent (unsent : ∀ n, .sent i n ∉ t) (other : ∀ n, e ≠ some (.sent i n))
    (rejected : ∀ result, k'.phase = .finished result → ∃ n, (i, n) ∈ registrations t) :
    Accounted (t ++ e.toList) c' i k' where
  rejected result finished outside := by
    obtain ⟨n, inside⟩ := rejected result finished
    exact absurd (mem_registrations_append inside _) (outside n)
  sent n inside := by
    rcases List.mem_append.1 inside with old | new
    · exact absurd old (unsent n)
    · exact absurd (Option.mem_toList.1 new) (other n)

/-- A request that neither waits nor has come back was not sent. -/
theorem unsent (accounted : Accounted t c i k) (early : ∀ n, k.phase ≠ .waiting n)
    (going : ∀ result, k.phase ≠ .finished result) (n : Nat) : .sent i n ∉ t := by
  intro inside
  rcases accounted.sent n inside with waits | ⟨r, _, back⟩
  · exact early n waits
  · exact going _ back

end Accounted

structure Accounts (t : List Event) (c : Connection) : Prop where
  entered : ∀ i n, .sent i n ∈ t → (i, n) ∈ registrations t
  requests : ∀ (i : Nat) (k : Call) (method : String) (params : Json), c.calls[i]? = some k →
    k.purpose = .request method params → Accounted t c i k

namespace Accounts

variable {t : List Event} {c c' : Connection} {e : Option Event} {i n : Nat} {k : Call}
  {method : String} {params : Json}

private theorem entered_change (accounts : Accounts t c) (tracked : Tracked t c) (change : Change c c' e)
    (inside : .sent i n ∈ t ++ e.toList) : (i, n) ∈ registrations (t ++ e.toList) := by
  refine mem_registrations_append ?_ _
  rcases List.mem_append.1 inside with old | new
  · exact accounts.entered i n old
  · cases Option.mem_toList.1 new
    cases change with
    | sent _ k _ found phase => exact tracked.entered.held i k n found (by rw [phase]; rfl)

private theorem passed (accounts : Accounts t c) (tracked : Tracked t c) {k' : Call}
    (found : c.calls[i]? = some k) (own : k.purpose = .request method params)
    (pass : Pass c c' k k'.phase) (stays : c.terminated = true → c'.terminated = true) :
    Accounted t c' i k' where
  rejected result finished outside := by
    rcases tracked.requests i k method params found own with requesting | ⟨_, back, _⟩
    · rcases pass.back requesting finished with gone | ⟨n, waits⟩
      · exact stays gone
      · -- Whoever waits has come to the table.
        exact absurd (tracked.entered.held i k n found (by rw [waits]; rfl)) (outside n)
    · exact absurd back (pass.not_finished _)
  sent n inside := by
    rcases (accounts.requests i k method params found own).sent n inside with waits | ⟨r, _, back⟩
    · obtain ⟨r, given, back⟩ := pass.of_waiting own waits
      exact .inr ⟨r, given ▸ tracked.waiting found waits, back⟩
    · exact absurd back (pass.not_finished _)

private theorem requests_change (accounts : Accounts t c) (tracked : Tracked t c) (change : Change c c' e)
    (stays : c.terminated = true → c'.terminated = true) {k' : Call} (found' : c'.calls[i]? = some k')
    (own' : k'.purpose = .request method params) : Accounted (t ++ e.toList) c' i k' := by
  rcases change.advance found' with ⟨new, rfl, purpose, rfl⟩ | ⟨k, found, same, advance⟩
  · constructor
    · intro result finished
      cases purpose <;> contradiction
    · intro n inside
      rw [Option.toList_none, List.append_nil] at inside
      have old := tracked.entered.begun i n (accounts.entered i n inside)
      exact absurd new (Nat.not_le.2 old)
  have own := same.symm.trans own'
  have before := accounts.requests i k method params found own
  cases advance with
  | stayed e phase others => exact before.keep stays (fun n => (others n).2) phase
  | passed pass =>
    rw [Option.toList_none, List.append_nil]
    exact accounts.passed tracked found own pass stays
  | numbered start phase | registered n start phase =>
    refine .of_unsent (before.unsent (by simp [start]) (by simp [start])) nofun fun _ finished => ?_
    rw [phase] at finished
    contradiction
  | sent n start phase =>
    refine ⟨by simp [phase], fun m inside => .inl ?_⟩
    rcases List.mem_append.1 inside with old | new
    · exact absurd old (before.unsent (by simp [start]) (by simp [start]) m)
    · cases Option.mem_toList.1 new
      exact phase
  | withdrawn n start phase =>
    refine .of_unsent (before.unsent (by simp [start]) (by simp [start])) nofun fun _ _ => ?_
    exact ⟨n, tracked.entered.held i k n found (by rw [start]; rfl)⟩
  | drained code reason failure result start phase =>
    -- Only a shutdown drains the table itself.
    rcases tracked.requests i k method params found own with going | ⟨_, back, _⟩
    · rw [start] at going
      contradiction
    · rw [start] at back
      contradiction

private theorem move (accounts : Accounts t c) (tracked : Tracked t c) (m : Move) :
    Accounts (t ++ (c.event? m).toList) (c.move m) := by
  have change := (c.move_change m).1
  have stays := (c.move_course m).1.terminated
  exact {
    entered := fun i n => accounts.entered_change tracked change
    requests := fun i k method params => accounts.requests_change tracked change stays }

private theorem connect (options : ClientOptions) (grace : Nat) : Accounts [] (connect options grace) where
  entered := nofun
  requests i k method params found := by simp [Connection.connect] at found

end Accounts

private theorem Declared.connect (options : ClientOptions) (grace : Nat) : Declared [] (connect options grace) where
  gone gone := absurd gone Bool.false_ne_true
  drained _ _ inside := absurd inside List.not_mem_nil

theorem declared_run (options : ClientOptions) (grace : Nat) (moves : List Move) :
    Declared ((connect options grace).trace moves) ((connect options grace).run moves) :=
  trace_keeps Declared (fun _ _ m declared => declared.move m) (.connect options grace) moves

private theorem accounts_run (options : ClientOptions) (grace : Nat) (moves : List Move) :
    Accounts ((connect options grace).trace moves) ((connect options grace).run moves) := by
  -- The accounts are kept beside what is tracked, on which they rest.
  have both := trace_keeps (fun t c => Tracked t c ∧ Accounts t c)
    (fun _ _ m before => ⟨before.1.move m, before.2.move before.1 m⟩)
    ⟨.connect options grace, .connect options grace⟩ moves
  exact both.2

theorem result?_of_finished {c : Connection} {i : Nat} {k : Call} {result : Except ClientError Json}
    (found : c.calls[i]? = some k) (finished : k.phase = .finished result) : c.result? i = some result := by
  obtain ⟨purpose, _, answer, deadline⟩ := k
  cases finished
  rw [result?, found]

theorem finished_of_result? {c : Connection} {i : Nat} {result : Except ClientError Json}
    (back : c.result? i = some result) : ∃ k, c.calls[i]? = some k ∧ k.phase = .finished result := by
  rw [result?] at back
  split at back
  · next found =>
    cases back
    exact ⟨_, found, rfl⟩
  · contradiction

/-- A call keeps its purpose, and its result once it has one. -/
theorem goes_run {c : Connection} {i : Nat} {k : Call} (found : c.calls[i]? = some k) (moves : List Move) :
    ∃ k', (c.run moves).calls[i]? = some k' ∧ k'.purpose = k.purpose ∧
      ∀ result, k.phase = .finished result → k'.phase = .finished result := by
  induction moves generalizing c k with
  | nil => exact ⟨k, found, rfl, fun _ => id⟩
  | cons m rest ih =>
    obtain ⟨k₁, found₁, purpose₁, nearer⟩ := (c.move_change m).1.goes found
    obtain ⟨k₂, found₂, purpose₂, kept⟩ := ih found₁
    refine ⟨k₂, found₂, purpose₂.trans purpose₁, fun result finished => kept result ?_⟩
    rcases nearer with same | ⟨_, going⟩
    · exact same.trans finished
    · exact absurd finished (going result)

/-- Where the errors of requests come from, after a run with the trace `t` that has led to `c`. -/
structure Attributed (t : List Event) (c : Connection) : Prop where
  /-- A request comes back with the error that the server has gone only if the reader has ended, or the
  server has answered it with the code for that. -/
  gone : ∀ (i : Nat) (k : Call) (method : String) (params : Json), c.calls[i]? = some k →
    k.purpose = .request method params → k.phase = .finished (.error .serverTerminated) →
      c.terminated = true ∨ ∃ n r e, .handled r ∈ t ∧ FirstAnswer t i n (some r) ∧
        r.outcome = .error e ∧ e.code = ErrorCode.serverTerminated
  /-- With any other error that answers a request that was sent, its call comes back as it is, at the
  latest in its next turn. -/
  told : ∀ (i : Nat) (k : Call) (method : String) (params : Json) (n : Nat) (r : Response)
    (e : ResponseError) (more : List Move), c.calls[i]? = some k → k.purpose = .request method params →
      .sent i n ∈ t → FirstAnswer t i n (some r) → r.outcome = .error e →
        e.code ≠ ErrorCode.serverTerminated → .turn (.call i) ∈ more →
          (c.run more).result? i = some (.error (.serverError e.code e.message))

private theorem Tracked.gone {t : List Event} {c : Connection} (tracked : Tracked t c) (declared : Declared t c)
    (accounts : Accounts t c) {i : Nat} {k : Call} {method : String} {params : Json}
    (found : c.calls[i]? = some k) (own : k.purpose = .request method params)
    (finished : k.phase = .finished (.error .serverTerminated)) :
    c.terminated = true ∨ ∃ n r e, .handled r ∈ t ∧ FirstAnswer t i n (some r) ∧
      r.outcome = .error e ∧ e.code = ErrorCode.serverTerminated := by
  obtain ⟨result, same, returned⟩ :=
    (tracked.requests i k method params found own).resolve_left (by rw [finished]; nofun)
  have result_eq : result = .error .serverTerminated := by
    cases finished.symm.trans same
    rfl
  cases returned with
  | answered n r first =>
    obtain ⟨e, outcome, code⟩ := resultOf_serverTerminated result_eq
    rcases first.source with handled | ⟨drain, reason, drained, rfl⟩
    · exact .inr ⟨n, r, e, handled, first, outcome, code⟩
    · -- The client's own error has the code of the draining, and a shutdown has another one.
      cases outcome
      rcases declared.drained drain reason drained with cancelled | gone
      · cases cancelled.symm.trans code
      · exact .inl gone
  | refused n entered => contradiction
  | rejected outside => exact .inl ((accounts.requests i k method params found own).rejected _ finished outside)

/-- With its next turn a request that was sent has the result that its answer says. -/
theorem Tracked.turn {t : List Event} {c : Connection} (tracked : Tracked t c) (accounts : Accounts t c)
    {i n : Nat} {k : Call} {r : Response} {method : String} {params : Json} (found : c.calls[i]? = some k)
    (own : k.purpose = .request method params) (sent : .sent i n ∈ t) (first : FirstAnswer t i n (some r)) :
    ∃ k', (c.move (.turn (.call i))).calls[i]? = some k' ∧ k'.phase = .finished (resultOf r) := by
  rcases (accounts.requests i k method params found own).sent n sent with waits | ⟨r', first', back⟩
  · have given : k.answer = some r :=
      ((tracked.waiting found waits).unique tracked.entered.numbers first).2
    exact ⟨_, waiting_turn found waits given, by rw [own]; rfl⟩
  · cases (first'.unique tracked.entered.numbers first).2
    obtain ⟨k', found', _, kept⟩ := goes_run found [.turn (.call i)]
    exact ⟨k', found', kept _ back⟩

/-- In every run, the errors of requests come from where they say. -/
theorem run_attributed (options : ClientOptions) (grace : Nat) (moves : List Move) :
    Attributed ((connect options grace).trace moves) ((connect options grace).run moves) where
  gone _ _ _ _ := (tracked_run options grace moves).gone (declared_run options grace moves)
    (accounts_run options grace moves)
  told i k method params n r e more found own sent first outcome other inside := by
    -- The result is fixed by the turn of the call, and kept by all that comes after it.
    obtain ⟨before, after, rfl⟩ := List.append_of_mem inside
    have tracked := tracked_run options grace (moves ++ before)
    have accounts := accounts_run options grace (moves ++ before)
    rw [run_append, trace_append] at tracked accounts
    obtain ⟨k₁, found₁, purpose, _⟩ := goes_run found before
    obtain ⟨k₂, found₂, back⟩ := tracked.turn accounts found₁ (purpose.trans own)
      (List.mem_append_left _ sent) (first.append _)
    obtain ⟨k₃, found₃, _, kept⟩ := goes_run found₂ after
    have result := result?_of_finished found₃ (kept _ back)
    rw [resultOf_error outcome other] at result
    rw [run_append]
    exact result

def busy : Response := .failure (.number 1) ⟨ErrorCode.serverTerminated, "busy", none⟩

def business : List Move :=
  [.begun (.request "textDocument/hover" .null), .turn (.call 0), .turn (.call 0), .turn (.call 0),
    .turn (.call 0), .turn (.call 0), .turn .writer,
    .receive (Frame.encode (Message.response busy).text), .turn .reader, .turn (.call 0)]

/-- The reader reads on, and the call comes back as if it had ended. -/
theorem busy_taken_for_gone : ¬ ∀ (options : ClientOptions) (grace : Nat) (moves : List Move) (i : Nat)
    (method : String) (params : Json),
    ((connect options grace).run moves).calls[i]?.map Call.purpose = some (.request method params) →
      ((connect options grace).run moves).result? i = some (.error .serverTerminated) →
        ((connect options grace).run moves).terminated = true := by
  intro always
  let start := connect ⟨"lean4", "Lean 4", [], none⟩ 5000
  have purpose : (start.run business).calls[0]?.map Call.purpose =
      some (.request "textDocument/hover" .null) := by decide +kernel
  have result : (start.run business).result? 0 = some (.error .serverTerminated) := by decide +kernel
  have reads : (start.run business).terminated = false := by decide +kernel
  have gone := always _ _ business 0 _ _ purpose result
  exact absurd (reads.symm.trans gone) nofun

end LanguageClient.Connection
