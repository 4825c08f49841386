import LanguageClient.Proofs.Connection.Flow

/-! Turns of the calls. A call is taken on by its own turns and by its timer alone; each of these brings it
nearer to its end, and a call that cannot take its turn has finished, or waits for its answer or for the
process of the server. -/
namespace LanguageClient

def CallPhase.toGo : CallPhase → Nat
  | .announcing => 14
  | .deciding => 13
  | .checking => 12
  | .numbering => 11
  | .registering _ => 10
  | .probing _ => 9
  | .sending _ => 8
  | .withdrawing _ => 7
  | .waiting _ => 7
  | .noticeProbing _ _ => 6
  | .noticeSending _ _ => 5
  | .closing _ => 4
  | .marking _ => 3
  | .reaping _ => 2
  | .cancelling _ => 1
  | .finished _ => 0

namespace Connection

private theorem toGo_afterResult (purpose : Purpose) (result : Except ClientError Json) :
    (afterResult purpose result).toGo < 7 := by
  unfold afterResult
  repeat' split
  all_goals exact Nat.lt_of_sub_eq_succ rfl

private theorem toGo_afterTelling (purpose : Purpose) (result : Except ClientError Json) :
    (afterTelling purpose result).toGo < 5 := by
  unfold afterTelling
  split <;> exact Nat.lt_of_sub_eq_succ rfl

structure OwnTurn (c c' : Connection) (i : Nat) : Prop where
  nearer : ∃ k k', c.calls[i]? = some k ∧ c'.calls[i]? = some k' ∧ k'.phase.toGo < k.phase.toGo
  others : ∀ j : Nat, j ≠ i → c'.calls[j]?.map Call.phase = c.calls[j]?.map Call.phase

private theorem map_phase_drainCalls (pending : List (Nat × Nat)) (code : Int32) (reason : String)
    (calls : List Call)
    (j : Nat) : (drainCalls pending code reason calls)[j]?.map Call.phase = calls[j]?.map Call.phase := by
  induction pending generalizing calls with
  | nil => rfl
  | cons entry rest ih =>
    refine (ih _).trans ?_
    rw [List.getElem?_modify]
    cases calls[j]? with
    | none => rfl
    | some k =>
      by_cases same : entry.2 = j <;> simp [same]

private theorem OwnTurn.of_set {c c' : Connection} {i : Nat} {k k' : Call} (found : c.calls[i]? = some k)
    (calls : c'.calls = c.calls.set i k') (less : k'.phase.toGo < k.phase.toGo) : OwnTurn c c' i where
  nearer := by
    have inRange := (List.getElem?_eq_some_iff.1 found).1
    exact ⟨k, k', found, by rw [calls, List.getElem?_set_self inRange], less⟩
  others j other := by rw [calls, List.getElem?_set_ne (Ne.symm other)]

theorem stepCall?_own {c c' : Connection} {i : Nat} (step : c.stepCall? i = some c') : OwnTurn c c' i := by
  unfold stepCall? at step
  cases found : c.calls[i]? with
  | none => simp [found] at step
  | some k =>
    obtain ⟨purpose, phase, answer, deadline⟩ := k
    rw [found] at step
    cases phase with
    | announcing | numbering | registering n =>
      cases step
      exact .of_set found (modify_found found _) (Nat.lt_succ_self _)
    | deciding =>
      dsimp only [Option.bind_eq_bind, Option.bind_some] at step
      split at step <;> cases step
      · exact .of_set found (modify_found found _) (Nat.lt_of_sub_eq_succ rfl)
      · exact .of_set found (modify_twice found _ _) (Nat.lt_succ_self _)
    | checking =>
      dsimp only [Option.bind_eq_bind, Option.bind_some] at step
      split at step
      · obtain ⟨log, welcome, after⟩ := c.afterRequest_eq i purpose (.error .serverTerminated)
        rw [after] at step
        cases step
        exact .of_set found (modify_found found _) (Nat.lt_trans (toGo_afterResult _ _) (Nat.lt_of_sub_eq_succ rfl))
      · cases step
        exact .of_set found (modify_found found _) (Nat.lt_succ_self _)
    | probing n =>
      dsimp only [Option.bind_eq_bind, Option.bind_some] at step
      split at step <;> cases step <;> exact .of_set found (modify_found found _) (Nat.lt_of_sub_eq_succ rfl)
    | sending n =>
      dsimp only [Option.bind_eq_bind, Option.bind_some, enqueue?] at step
      by_cases ended : c.writer = .ended
      · simp only [if_pos ended] at step
        cases step
        exact .of_set found (modify_found found _) (Nat.lt_succ_self _)
      · simp only [if_neg ended] at step
        cases step
        exact .of_set found (modify_found found _) (Nat.lt_succ_self _)
    | withdrawing n =>
      dsimp only [Option.bind_eq_bind, Option.bind_some] at step
      obtain ⟨log, welcome, after⟩ := afterRequest_eq
        { c with pending := c.pending.filter fun entry => entry.1 ≠ n } i purpose (.error .notConnected)
      rw [after] at step
      cases step
      exact .of_set found (modify_found found _) (toGo_afterResult _ _)
    | waiting n =>
      cases answer with
      | none => contradiction
      | some r =>
        dsimp only [Option.bind_eq_bind, Option.bind_some] at step
        obtain ⟨log, welcome, after⟩ := c.afterRequest_eq i purpose (resultOf r)
        rw [after] at step
        cases step
        exact .of_set found (modify_found found _) (toGo_afterResult _ _)
    | noticeProbing method params =>
      dsimp only [Option.bind_eq_bind, Option.bind_some] at step
      split at step
      · rw [afterNotice_eq] at step
        cases step
        exact .of_set found (modify_found found _) (Nat.lt_trans (toGo_afterTelling _ _) (Nat.lt_of_sub_eq_succ rfl))
      · cases step
        exact .of_set found (modify_found found _) (Nat.lt_succ_self _)
    | noticeSending method params =>
      dsimp only [Option.bind_eq_bind, Option.bind_some, enqueue?] at step
      by_cases ended : c.writer = .ended
      · simp only [if_pos ended, afterNotice_eq] at step
        cases step
        exact .of_set found (modify_found found _) (toGo_afterTelling _ _)
      · simp only [if_neg ended, afterNotice_eq] at step
        cases step
        exact .of_set found (modify_found found _) (toGo_afterTelling _ _)
    | closing failure =>
      dsimp only [Option.bind_eq_bind, Option.bind_some] at step
      split at step <;> cases step <;> exact .of_set found (modify_twice found _ _) (Nat.lt_of_sub_eq_succ rfl)
    | marking failure =>
      dsimp only [Option.bind_eq_bind, Option.bind_some, enqueue?] at step
      by_cases ended : c.writer = .ended
      · simp only [if_pos ended] at step
        cases step
        exact .of_set found (modify_found found _) (Nat.lt_succ_self _)
      · simp only [if_neg ended] at step
        cases step
        exact .of_set found (modify_found found _) (Nat.lt_succ_self _)
    | reaping failure =>
      dsimp only [Option.bind_eq_bind, Option.bind_some] at step
      split at step
      · cases step
        exact .of_set found (modify_found found _) (Nat.lt_succ_self _)
      · cases step
        exact .of_set found (modify_found found _) (Nat.lt_succ_self _)
      · contradiction
    | cancelling failure =>
      dsimp only [Option.bind_eq_bind, Option.bind_some] at step
      obtain ⟨log, drained⟩ := c.cancelPending_eq ErrorCode.requestCancelled "Server shutdown"
      rw [drained] at step
      cases step
      have phases := map_phase_drainCalls c.pending ErrorCode.requestCancelled "Server shutdown" c.calls
      constructor
      · have still := phases i
        rw [found] at still
        obtain ⟨k, present, _⟩ := Option.map_eq_some_iff.1 still
        refine ⟨_, { k with phase := .finished (verdict failure) }, found, ?_, Nat.zero_lt_one⟩
        cases failure <;> simp [setPhase, note, present, verdict]
      · intro j other
        refine Eq.trans ?_ (phases j)
        simp [setPhase, note, Ne.symm other]
    | finished result => contradiction

theorem stepTimer?_own {c c' : Connection} {i : Nat} (step : c.stepTimer? i = some c') : OwnTurn c c' i := by
  unfold stepTimer? at step
  cases found : c.calls[i]? with
  | none => simp [found] at step
  | some k =>
    rw [found] at step
    dsimp only [Option.bind_eq_bind, Option.bind_some] at step
    have own {k' : Call} (calls : c'.calls = c.calls.set i k') (less : k'.phase.toGo < k.phase.toGo) :
        OwnTurn c c' i := .of_set found calls less
    split at step
    · contradiction
    · split at step
      · next n phase =>
        cases step
        exact own (modify_found found _) (by rw [phase]; exact Nat.lt_of_sub_eq_succ rfl)
      · next n phase =>
        cases step
        exact own (modify_found found _) (by rw [phase]; exact Nat.lt_of_sub_eq_succ rfl)
      · next n phase =>
        split at step
        · contradiction
        · cases step
          exact own (modify_found found _) (by rw [phase]; exact Nat.lt_of_sub_eq_succ rfl)
      · next failure phase =>
        split at step
        · cases step
          exact own (modify_found found _) (by rw [phase]; exact Nat.lt_succ_self _)
        · contradiction
      · contradiction

theorem stuck_call {c : Connection} {i : Nat} {k : Call} (found : c.calls[i]? = some k)
    (lost : c.stepCall? i = none) : (∃ result, k.phase = .finished result) ∨
      (∃ n, k.phase = .waiting n ∧ k.answer = none) ∨ ∃ failure, k.phase = .reaping failure ∧ c.process = .running := by
  unfold stepCall? at lost
  obtain ⟨purpose, phase, answer, deadline⟩ := k
  rw [found] at lost
  cases phase with
  | finished result => exact .inl ⟨result, rfl⟩
  | waiting n =>
    cases answer with
    | none => exact .inr (.inl ⟨n, rfl, rfl⟩)
    | some r => contradiction
  | reaping failure =>
    dsimp only [Option.bind_eq_bind, Option.bind_some] at lost
    split at lost
    · contradiction
    · contradiction
    · next running => exact .inr (.inr ⟨failure, rfl, running⟩)
  | announcing | numbering | registering | withdrawing | cancelling | marking => contradiction
  | deciding | checking | probing | noticeProbing | closing =>
    dsimp only [Option.bind_eq_bind, Option.bind_some] at lost
    split at lost <;> contradiction
  | sending | noticeSending =>
    dsimp only [Option.bind_eq_bind, Option.bind_some, enqueue?] at lost
    by_cases ended : c.writer = .ended
    · simp [if_pos ended] at lost
    · simp [if_neg ended] at lost

private theorem map_phase_handleMessage (c : Connection) (message : Message) (j : Nat) :
    (c.handleMessage message).calls[j]?.map Call.phase = c.calls[j]?.map Call.phase := by
  cases message with
  | response r =>
    obtain ⟨pending, log, noted | ⟨i, answered⟩⟩ := c.handleResponse_eq r
    · rw [handleMessage, noted]
    · rw [handleMessage, answered, List.getElem?_modify]
      cases c.calls[j]? with
      | none => rfl
      | some k => by_cases same : i = j <;> simp [same]
  | notification n =>
    obtain ⟨diagnostics, intercepted, log, told⟩ := c.handleNotification_eq n
    rw [handleMessage, told]
  | request q =>
    unfold handleMessage
    dsimp only
    cases answerRequest q <;> rfl

private theorem stepReader?_phases {c c' : Connection} (step : c.stepReader? = some c') (j : Nat) :
    c'.calls[j]?.map Call.phase = c.calls[j]?.map Call.phase := by
  unfold stepReader? at step
  cases reader : c.reader with
  | reading =>
    rw [reader] at step
    dsimp only at step
    split at step
    · contradiction
    · cases step
      exact map_phase_handleMessage _ _ j
    all_goals
      cases step
      rfl
  | replyProbing method text =>
    rw [reader] at step
    dsimp only at step
    split at step <;> cases step <;> rfl
  | replySending method text =>
    rw [reader] at step
    dsimp only [enqueue?] at step
    by_cases ended : c.writer = .ended
    · rw [if_pos ended] at step
      cases step
      rfl
    · rw [if_neg ended] at step
      cases step
      rfl
  | failing =>
    rw [reader] at step
    cases step
    dsimp only
    split <;> rfl
  | terminating =>
    rw [reader] at step
    cases step
    rfl
  | closing =>
    rw [reader] at step
    dsimp only at step
    split at step <;> cases step <;> rfl
  | marking =>
    rw [reader] at step
    dsimp only [enqueue?] at step
    by_cases ended : c.writer = .ended
    · rw [if_pos ended] at step
      cases step
      rfl
    · rw [if_neg ended] at step
      cases step
      rfl
  | cancelling =>
    rw [reader] at step
    dsimp only at step
    obtain ⟨log, drained⟩ := c.cancelPending_eq ErrorCode.serverTerminated
      (c.options.name ++ " language server terminated")
    rw [drained] at step
    cases step
    exact map_phase_drainCalls _ _ _ _ j
  | ended =>
    rw [reader] at step
    contradiction
  | dead =>
    rw [reader] at step
    contradiction

/-- No move takes a call on but its own turns and those of its timer. -/
theorem phase_stays {c : Connection} {m : Move} {i : Nat} {k : Call} (found : c.calls[i]? = some k)
    (notCall : m ≠ .turn (.call i)) (notTimer : m ≠ .turn (.timer i)) :
    (c.move m).calls[i]?.map Call.phase = some k.phase := by
  have start : c.calls[i]?.map Call.phase = some k.phase := congrArg (Option.map Call.phase) found
  cases m with
  | turn party =>
    have moved : c.move (.turn party) = (c.step? party).getD c := rfl
    cases step : c.step? party with
    | none =>
      rw [moved, step]
      exact start
    | some c' =>
      rw [moved, step, Option.getD_some]
      cases party with
      | reader => exact (stepReader?_phases step i).trans start
      | writer => rw [(stepWriter?_aside step).calls, start]
      | call j =>
        have other : i ≠ j := fun same => notCall (by rw [same])
        exact ((stepCall?_own step).others i other).trans start
      | timer j =>
        have other : i ≠ j := fun same => notTimer (by rw [same])
        exact ((stepTimer?_own step).others i other).trans start
  | begun purpose =>
    have inRange := (List.getElem?_eq_some_iff.1 found).1
    change (c.calls ++ [callOf purpose])[i]?.map Call.phase = _
    rw [List.getElem?_append_left inRange, start]
  | receive bytes =>
    change (c.receive bytes).calls[i]?.map Call.phase = _
    unfold receive
    split <;> exact start
  | endInbox | dropPeer | advance | process => exact start

/-- No move sets a call back. -/
theorem toGo_move {c : Connection} {i : Nat} {k k' : Call} (found : c.calls[i]? = some k) (m : Move)
    (found' : (c.move m).calls[i]? = some k') : k'.phase.toGo ≤ k.phase.toGo := by
  have own {c' : Connection} (turn : OwnTurn c c' i) (after : c'.calls[i]? = some k') :
      k'.phase.toGo ≤ k.phase.toGo := by
    obtain ⟨l, l', before, after', less⟩ := turn.nearer
    cases found.symm.trans before
    cases after.symm.trans after'
    exact Nat.le_of_lt less
  have still (same : (c.move m).calls[i]?.map Call.phase = some k.phase) : k'.phase.toGo ≤ k.phase.toGo := by
    rw [found'] at same
    exact Nat.le_of_eq (congrArg _ (Option.some.inj same))
  by_cases turn : m = .turn (.call i)
  · subst turn
    rw [move_call] at found'
    cases step : c.stepCall? i with
    | none =>
      rw [step, Option.getD_none] at found'
      cases found.symm.trans found'
      exact Nat.le_refl _
    | some c' =>
      rw [step, Option.getD_some] at found'
      exact own (stepCall?_own step) found'
  · by_cases timer : m = .turn (.timer i)
    · subst timer
      have moved : c.move (.turn (.timer i)) = (c.stepTimer? i).getD c := rfl
      rw [moved] at found'
      cases step : c.stepTimer? i with
      | none =>
        rw [step, Option.getD_none] at found'
        cases found.symm.trans found'
        exact Nat.le_refl _
      | some c' =>
        rw [step, Option.getD_some] at found'
        exact own (stepTimer?_own step) found'
    · exact still (phase_stays found turn timer)

theorem finished_of_toGo {phase : CallPhase} (done : phase.toGo = 0) : ∃ result, phase = .finished result := by
  cases phase with
  | finished result => exact ⟨result, rfl⟩
  | _ => contradiction

/-- After an ending every call comes back, after turns of its own, whatever else happens in between. -/
theorem Over.finishes {c : Connection} (gone : Over c) (absent : c.process = .absent) {i : Nat} {k : Call}
    (found : c.calls[i]? = some k) (more : List Move) (streams : ∀ m ∈ more, ∀ state, m ≠ .process state)
    (turns : k.phase.toGo ≤ more.countP (Move.isTurnOf i)) :
    ∃ k' result, (c.run more).calls[i]? = some k' ∧ k'.purpose = k.purpose ∧ k'.phase = .finished result := by
  induction more generalizing c k with
  | nil =>
    obtain ⟨result, finished⟩ := finished_of_toGo (Nat.le_zero.1 turns)
    exact ⟨k, result, found, rfl, finished⟩
  | cons m rest ih =>
    obtain ⟨k₁, found₁, purpose₁, _⟩ := (c.move_change m).1.goes found
    have absent₁ := (c.move_course m).2 (streams m List.mem_cons_self) absent
    have streams₁ : ∀ m' ∈ rest, ∀ state, m' ≠ .process state :=
      fun m' inside => streams m' (List.mem_cons_of_mem _ inside)
    have back := toGo_move found m found₁
    have left : k₁.phase.toGo ≤ rest.countP (Move.isTurnOf i) := by
      by_cases own : Move.isTurnOf i m = true
      · rw [List.countP_cons_of_pos own] at turns
        have isOwn : m = .turn (.call i) := by
          unfold Move.isTurnOf at own
          split at own
          · rw [of_decide_eq_true own]
          · contradiction
        subst isOwn
        rw [move_call] at found₁
        cases step : c.stepCall? i with
        | some c' =>
          obtain ⟨l, l', before, after, less⟩ := (stepCall?_own step).nearer
          rw [step, Option.getD_some] at found₁
          cases found.symm.trans before
          cases found₁.symm.trans after
          omega
        | none =>
          -- A call that cannot move has finished: it has its answer, and there is no process.
          rw [step, Option.getD_none] at found₁
          cases found.symm.trans found₁
          rcases stuck_call found step with ⟨result, finished⟩ | ⟨n, waits, unanswered⟩ | ⟨_, _, running⟩
          · rw [finished]
            exact Nat.zero_le _
          · obtain ⟨r, given⟩ := gone.answered found waits
            rw [given] at unanswered
            contradiction
          · rw [absent] at running
            contradiction
      · rw [List.countP_cons_of_neg own] at turns
        omega
    obtain ⟨k', result, found', purpose, finished⟩ := ih (gone.move m) absent₁ found₁ streams₁ left
    exact ⟨k', result, found', purpose.trans purpose₁, finished⟩

end Connection

end LanguageClient
