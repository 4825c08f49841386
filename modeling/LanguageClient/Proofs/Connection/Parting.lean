import LanguageClient.Proofs.Connection.Shutdown

/-! What a shutdown leaves behind. A shutdown returns, and well if and only if it was spared or the server has
acknowledged it; then the queue is closed, what was pending comes back with an error, and whoever comes later
is refused. -/
namespace LanguageClient.Connection

section Result
variable {t : List Event} {ms : List Milestone} {c : Connection} {s : Nat} {k : Call}

private theorem Failed.unacknowledged (failed : Failed t ms s) (tracked : Tracked t c) : ¬ Acknowledged t ms s := by
  rintro ⟨⟨n, r, value, sent, first, outcome⟩, inTime⟩
  cases failed with
  | expired time inside => exact inTime time inside
  | unsent unsent => exact unsent n sent
  | answered m r' e first' outcome' =>
    cases entered_call_unique tracked.entered.calls first.entered first'.entered
    cases (first.unique tracked.entered.numbers first').2
    cases outcome.symm.trans outcome'

/-- A shutdown returns well if and only if it was spared or acknowledged. -/
theorem Standing.result (standing : Standing t ms s k) (tracked : Tracked t c) {result : Except ClientError Json}
    (finished : k.phase = .finished result) :
    (result = .ok .null ↔ .spared s ∈ ms ∨ Acknowledged t ms s) ∧
      (result = .ok .null ∨ ∃ reason, result = .error (.shutdown reason)) := by
  cases standing with
  | back failure phase why =>
    cases finished.symm.trans phase
    cases why with
    | spared spared => exact ⟨⟨fun _ => .inl spared.found, fun _ => rfl⟩, .inl rfl⟩
    | acknowledged acknowledged => exact ⟨⟨fun _ => .inr acknowledged, fun _ => rfl⟩, .inl rfl⟩
    | failed reason limit asked unspared failed =>
      refine ⟨⟨nofun, fun well => ?_⟩, .inr ⟨reason, rfl⟩⟩
      rcases well with spared | acknowledged
      · exact absurd spared unspared
      · exact absurd acknowledged (failed.unacknowledged tracked)
  | begun phase | asking phase | telling phase | leaving _ phase =>
    rw [finished] at phase
    contradiction

private theorem Standing.fails (standing : Standing t ms s k) (unspared : ¬ Spared t ms s)
    (unacknowledged : ¬ Acknowledged t ms s) {result : Except ClientError Json}
    (finished : k.phase = .finished result) : ∃ reason, result = .error (.shutdown reason) := by
  cases standing with
  | back failure phase why =>
    cases finished.symm.trans phase
    cases why with
    | spared spared => exact absurd spared unspared
    | acknowledged acknowledged => exact absurd acknowledged unacknowledged
    | failed reason => exact ⟨reason, rfl⟩
  | begun phase | asking phase | telling phase | leaving _ phase =>
    rw [finished] at phase
    contradiction

/-- A shutdown puts its request into the queue, and the closing mark, and its leave once it is
acknowledged. -/
theorem Standing.outbound? (standing : Standing t ms s k) (own : k.purpose = .shutdown) {entry : Outbound}
    (had : k.outbound? = some entry) : entry = .close ∨
      (∃ n, entry = .message (Message.request (.new (UInt64.ofNat n) "shutdown" (some .null))).text) ∨
        (entry = .message (Message.notification (.new "exit" (some .null))).text ∧ Acknowledged t ms s) := by
  obtain ⟨purpose, phase, answer, deadline⟩ := k
  cases own
  cases standing with
  | begun start => cases phase <;> cases start <;> cases had
  | asking start =>
    cases phase with
    | sending n =>
      cases had
      exact .inr (.inl ⟨n, rfl⟩)
    | noticeSending | marking => cases start
    | _ => cases had
  | telling start acknowledged =>
    cases phase with
    | noticeSending method params =>
      cases start
      cases had
      exact .inr (.inr ⟨rfl, acknowledged⟩)
    | sending | marking => cases start
    | _ => cases had
  | leaving failure start =>
    cases phase with
    | marking last =>
      cases had
      exact .inl rfl
    | sending | noticeSending => cases start
    | _ => cases had
  | back failure start =>
    cases start
    cases had

end Result

/-- Once the server has acknowledged a shutdown in time, the shutdown does not give up any more. -/
theorem Followed.acknowledged {t : List Event} {ms : List Milestone} {c : Connection} (followed : Followed t ms c)
    {s : Nat} (acknowledged : Acknowledged t ms s) (m : Move) :
    Acknowledged (t ++ (c.event? m).toList) (ms ++ (c.milestone? m).toList) s := by
  obtain ⟨n, r, value, sent, first, outcome⟩ := acknowledged.answered
  refine ⟨⟨n, r, value, List.mem_append_left _ sent, first.keep _, outcome⟩, fun time inside => ?_⟩
  rcases List.mem_append.1 inside with old | new
  · exact acknowledged.inTime time old
  · have given := Option.mem_toList.1 new
    obtain ⟨k, found⟩ := milestone?_found given
    rcases milestone?_own given found with ⟨rfl, deciding⟩ | ⟨_, _, _, c', step⟩
    · rw [milestone?, found, Option.map_some, deciding] at given
      dsimp only at given
      split at given <;> cases given
    · obtain ⟨l, present, _, _, ring⟩ := stepTimer?_ring step
      cases found.symm.trans present
      have unsent := followed.unsent.unsent s k found
      cases ring with
      | gaveUp m start =>
        rcases start with start | start | ⟨start, unanswered⟩
        · exact unsent (by rw [start]; rfl) n sent
        · exact unsent (by rw [start]; rfl) n sent
        · have waits := followed.tracked.waiting found start
          rw [unanswered] at waits
          cases entered_call_unique followed.tracked.entered.calls first.entered waits.entered
          cases (first.unique followed.tracked.entered.numbers waits).2
      | killed _ _ running =>
        rw [followed.absent] at running
        contradiction

private theorem Followed.acknowledged_run {t : List Event} {ms : List Milestone} {c : Connection}
    (followed : Followed t ms c) {s : Nat} (acknowledged : Acknowledged t ms s) (more : List Move)
    (streams : ∀ m ∈ more, ∀ state, m ≠ .process state) :
    Acknowledged (t ++ c.trace more) (ms ++ c.milestones more) s := by
  induction more generalizing t ms c with
  | nil =>
    rw [trace, milestones, gather, List.append_nil, List.append_nil]
    exact acknowledged
  | cons m rest ih =>
    have later := ih (followed.move m (streams m List.mem_cons_self)) (followed.acknowledged acknowledged m)
      fun m' inside => streams m' (List.mem_cons_of_mem _ inside)
    rw [trace, milestones, gather]
    rw [List.append_assoc, List.append_assoc] at later
    exact later

/-- Time does not go back. -/
theorem clock_run (c : Connection) (moves : List Move) : c.clock ≤ (c.run moves).clock := by
  induction moves generalizing c with
  | nil => exact Nat.le_refl _
  | cons m rest ih => exact Nat.le_trans (c.move_course m).1.clock (ih (c.move m))

private theorem toGo_run {c : Connection} {i : Nat} {k : Call} (found : c.calls[i]? = some k) (moves : List Move) :
    ∃ k', (c.run moves).calls[i]? = some k' ∧ k'.purpose = k.purpose ∧ k'.phase.toGo ≤ k.phase.toGo := by
  induction moves generalizing c k with
  | nil => exact ⟨k, found, rfl, Nat.le_refl _⟩
  | cons m rest ih =>
    obtain ⟨k₁, found₁, purpose₁, _⟩ := (c.move_change m).1.goes found
    obtain ⟨k₂, found₂, purpose₂, less⟩ := ih found₁
    exact ⟨k₂, found₂, purpose₂.trans purpose₁, Nat.le_trans less (toGo_move found m found₁)⟩

/-- The timer of a shutdown and then the shutdown itself have their turns, whatever happens around them. -/
def Round (s : Nat) (moves : List Move) : Prop :=
  ∃ before between after, moves = before ++ .turn (.timer s) :: (between ++ .turn (.call s) :: after)

private theorem stepTimer?_due {c : Connection} {i n : Nat} {k : Call} (found : c.calls[i]? = some k)
    (own : k.purpose = .shutdown) (due : k.deadline ≤ c.clock)
    (phase : k.phase = .withdrawing n ∨ k.phase = .waiting n ∧ k.answer = none) : ∃ c', c.stepTimer? i = some c' := by
  obtain ⟨purpose, _, answer, deadline⟩ := k
  cases own
  have now : ¬ c.clock < deadline := Nat.not_lt.2 due
  rcases phase with phase | ⟨phase, unanswered⟩
  · cases phase
    exact ⟨c.setPhase i (.closing (some "shutdown request timed out")), by simp [stepTimer?, found, now]⟩
  · cases phase
    cases unanswered
    exact ⟨c.setPhase i (.closing (some "shutdown request timed out")), by simp [stepTimer?, found, now]⟩

private theorem withdrawing_or_waiting_of_toGo {phase : CallPhase} (seven : phase.toGo = 7) :
    ∃ n, phase = .withdrawing n ∨ phase = .waiting n := by
  cases phase with
  | withdrawing n => exact ⟨n, .inl rfl⟩
  | waiting n => exact ⟨n, .inr rfl⟩
  | _ => simp [CallPhase.toGo] at seven

/-- A call that waits keeps the answer that it was given. -/
theorem Tracked.answered_still {t u : List Event} {c c' : Connection} (tracked : Tracked t c) {i n n' : Nat}
    {k k' : Call} {r : Response} (found : c.calls[i]? = some k) (waits : k.phase = .waiting n)
    (given : k.answer = some r) (later : Tracked (t ++ u) c') (found' : c'.calls[i]? = some k')
    (waits' : k'.phase = .waiting n') : k'.answer = some r := by
  have first := tracked.waiting found waits
  rw [given] at first
  have last := later.waiting found' waits'
  cases entered_call_unique later.entered.calls (first.append u).entered last.entered
  exact ((first.append u).unique later.entered.numbers last).2.symm

/-- A shutdown whose time is up does not keep waiting through a round. -/
theorem Followed.round {t : List Event} {ms : List Milestone} {c : Connection} (followed : Followed t ms c)
    {s : Nat} {k : Call} (found : c.calls[s]? = some k) (own : k.purpose = .shutdown) {x : Milestone}
    (inside : x ∈ ms) (looked : x.call = s) (due : ∀ limit, x = .asked s limit → limit ≤ c.clock)
    {round : List Move} (isRound : Round s round) (streams : ∀ m ∈ round, ∀ state, m ≠ .process state)
    (going : 0 < k.phase.toGo) :
    ∃ k', (c.run round).calls[s]? = some k' ∧ k'.purpose = k.purpose ∧ k'.phase.toGo < k.phase.toGo := by
  obtain ⟨before, between, after, rfl⟩ := isRound
  have apart (m : Move) (has : m ∈ before ∨ m = .turn (.timer s) ∨ m ∈ between) : ∀ state, m ≠ .process state := by
    refine streams m ?_
    rcases has with has | has | has <;> simp [has]
  -- The places of the round: before the turn of the timer, after it, and before the turn of the shutdown.
  have followed₁ := followed.run before fun m has => apart m (.inl has)
  obtain ⟨k₁, found₁, purpose₁, less₁⟩ := toGo_run found before
  obtain ⟨k₂, found₂, purpose₂, less₂⟩ := toGo_run found₁ [.turn (.timer s)]
  have followed₂ := followed₁.run [.turn (.timer s)] fun m has => apart m (.inr (.inl (List.mem_singleton.1 has)))
  obtain ⟨k₃, found₃, purpose₃, less₃⟩ := toGo_run found₂ between
  have followed₃ := followed₂.run between fun m has => apart m (.inr (.inr has))
  obtain ⟨k₄, found₄, purpose₄, less₄⟩ := toGo_run found₃ [.turn (.call s)]
  obtain ⟨k₅, found₅, purpose₅, less₅⟩ := toGo_run found₄ after
  have all : c.run (before ++ .turn (.timer s) :: (between ++ .turn (.call s) :: after)) =
      ((((c.run before).run [.turn (.timer s)]).run between).run [.turn (.call s)]).run after := by
    simp [Connection.run]
  refine ⟨k₅, by rw [all]; exact found₅, ?_, ?_⟩
  · rw [purpose₅, purpose₄, purpose₃, purpose₂, purpose₁]
  by_contra still
  have own₁ := purpose₁.trans own
  cases step : (((c.run before).run [.turn (.timer s)]).run between).stepCall? s with
  | some c' =>
    obtain ⟨l, l', start, last, less⟩ := (stepCall?_own step).nearer
    have moved : (((c.run before).run [.turn (.timer s)]).run between).run [.turn (.call s)] = c' := by
      rw [run_singleton, move_call, step, Option.getD_some]
    rw [moved] at found₄
    cases found₃.symm.trans start
    cases found₄.symm.trans last
    omega
  | none =>
    rcases stuck_call found₃ step with ⟨result, finished⟩ | ⟨n, waits, unanswered⟩ | ⟨_, _, running⟩
    · have none : k₃.phase.toGo = 0 := by rw [finished]; rfl
      omega
    · have seven : k₃.phase.toGo = 7 := by rw [waits]; rfl
      have same : k₁.phase.toGo = 7 := by omega
      obtain ⟨m, start⟩ := withdrawing_or_waiting_of_toGo same
      -- An answer that had been there before would be there still.
      have free : k₁.phase = .withdrawing m ∨ k₁.phase = .waiting m ∧ k₁.answer = none := by
        refine start.imp_right fun start => ⟨start, ?_⟩
        cases answer : k₁.answer with
        | none => rfl
        | some r =>
          have kept := followed₁.tracked.answered_still found₁ start answer (List.append_assoc _ _ _ ▸ followed₃.tracked)
            found₃ waits
          rw [unanswered] at kept
          contradiction
      have ready : k₁.deadline ≤ (c.run before).clock := by
        refine Nat.le_trans ?_ (clock_run c before)
        cases followed₁.standing s k₁ found₁ own₁ with
        | asking _ _ only =>
          exact due _ (only x (List.mem_append_left _ inside) looked)
        | begun phase | telling phase | leaving _ phase | back _ phase =>
          rcases start with start | start <;> rw [start] at phase <;> contradiction
      obtain ⟨c', ring⟩ := stepTimer?_due found₁ own₁ ready free
      obtain ⟨l, l', begin, last, less⟩ := (stepTimer?_own ring).nearer
      have moved : (c.run before).run [.turn (.timer s)] = c' := by
        rw [run_singleton, move_timer, ring, Option.getD_some]
      rw [moved] at found₂
      cases found₁.symm.trans begin
      cases found₂.symm.trans last
      omega
    · rw [followed₃.absent] at running
      contradiction

/-- After as many rounds as it may need turns, a shutdown whose time is up has returned. -/
theorem Followed.rounds {t : List Event} {ms : List Milestone} {c : Connection} (followed : Followed t ms c)
    {s : Nat} {k : Call} (found : c.calls[s]? = some k) (own : k.purpose = .shutdown) {x : Milestone}
    (inside : x ∈ ms) (looked : x.call = s) (due : ∀ limit, x = .asked s limit → limit ≤ c.clock)
    (rounds : List (List Move))
    (all : ∀ round ∈ rounds, Round s round ∧ ∀ m ∈ round, ∀ state, m ≠ .process state)
    (enough : k.phase.toGo ≤ rounds.length) : ∃ result, (c.run rounds.flatten).result? s = some result := by
  induction rounds generalizing t ms c k with
  | nil =>
    obtain ⟨result, finished⟩ := finished_of_toGo (Nat.le_zero.1 enough)
    exact ⟨result, result?_of_finished found finished⟩
  | cons round rest ih =>
    obtain ⟨isRound, streams⟩ := all round List.mem_cons_self
    have next : ∃ k', (c.run round).calls[s]? = some k' ∧ k'.purpose = k.purpose ∧
        k'.phase.toGo ≤ rest.length := by
      rw [List.length_cons] at enough
      by_cases going : 0 < k.phase.toGo
      · obtain ⟨k', found', purpose, less⟩ := followed.round found own inside looked due isRound streams going
        exact ⟨k', found', purpose, by omega⟩
      · obtain ⟨k', found', purpose, less⟩ := toGo_run found round
        exact ⟨k', found', purpose, by omega⟩
    obtain ⟨k', found', purpose, left⟩ := next
    rw [List.flatten_cons, run_append]
    exact ih (followed.run round streams) found' (purpose.trans own) (List.mem_append_left _ inside)
      (fun limit same => Nat.le_trans (due limit same) (clock_run c round))
      (fun other has => all other (List.mem_cons_of_mem _ has)) left

private theorem Followed.over {t : List Event} {ms : List Milestone} {c : Connection} (followed : Followed t ms c)
    {s : Nat}
    {k : Call} (found : c.calls[s]? = some k) (own : k.purpose = .shutdown) {result : Except ClientError Json}
    (finished : k.phase = .finished result) : Over c :=
  ⟨followed.tracked.consistent, followed.closing, .inr ⟨s, k, result, found, own, finished⟩⟩

/-- With its last turn a shutdown drains the table and returns. -/
theorem cancelling_turn {c : Connection} {s : Nat} {k : Call} {failure : Option String} (found : c.calls[s]? = some k)
    (phase : k.phase = .cancelling failure) :
    c.event? (.turn (.call s)) = some (.drained ErrorCode.requestCancelled "Server shutdown") ∧
      (c.move (.turn (.call s))).pending = [] ∧
        ∃ k', (c.move (.turn (.call s))).calls[s]? = some k' ∧ k'.purpose = k.purpose ∧
          k'.phase = .finished (verdict failure) := by
  have event : c.event? (.turn (.call s)) = some (.drained ErrorCode.requestCancelled "Server shutdown") := by
    change c.callEvent? s = _
    rw [callEvent?, found, Option.map_some, phase]
  have change := (c.move_change (.turn (.call s))).1
  rw [event] at change
  obtain ⟨k', found', purpose, advance⟩ := change.advances found
  refine ⟨event, ?_, k', found', purpose, ?_⟩
  · cases change with
    | drained _ _ _ pending => exact pending
  · cases advance with
    | drained _ _ last result start finished _ fair =>
      rw [phase] at start
      cases start
      rw [finished, fair]
    | stayed _ same =>
      cases step : c.stepCall? s with
      | none =>
        rcases stuck_call found step with ⟨_, other⟩ | ⟨_, other, _⟩ | ⟨_, other, _⟩ <;> cases phase.symm.trans other
      | some c' =>
        obtain ⟨l, l', before, after, less⟩ := (stepCall?_own step).nearer
        rw [move_call, step, Option.getD_some] at found'
        cases found.symm.trans before
        cases found'.symm.trans after
        rw [same] at less
        exact absurd less (Nat.lt_irrefl _)

/-- What is pending when a shutdown drains the table comes back with an error. -/
theorem Followed.cancelled {t : List Event} {ms : List Milestone} {c : Connection} (followed : Followed t ms c)
    {s : Nat} {k : Call} {failure : Option String} (found : c.calls[s]? = some k) (own : k.purpose = .shutdown)
    (phase : k.phase = .cancelling failure) {n i : Nat} {l : Call} (inside : (n, i) ∈ c.pending)
    (present : c.calls[i]? = some l) (request : l.purpose.tells = false) (more : List Move)
    (streams : ∀ m ∈ more, ∀ state, m ≠ .process state)
    (turns : l.phase.toGo ≤ more.countP (Move.isTurnOf i)) :
    ∃ e, ((c.move (.turn (.call s))).run more).result? i = some (.error e) := by
  obtain ⟨event, _, k', found', purpose, finished⟩ := cancelling_turn found phase
  have streams' : ∀ m ∈ Move.turn (.call s) :: more, ∀ state, m ≠ .process state :=
    List.forall_mem_cons.2 ⟨nofun, streams⟩
  have followed' := followed.run _ streams'
  have first : FirstAnswer (t ++ c.trace (.turn (.call s) :: more)) i n
      (some (cancellation n ErrorCode.requestCancelled "Server shutdown")) := by
    have drained := (followed.tracked.answered.pending n i inside).concat
      (.drained ErrorCode.requestCancelled "Server shutdown")
    rw [trace, event, Option.toList_some, ← List.append_assoc]
    exact drained.append _
  obtain ⟨l₁, present₁, purpose₁, _⟩ := (c.move_change (.turn (.call s))).1.goes present
  have left := Nat.le_trans (toGo_move present (.turn (.call s)) present₁) turns
  have moved := followed.move (.turn (.call s)) nofun
  obtain ⟨l₂, result, present₂, purpose₂, back⟩ :=
    (moved.over found' (purpose.trans own) finished).finishes moved.absent present₁ more streams left
  have error : ∃ e, result = .error e := by
    by_cases shutdown : l.purpose = .shutdown
    · have own₂ : l₂.purpose = .shutdown := by rw [purpose₂, purpose₁, shutdown]
      have standing := followed'.standing i l₂ present₂ own₂
      obtain ⟨reason, failed⟩ := standing.fails (fun spared => spared.outside n first.entered)
        ((Failed.answered n _ _ first rfl).unacknowledged followed'.tracked) back
      exact ⟨_, failed⟩
    · have asks : l.purpose.asks = true := by
        cases purpose : l.purpose <;> rw [purpose] at request shutdown <;> first | rfl | contradiction
      have bad (r : Response) (other : FirstAnswer (t ++ c.trace (.turn (.call s) :: more)) i n (some r)) :
          ∃ e, resultOf r = .error e := by
        cases (first.unique followed'.tracked.entered.numbers other).2
        exact ⟨_, rfl⟩
      obtain ⟨l₃, present₃, _, fated⟩ := fated_run followed.tracked followed.unsent present asks
        (Fated.of_pending followed.tracked present asks inside).1 _ bad
      cases present₂.symm.trans present₃
      cases fated with
      | held held =>
        rw [back] at held
        contradiction
      | answered r first' finished' =>
        obtain ⟨e, result⟩ := bad r first'
        cases back.symm.trans finished'
        exact ⟨e, result⟩
      | refused _ finished' =>
        cases back.symm.trans finished'
        exact ⟨_, rfl⟩
  obtain ⟨e, rfl⟩ := error
  exact ⟨e, result?_of_finished present₂ back⟩

private theorem not_asked_of_terminated {c : Connection} (gone : c.terminated = true) (more : List Move)
    (s limit : Nat) :
    .asked s limit ∉ c.milestones more := by
  induction more generalizing c with
  | nil => exact List.not_mem_nil
  | cons m rest ih =>
    intro inside
    rcases List.mem_append.1 inside with now | later
    · have given := Option.mem_toList.1 now
      obtain ⟨k, found⟩ := milestone?_found given
      rcases milestone?_own given found with ⟨rfl, deciding⟩ | ⟨_, _, same, _⟩
      · rw [milestone?, found, Option.map_some, deciding] at given
        dsimp only at given
        rw [if_pos gone] at given
        exact Milestone.noConfusion (Option.some.inj given)
      · contradiction
    · exact ih ((c.move_course m).1.terminated gone) later

private theorem Standing.unasked {t : List Event} {ms : List Milestone} {s : Nat} {k : Call}
    (standing : Standing t ms s k)
    (unasked : ∀ limit, .asked s limit ∉ ms) {result : Except ClientError Json}
    (finished : k.phase = .finished result) : result = .ok .null := by
  cases standing with
  | back failure phase why =>
    cases finished.symm.trans phase
    cases why with
    | spared | acknowledged => rfl
    | failed reason limit asked => exact absurd asked (unasked limit)
  | begun phase | asking phase | telling phase | leaving _ phase =>
    rw [finished] at phase
    contradiction

/-- What becomes of a shutdown and leaves behind, after a run from `start` with these moves. -/
structure Parted (start : Connection) (moves : List Move) (s : Nat) (k : Call) : Prop where
  /-- A shutdown returns well if and only if it has found that the reader had ended, or its request was
  answered without an error before its time was up. -/
  verdict : ∀ result, k.phase = .finished result →
    (result = .ok .null ↔ .spared s ∈ start.milestones moves ∨
      Acknowledged (start.trace moves) (start.milestones moves) s) ∧
    (result = .ok .null ∨ ∃ reason, result = .error (.shutdown reason))
  /-- It is spared when the reader had ended as it was called. -/
  spared : ∀ before after, moves = before ++ .begun .shutdown :: after →
    (start.run before).calls.length = s → (start.run before).terminated = true →
      ∀ result, k.phase = .finished result → result = .ok .null
  /-- It does not give up before its time is up, nor after an answer without an error. -/
  patient : (∀ time, .expired s time ∈ start.milestones moves →
      ∃ limit ≤ time, .asked s limit ∈ start.milestones moves) ∧
    (Acknowledged (start.trace moves) (start.milestones moves) s → ∀ more,
      (∀ m ∈ more, ∀ state, m ≠ .process state) →
        Acknowledged (start.trace (moves ++ more)) (start.milestones (moves ++ more)) s)
  /-- It returns, at the latest some rounds after its time is up. -/
  returns : .spared s ∈ start.milestones moves ∨
      (∃ limit ≤ (start.run moves).clock, .asked s limit ∈ start.milestones moves) →
    ∀ rounds : List (List Move), (∀ round ∈ rounds, Round s round ∧ ∀ m ∈ round, ∀ state, m ≠ .process state) →
      k.phase.toGo ≤ rounds.length → ∃ result, ((start.run moves).run rounds.flatten).result? s = some result
  /-- It takes its leave of the server only when it was acknowledged. -/
  leave : ∀ entry, (start.run moves).put? (.turn (.call s)) = some entry → entry = .close ∨
    (∃ n, entry = .message (Message.request (.new (UInt64.ofNat n) "shutdown" (some .null))).text) ∨
    (entry = .message (Message.notification (.new "exit" (some .null))).text ∧
      Acknowledged (start.trace moves) (start.milestones moves) s)
  /-- As it returns it empties the table, and the requests in it come back with an error. -/
  drained : ∀ failure, k.phase = .cancelling failure →
    ((start.run moves).move (.turn (.call s))).pending = [] ∧
    (∃ result, ((start.run moves).move (.turn (.call s))).result? s = some result) ∧
    ∀ (n i : Nat) (l : Call) (more : List Move), (n, i) ∈ (start.run moves).pending →
      (start.run moves).calls[i]? = some l → l.purpose.tells = false →
        (∀ m ∈ more, ∀ state, m ≠ .process state) → l.phase.toGo ≤ more.countP (Move.isTurnOf i) →
          ∃ e, (((start.run moves).move (.turn (.call s))).run more).result? i = some (.error e)
  /-- Then the queue is closed. -/
  closed : ∀ result, k.phase = .finished result → (start.run moves).closed = true
  /-- A call that begins then, or a request that has not come to the table by then, sends nothing; a
  notification is refused and a request comes back with an error. -/
  late : ∀ result, k.phase = .finished result → ∀ (i : Nat) (more : List Move) (l : Call),
    (∀ l, (start.run moves).calls[i]? = some l → l.purpose.asks = true ∧ l.phase.isEarly = true) →
      ((start.run moves).run more).calls[i]? = some l →
        ((start.run moves).run more).outbound? (.call i) = none ∧
        (∀ n, .sent i n ∉ (start.run moves).trace more) ∧
        ∀ last, l.phase = .finished last → (l.purpose.tells = true → last = .error .notConnected) ∧
          (l.purpose.asks = true → ∃ e, last = .error e)
  /-- Every call comes back, after turns of its own. -/
  all : ∀ result, k.phase = .finished result → ∀ (i : Nat) (l : Call) (more : List Move),
    (start.run moves).calls[i]? = some l → (∀ m ∈ more, ∀ state, m ≠ .process state) →
      l.phase.toGo ≤ more.countP (Move.isTurnOf i) →
        ∃ last, ((start.run moves).run more).result? i = some last
  /-- No request is left in the table when all have come back. -/
  empty : ∀ result, k.phase = .finished result →
    (∀ l ∈ (start.run moves).calls, ∃ last, l.phase = .finished last) → (start.run moves).pending = []

private theorem Late.of_early {k : Call} (asks : k.purpose.asks = true) (early : k.phase.isEarly = true) :
    Late k := by
  refine .asking ?_ ?_
  · cases purpose : k.purpose <;> rw [purpose] at asks <;> first | rfl | contradiction
  · cases phase : k.phase <;> rw [phase] at early <;> first | rfl | contradiction

/-- In every run over a pair of streams, a shutdown comes out and leaves the connection as it should. -/
theorem run_parted (options : ClientOptions) (grace : Nat) (moves : List Move)
    (streams : ∀ m ∈ moves, ∀ state, m ≠ .process state) (s : Nat) (k : Call)
    (found : ((connect options grace).run moves).calls[s]? = some k) (own : k.purpose = .shutdown) :
    Parted (connect options grace) moves s k := by
  have followed := followed_run options grace streams
  have standing := followed.standing s k found own
  have shut {result : Except ClientError Json} (finished : k.phase = .finished result) :
      ((connect options grace).run moves).closed = true :=
    followed.closing.shut s k found (.inr ⟨own, result, finished⟩)
  exact {
    verdict := fun result => standing.result followed.tracked
    spared := by
      rintro before after rfl length gone result finished
      refine standing.unasked (fun limit inside => ?_) finished
      have earlier := followed_run options grace fun m has => streams m (List.mem_append_left _ has)
      rw [milestones, gather_append] at inside
      rcases List.mem_append.1 inside with old | new
      · -- The shutdown was not there before it was called.
        exact absurd (earlier.begun _ old) (Nat.not_lt.2 (Nat.le_of_eq length))
      · exact not_asked_of_terminated gone _ _ _ new
    patient := by
      refine ⟨fun time => followed.due s time, fun acknowledged more apart => ?_⟩
      rw [trace_append, milestones, gather_append]
      exact followed.acknowledged_run acknowledged more apart
    returns := by
      rintro (inside | ⟨limit, due, inside⟩) rounds all enough
      · exact followed.rounds found own inside rfl (fun _ same => Milestone.noConfusion same) rounds all enough
      · refine followed.rounds found own inside rfl (fun other same => ?_) rounds all enough
        cases same
        exact due
    leave := by
      intro entry put
      obtain ⟨p, same, _, had⟩ := put?_eq_some put
      cases same
      rw [outbound?_call found] at had
      exact standing.outbound? own had
    drained := by
      intro failure phase
      obtain ⟨_, pending, k', found', _, finished⟩ := cancelling_turn found phase
      refine ⟨pending, ⟨_, result?_of_finished found' finished⟩, fun n i l more inside present request => ?_⟩
      exact followed.cancelled found own phase inside present request more
    closed := fun result => shut
    late := by
      intro result finished i more l early present
      have start : Shut (fun j => ∀ l, ((connect options grace).run moves).calls[j]? = some l → Late l)
          ((connect options grace).run moves) := ⟨shut finished, followed.shutdowns, fun j l all => all l⟩
      have latecomer : ∀ l, ((connect options grace).run moves).calls[i]? = some l → Late l :=
        fun l has => .of_early (early l has).1 (early l has).2
      obtain ⟨later, silent⟩ := start.run more
      have late := later.late i l latecomer present
      exact ⟨(outbound?_call present).trans late.outbound?, fun n => silent i n latecomer, fun last => late.result⟩
    all := by
      intro result finished i l more present apart turns
      obtain ⟨l', last, present', _, back⟩ :=
        (followed.over found own finished).finishes followed.absent present more apart turns
      exact ⟨last, result?_of_finished present' back⟩
    empty := fun result finished => (followed.over found own finished).empty }

def dismissal : List Move :=
  [.begun (.request "textDocument/hover" .null), .begun .shutdown] ++
    List.replicate 5 (.turn (.call 0)) ++ List.replicate 7 (.turn (.call 1)) ++
    [.receive (Frame.encode (Message.response (.success (.number 2) .null)).text), .turn .reader] ++
    List.replicate 7 (.turn (.call 1))

/-- The server has acknowledged the shutdown, and the request comes back in its next turn. -/
theorem run_parted_dismissal :
    let start := connect ⟨"lean4", "Lean 4", [], none⟩ 5000
    (start.run dismissal).result? 1 = some (.ok .null) ∧
      Acknowledged (start.trace dismissal) (start.milestones dismissal) 1 ∧
      ∃ last, ((start.run dismissal).run (List.replicate 7 (.turn (.call 0)))).result? 0 = some last := by
  intro start
  have back : (start.run dismissal).result? 1 = some (.ok .null) := by decide +kernel
  have purpose : (start.run dismissal).calls[1]?.map Call.purpose = some .shutdown := by decide +kernel
  have streams : ∀ m ∈ dismissal, ∀ state, m ≠ .process state := by simp [dismissal]
  obtain ⟨k, found, finished⟩ := finished_of_result? back
  rw [found] at purpose
  have parted := run_parted ⟨"lean4", "Lean 4", [], none⟩ 5000 dismissal streams 1 k found (Option.some.inj purpose)
  have unspared : .spared 1 ∉ start.milestones dismissal := by decide +kernel
  have acknowledged := ((parted.verdict _ finished).1.1 rfl).resolve_left unspared
  refine ⟨back, acknowledged, ?_⟩
  have waits : (start.run dismissal).calls[0]?.map (fun l => l.phase.toGo) = some 7 := by decide +kernel
  obtain ⟨l, present, toGo⟩ := Option.map_eq_some_iff.1 waits
  exact parted.all _ finished 0 l _ present (by simp) (by rw [toGo]; decide)

end LanguageClient.Connection
