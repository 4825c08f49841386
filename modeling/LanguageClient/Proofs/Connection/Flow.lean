import LanguageClient.Proofs.Connection.Ending

/-! The way out of a connection. Whoever has a message for the server looks first whether the queue is
closed and then puts the message into it; whoever closes the queue sets the flag and then puts the
closing mark into it. Every move of every party does one such thing, or takes the writer on, or leaves
the way out alone. -/
namespace LanguageClient

namespace CallPhase

def outbound? (purpose : Purpose) : CallPhase → Option Outbound
  | .sending n => some (.message (Message.request (.new (UInt64.ofNat n)
      (Connection.requestOf purpose).1 (some (Connection.requestOf purpose).2))).text)
  | .noticeSending method params =>
    some (.message (Message.notification (.new method (some params))).text)
  | .marking _ => some .close
  | _ => none

end CallPhase

def Call.outbound? (k : Call) : Option Outbound := k.phase.outbound? k.purpose

def ReaderPhase.outbound? : ReaderPhase → Option Outbound
  | .replySending _ text => some (.message text)
  | .marking => some .close
  | _ => none

def ReaderPhase.isGone : ReaderPhase → Bool
  | .closing => true
  | .marking => true
  | .cancelling => true
  | .ended => true
  | _ => false

structure Outlet where
  queue : List Outbound
  wire : List String
  writer : WriterPhase
  closed : Bool
  peerReads : Bool

def Outlet.put (o : Outlet) (entry : Outbound) : Outlet :=
  if o.writer = .ended then o else { o with queue := o.queue ++ [entry] }

theorem Outlet.put_of_ended {o : Outlet} {entry : Outbound} (ended : o.writer = .ended) : o.put entry = o :=
  if_pos ended

theorem Outlet.put_of_going {o : Outlet} {entry : Outbound} (going : o.writer ≠ .ended) :
    o.put entry = { o with queue := o.queue ++ [entry] } :=
  if_neg going

namespace Connection

def outlet (c : Connection) : Outlet := ⟨c.queue, c.wire, c.writer, c.closed, c.peerReads⟩

def outbound? (c : Connection) : Party → Option Outbound
  | .reader => c.reader.outbound?
  | .call i => c.calls[i]?.bind Call.outbound?
  | .writer => none
  | .timer _ => none

inductive Flow (c c' : Connection) : Move → Prop
  | still (m : Move) (free : ∀ p, m = .turn p → c.outbound? p = none) (outlet : c'.outlet = c.outlet)
      (entries : ∀ p, c'.outbound? p = c.outbound? p) : Flow c c' m
  | looked (p : Party) (text : String) (free : c.outbound? p = none) (isOpen : c.closed = false)
      (outlet : c'.outlet = c.outlet) (own : c'.outbound? p = some (.message text))
      (others : ∀ q, q ≠ p → c'.outbound? q = c.outbound? q) : Flow c c' (.turn p)
  | shut (p : Party) (free : c.outbound? p = none) (isOpen : c.closed = false)
      (outlet : c'.outlet = { c.outlet with closed := true }) (own : c'.outbound? p = some .close)
      (others : ∀ q, q ≠ p → c'.outbound? q = c.outbound? q) : Flow c c' (.turn p)
  | put (p : Party) (entry : Outbound) (had : c.outbound? p = some entry)
      (outlet : c'.outlet = c.outlet.put entry) (own : c'.outbound? p = none)
      (others : ∀ q, q ≠ p → c'.outbound? q = c.outbound? q) : Flow c c' (.turn p)
  | wrote (text : String) (rest : List Outbound) (ready : c.writer = .ready)
      (reads : c.peerReads = true) (queue : c.queue = .message text :: rest)
      (outlet : c'.outlet = { c.outlet with queue := rest, wire := c.wire ++ [text] })
      (entries : ∀ p, c'.outbound? p = c.outbound? p) : Flow c c' (.turn .writer)
  | failed (text : String) (rest : List Outbound) (ready : c.writer = .ready)
      (deaf : c.peerReads = false) (queue : c.queue = .message text :: rest)
      (outlet : c'.outlet = { c.outlet with queue := rest, writer := .finishing })
      (entries : ∀ p, c'.outbound? p = c.outbound? p) : Flow c c' (.turn .writer)
  | took (rest : List Outbound) (ready : c.writer = .ready) (queue : c.queue = .close :: rest)
      (outlet : c'.outlet = { c.outlet with queue := rest, writer := .finishing })
      (entries : ∀ p, c'.outbound? p = c.outbound? p) : Flow c c' (.turn .writer)
  | stopped (finishing : c.writer = .finishing)
      (outlet : c'.outlet = { c.outlet with queue := [], writer := .ended })
      (entries : ∀ p, c'.outbound? p = c.outbound? p) : Flow c c' (.turn .writer)
  | dropped (outlet : c'.outlet = { c.outlet with peerReads := false })
      (entries : ∀ p, c'.outbound? p = c.outbound? p) : Flow c c' .dropPeer

@[simp] theorem outbound?_afterResult (own purpose : Purpose) (result : Except ClientError Json) :
    (afterResult purpose result).outbound? own = none := by
  unfold afterResult
  repeat (split <;> try rfl)

@[simp] theorem outbound?_afterTelling (own purpose : Purpose) (result : Except ClientError Json) :
    (afterTelling purpose result).outbound? own = none := by
  unfold afterTelling
  split <;> rfl

section Turn
variable {c c' : Connection} {i : Nat} {k k' : Call}

theorem outbound?_call (found : c.calls[i]? = some k) : c.outbound? (.call i) = k.outbound? := by
  rw [outbound?, found]
  rfl

private theorem outbound?_own (found : c.calls[i]? = some k) (calls : c'.calls = c.calls.set i k') :
    c'.outbound? (.call i) = k'.outbound? := by
  have inRange := (List.getElem?_eq_some_iff.1 found).1
  exact outbound?_call (by rw [calls, List.getElem?_set_self inRange])

private theorem outbound?_others (calls : c'.calls = c.calls.set i k') (reader : c'.reader = c.reader) (q : Party)
    (other : q ≠ .call i) : c'.outbound? q = c.outbound? q := by
  cases q with
  | reader => exact congrArg ReaderPhase.outbound? reader
  | call j =>
    have differs : i ≠ j := fun same => other (congrArg Party.call same.symm)
    rw [outbound?, outbound?, calls, List.getElem?_set_ne differs]
  | writer | timer => rfl

/-- A step of a call that has to do with neither the queue nor its flag. -/
theorem Flow.passed (found : c.calls[i]? = some k) (before : k.outbound? = none)
    (after : k'.outbound? = none) (outlet : c'.outlet = c.outlet)
    (calls : c'.calls = c.calls.set i k') (reader : c'.reader = c.reader) : Flow c c' (.turn (.call i)) := by
  have free : c.outbound? (.call i) = none := (outbound?_call found).trans before
  refine .still _ (fun p same => by cases same; exact free) outlet fun q => ?_
  by_cases own : q = .call i
  · subst own
    rw [free, outbound?_own found calls, after]
  · exact outbound?_others calls reader q own

private theorem Flow.lookedBy {text : String} (found : c.calls[i]? = some k)
    (before : k.outbound? = none) (isOpen : c.closed = false) (outlet : c'.outlet = c.outlet)
    (calls : c'.calls = c.calls.set i k') (reader : c'.reader = c.reader)
    (after : k'.outbound? = some (.message text)) : Flow c c' (.turn (.call i)) :=
  .looked _ text ((outbound?_call found).trans before) isOpen outlet ((outbound?_own found calls).trans after)
    (outbound?_others calls reader)

private theorem Flow.shutBy (found : c.calls[i]? = some k) (before : k.outbound? = none)
    (isOpen : c.closed = false) (outlet : c'.outlet = { c.outlet with closed := true })
    (calls : c'.calls = c.calls.set i k') (reader : c'.reader = c.reader)
    (after : k'.outbound? = some .close) : Flow c c' (.turn (.call i)) :=
  .shut _ ((outbound?_call found).trans before) isOpen outlet ((outbound?_own found calls).trans after)
    (outbound?_others calls reader)

private theorem Flow.putBy {entry : Outbound} (found : c.calls[i]? = some k)
    (before : k.outbound? = some entry) (outlet : c'.outlet = c.outlet.put entry)
    (calls : c'.calls = c.calls.set i k') (reader : c'.reader = c.reader)
    (after : k'.outbound? = none) : Flow c c' (.turn (.call i)) :=
  .put _ entry ((outbound?_call found).trans before) outlet ((outbound?_own found calls).trans after)
    (outbound?_others calls reader)

end Turn

private theorem bind_outbound?_modify {calls : List Call} {i : Nat} {f : Call → Call}
    (kept : ∀ k, calls[i]? = some k → (f k).outbound? = k.outbound?) (j : Nat) :
    (calls.modify i f)[j]?.bind Call.outbound? = calls[j]?.bind Call.outbound? := by
  rw [List.getElem?_modify]
  cases found : calls[j]? with
  | none => rfl
  | some k =>
    by_cases same : i = j
    · subst same
      simpa using kept k found
    · simp [same]

/-- Draining the table answers calls; it takes none of them on. -/
theorem bind_outbound?_drainCalls (pending : List (Nat × Nat)) (code : Int32) (reason : String)
    (calls : List Call) (j : Nat) :
    (drainCalls pending code reason calls)[j]?.bind Call.outbound? = calls[j]?.bind Call.outbound? := by
  induction pending generalizing calls with
  | nil => rfl
  | cons entry rest ih =>
    refine (ih _).trans (bind_outbound?_modify (f := fun k =>
      { k with answer := some (cancellation entry.1 code reason) }) (fun _ _ => rfl) j)

structure Apart (c c' : Connection) : Prop where
  reader : c'.reader = c.reader
  terminated : c'.terminated = c.terminated
  process : c'.process = c.process ∨ c'.process = .absent
  inbox : c'.inbox = c.inbox
  inboxEnded : c'.inboxEnded = c.inboxEnded
  clock : c'.clock = c.clock

private theorem stepCall?_flow {c c' : Connection} {i : Nat} (step : c.stepCall? i = some c') :
    Flow c c' (.turn (.call i)) ∧ Apart c c' := by
  unfold stepCall? at step
  cases found : c.calls[i]? with
  | none => simp [found] at step
  | some k =>
    obtain ⟨purpose, phase, answer, deadline⟩ := k
    rw [found] at step
    cases phase with
    | announcing =>
      cases step
      exact ⟨.passed found rfl rfl rfl (modify_found found _) rfl, rfl, rfl, .inl rfl, rfl, rfl, rfl⟩
    | deciding =>
      dsimp only [Option.bind_eq_bind, Option.bind_some] at step
      split at step <;> cases step
      · exact ⟨.passed found rfl rfl rfl (modify_found found _) rfl, rfl, rfl, .inl rfl, rfl, rfl, rfl⟩
      · exact ⟨.passed found rfl rfl rfl (modify_twice found _ _) rfl, rfl, rfl, .inl rfl, rfl, rfl, rfl⟩
    | checking =>
      dsimp only [Option.bind_eq_bind, Option.bind_some] at step
      split at step
      · obtain ⟨log, welcome, after⟩ := c.afterRequest_eq i purpose (.error .serverTerminated)
        rw [after] at step
        cases step
        exact ⟨.passed found rfl (by simp [Call.outbound?]) rfl
          (modify_found found _) rfl, rfl, rfl, .inl rfl, rfl, rfl, rfl⟩
      · cases step
        exact ⟨.passed found rfl rfl rfl (modify_found found _) rfl, rfl, rfl, .inl rfl, rfl, rfl, rfl⟩
    | numbering | registering n =>
      cases step
      exact ⟨.passed found rfl rfl rfl (modify_found found _) rfl, rfl, rfl, .inl rfl, rfl, rfl, rfl⟩
    | probing n =>
      dsimp only [Option.bind_eq_bind, Option.bind_some] at step
      split at step
      · cases step
        exact ⟨.passed found rfl rfl rfl (modify_found found _) rfl, rfl, rfl, .inl rfl, rfl, rfl, rfl⟩
      · next isOpen =>
        cases step
        exact ⟨.lookedBy found rfl (by simpa using isOpen) rfl
          (modify_found found _) rfl rfl, rfl, rfl, .inl rfl, rfl, rfl, rfl⟩
    | sending n =>
      dsimp only [Option.bind_eq_bind, Option.bind_some, enqueue?] at step
      by_cases ended : c.writer = .ended
      · simp only [if_pos ended] at step
        cases step
        exact ⟨.putBy found rfl (Outlet.put_of_ended (o := c.outlet) ended).symm
          (modify_found found _) rfl rfl, rfl, rfl, .inl rfl, rfl, rfl, rfl⟩
      · simp only [if_neg ended] at step
        cases step
        exact ⟨.putBy found rfl (Outlet.put_of_going (o := c.outlet) ended).symm
          (modify_found found _) rfl rfl, rfl, rfl, .inl rfl, rfl, rfl, rfl⟩
    | withdrawing n =>
      dsimp only [Option.bind_eq_bind, Option.bind_some] at step
      obtain ⟨log, welcome, after⟩ := afterRequest_eq
        { c with pending := c.pending.filter fun entry => entry.1 ≠ n } i purpose (.error .notConnected)
      rw [after] at step
      cases step
      exact ⟨.passed found rfl (by simp [Call.outbound?]) rfl
        (modify_found found _) rfl, rfl, rfl, .inl rfl, rfl, rfl, rfl⟩
    | waiting n =>
      cases answer with
      | none => contradiction
      | some r =>
        dsimp only [Option.bind_eq_bind, Option.bind_some] at step
        obtain ⟨log, welcome, after⟩ := c.afterRequest_eq i purpose (resultOf r)
        rw [after] at step
        cases step
        exact ⟨.passed found rfl (by simp [Call.outbound?]) rfl
          (modify_found found _) rfl, rfl, rfl, .inl rfl, rfl, rfl, rfl⟩
    | noticeProbing method params =>
      dsimp only [Option.bind_eq_bind, Option.bind_some] at step
      split at step
      · rw [afterNotice_eq] at step
        cases step
        exact ⟨.passed found rfl (by simp [Call.outbound?]) rfl
          (modify_found found _) rfl, rfl, rfl, .inl rfl, rfl, rfl, rfl⟩
      · next isOpen =>
        cases step
        exact ⟨.lookedBy found rfl (by simpa using isOpen) rfl
          (modify_found found _) rfl rfl, rfl, rfl, .inl rfl, rfl, rfl, rfl⟩
    | noticeSending method params =>
      dsimp only [Option.bind_eq_bind, Option.bind_some, enqueue?] at step
      by_cases ended : c.writer = .ended
      · simp only [if_pos ended, afterNotice_eq] at step
        cases step
        exact ⟨.putBy found rfl (Outlet.put_of_ended (o := c.outlet) ended).symm (modify_found found _) rfl
          (outbound?_afterTelling _ _ _), rfl, rfl, .inl rfl, rfl, rfl, rfl⟩
      · simp only [if_neg ended, afterNotice_eq] at step
        cases step
        exact ⟨.putBy found rfl (Outlet.put_of_going (o := c.outlet) ended).symm (modify_found found _) rfl
          (outbound?_afterTelling _ _ _), rfl, rfl, .inl rfl, rfl, rfl, rfl⟩
    | closing failure =>
      dsimp only [Option.bind_eq_bind, Option.bind_some] at step
      split at step
      · cases step
        exact ⟨.passed found rfl rfl rfl (modify_twice found _ _) rfl, rfl, rfl, .inl rfl, rfl, rfl, rfl⟩
      · next isOpen =>
        cases step
        exact ⟨.shutBy found rfl (by simpa using isOpen) rfl
          (modify_twice found _ _) rfl rfl, rfl, rfl, .inl rfl, rfl, rfl, rfl⟩
    | marking failure =>
      dsimp only [Option.bind_eq_bind, Option.bind_some, enqueue?] at step
      by_cases ended : c.writer = .ended
      · simp only [if_pos ended] at step
        cases step
        exact ⟨.putBy found rfl (Outlet.put_of_ended (o := c.outlet) ended).symm
          (modify_found found _) rfl rfl, rfl, rfl, .inl rfl, rfl, rfl, rfl⟩
      · simp only [if_neg ended] at step
        cases step
        exact ⟨.putBy found rfl (Outlet.put_of_going (o := c.outlet) ended).symm
          (modify_found found _) rfl rfl, rfl, rfl, .inl rfl, rfl, rfl, rfl⟩
    | reaping failure =>
      dsimp only [Option.bind_eq_bind, Option.bind_some] at step
      split at step
      · cases step
        exact ⟨.passed found rfl rfl rfl (modify_found found _) rfl, rfl, rfl, .inl rfl, rfl, rfl, rfl⟩
      · cases step
        exact ⟨.passed found rfl rfl rfl (modify_found found _) rfl, rfl, rfl, .inr rfl, rfl, rfl, rfl⟩
      · contradiction
    | cancelling failure =>
      dsimp only [Option.bind_eq_bind, Option.bind_some] at step
      obtain ⟨log, drained⟩ := c.cancelPending_eq ErrorCode.requestCancelled "Server shutdown"
      rw [drained] at step
      cases step
      refine ⟨.still _ (fun p same => ?_) rfl fun q => ?_, rfl, rfl, .inl rfl, rfl, rfl, rfl⟩
      · cases same
        exact outbound?_call found
      · cases q with
        | call j =>
          rw [outbound?, outbound?]
          refine Eq.trans (bind_outbound?_modify (fun k present => ?_) j)
            (bind_outbound?_drainCalls c.pending _ _ c.calls j)
          -- The call that drains the table has nothing to put into the queue, before or after.
          have idle := bind_outbound?_drainCalls c.pending ErrorCode.requestCancelled "Server shutdown" c.calls i
          rw [found] at idle
          exact idle.symm.trans (congrArg (Option.bind · Call.outbound?) present)
        | reader | writer | timer => rfl
    | finished result => contradiction

private theorem stepTimer?_flow {c c' : Connection} {i : Nat} (step : c.stepTimer? i = some c') :
    Flow c c' (.turn (.timer i)) ∧ Apart c c' := by
  have still {k k' : Call} (found : c.calls[i]? = some k) (before : k.outbound? = none)
      (after : k'.outbound? = none) (outlet : c'.outlet = c.outlet)
      (calls : c'.calls = c.calls.set i k') (reader : c'.reader = c.reader) :
      Flow c c' (.turn (.timer i)) := by
    refine .still _ (fun p same => by cases same; rfl) outlet fun q => ?_
    by_cases own : q = .call i
    · subst own
      rw [outbound?_call found, before, outbound?_own found calls, after]
    · exact outbound?_others calls reader q own
  unfold stepTimer? at step
  cases found : c.calls[i]? with
  | none => simp [found] at step
  | some k =>
    rw [found] at step
    dsimp only [Option.bind_eq_bind, Option.bind_some] at step
    split at step
    · contradiction
    · split at step
      · next n phase =>
        cases step
        exact ⟨still found (by rw [Call.outbound?, phase]; rfl) rfl rfl
          (modify_found found _) rfl, rfl, rfl, .inl rfl, rfl, rfl, rfl⟩
      · next n phase =>
        cases step
        exact ⟨still found (by rw [Call.outbound?, phase]; rfl) rfl rfl
          (modify_found found _) rfl, rfl, rfl, .inl rfl, rfl, rfl, rfl⟩
      · next n phase =>
        split at step
        · contradiction
        · cases step
          exact ⟨still found (by rw [Call.outbound?, phase]; rfl) rfl rfl
            (modify_found found _) rfl, rfl, rfl, .inl rfl, rfl, rfl, rfl⟩
      · next failure phase =>
        split at step
        · cases step
          exact ⟨still found (by rw [Call.outbound?, phase]; rfl) rfl rfl (modify_found found _) rfl, rfl, rfl, .inr rfl, rfl, rfl, rfl⟩
        · contradiction
      · contradiction

/-- A notification of the server changes the log and the diagnostics. -/
theorem handleNotification_eq (c : Connection) (n : Notification) : ∃ diagnostics intercepted log,
    c.handleNotification n =
      { c with diagnostics := diagnostics, intercepted := intercepted, log := log } := by
  have noted (d : Connection) (items : List Json) : ∃ log,
      items.foldl (fun d s => d.note .debug (severityNote s)) d = { d with log := log } := by
    induction items generalizing d with
    | nil => exact ⟨_, rfl⟩
    | cons s rest ih => exact ih _
  have stored (d : Connection) (events : List DiagnosticEvent) : ∃ diagnostics log,
      events.foldl store d = { d with diagnostics := diagnostics, log := log } := by
    induction events generalizing d with
    | nil => exact ⟨_, _, rfl⟩
    | cons event rest ih => exact ih _
  unfold handleNotification
  dsimp only
  split
  · obtain ⟨log, met⟩ := noted c (metSeverities (n.params.getD .null))
    rw [met]
    split
    · unfold publish
      dsimp only
      split
      · obtain ⟨_, _, all⟩ := stored { c with log := log, intercepted := _ } _
        exact ⟨_, _, _, all⟩
      · obtain ⟨_, _, all⟩ := stored { c with log := log } _
        exact ⟨_, _, _, all⟩
    · exact ⟨_, _, _, rfl⟩
  · split
    · split <;> exact ⟨_, _, _, rfl⟩
    · exact ⟨_, _, _, rfl⟩

/-- A response changes the table and gives an answer, or changes the log. -/
theorem handleResponse_eq (c : Connection) (r : Response) : ∃ pending log,
    c.handleResponse r = { c with log := log } ∨
      ∃ i, c.handleResponse r = { c with
        pending := pending, calls := c.calls.modify i fun k => { k with answer := some r } } := by
  unfold handleResponse
  cases r.id with
  | none => exact ⟨c.pending, _, .inl rfl⟩
  | some id =>
    dsimp only
    split
    · exact ⟨_, c.log, .inr ⟨_, rfl⟩⟩
    · exact ⟨c.pending, _, .inl rfl⟩

structure Handled (c c' : Connection) : Prop where
  outlet : c'.outlet = c.outlet
  entries : ∀ j : Nat, c'.calls[j]?.bind Call.outbound? = c.calls[j]?.bind Call.outbound?
  reader : c'.reader = c.reader ∨ ∃ method text, c'.reader = .replyProbing method text
  terminated : c'.terminated = c.terminated
  process : c'.process = c.process
  inbox : c'.inbox = c.inbox
  inboxEnded : c'.inboxEnded = c.inboxEnded
  clock : c'.clock = c.clock

theorem handleMessage_handled (c : Connection) (m : Message) : Handled c (c.handleMessage m) := by
  cases m with
  | response r =>
    obtain ⟨pending, log, noted | ⟨i, answered⟩⟩ := c.handleResponse_eq r
    · rw [handleMessage, noted]
      exact ⟨rfl, fun _ => rfl, .inl rfl, rfl, rfl, rfl, rfl, rfl⟩
    · rw [handleMessage, answered]
      exact ⟨rfl, bind_outbound?_modify (fun _ _ => rfl), .inl rfl, rfl, rfl, rfl, rfl, rfl⟩
  | notification n =>
    obtain ⟨diagnostics, intercepted, log, told⟩ := c.handleNotification_eq n
    rw [handleMessage, told]
    exact ⟨rfl, fun _ => rfl, .inl rfl, rfl, rfl, rfl, rfl, rfl⟩
  | request r =>
    unfold handleMessage
    dsimp only
    cases answerRequest r with
    | ok value => exact ⟨rfl, fun _ => rfl, .inr ⟨_, _, rfl⟩, rfl, rfl, rfl, rfl, rfl⟩
    | error e => exact ⟨rfl, fun _ => rfl, .inr ⟨_, _, rfl⟩, rfl, rfl, rfl, rfl, rfl⟩

private theorem Flow.read {c c' : Connection} (before : c.reader.outbound? = none)
    (after : c'.reader.outbound? = none)
    (outlet : c'.outlet = c.outlet)
    (entries : ∀ j : Nat, c'.calls[j]?.bind Call.outbound? = c.calls[j]?.bind Call.outbound?) :
    Flow c c' (.turn .reader) := by
  refine .still _ (fun p same => by cases same; exact before) outlet fun q => ?_
  cases q with
  | reader => exact after.trans before.symm
  | call j => exact entries j
  | writer | timer => rfl

private theorem outbound?_of_calls {c c' : Connection} (calls : c'.calls = c.calls) (q : Party)
    (other : q ≠ .reader) :
    c'.outbound? q = c.outbound? q := by
  cases q with
  | reader => exact absurd rfl other
  | call j => rw [outbound?, outbound?, calls]
  | writer | timer => rfl

private theorem stepReader?_flow {c c' : Connection} (step : c.stepReader? = some c') :
    Flow c c' (.turn .reader) := by
  unfold stepReader? at step
  cases reader : c.reader with
  | reading =>
    have idle : c.reader.outbound? = none := by rw [reader]; rfl
    rw [reader] at step
    dsimp only at step
    split at step
    · contradiction
    · next message rest next =>
      cases step
      have handled := handleMessage_handled { c with inbox := rest } message
      rw [reader] at handled
      refine .read idle ?_ handled.outlet handled.entries
      rcases handled.reader with same | ⟨method, text, replying⟩
      · rw [same]
        rfl
      · rw [replying]
        rfl
    all_goals
      cases step
      exact .read idle rfl rfl fun _ => rfl
  | replyProbing method text =>
    rw [reader] at step
    dsimp only at step
    split at step
    · cases step
      exact .read (by rw [reader]; rfl) rfl rfl fun _ => rfl
    · next isOpen =>
      cases step
      exact .looked .reader text (congrArg ReaderPhase.outbound? reader) (by simpa using isOpen) rfl rfl
        (outbound?_of_calls rfl)
  | replySending method text =>
    have entry : c.outbound? .reader = some (.message text) := congrArg ReaderPhase.outbound? reader
    rw [reader] at step
    dsimp only [enqueue?] at step
    by_cases ended : c.writer = .ended
    · rw [if_pos ended] at step
      cases step
      exact .put .reader _ entry (Outlet.put_of_ended (o := c.outlet) ended).symm rfl (outbound?_of_calls rfl)
    · rw [if_neg ended] at step
      cases step
      exact .put .reader _ entry (Outlet.put_of_going (o := c.outlet) ended).symm rfl (outbound?_of_calls rfl)
  | failing =>
    rw [reader] at step
    cases step
    exact .read (by rw [reader]; rfl) rfl (by split <;> rfl) fun _ => by dsimp only; split <;> rfl
  | terminating =>
    rw [reader] at step
    cases step
    exact .read (by rw [reader]; rfl) rfl rfl fun _ => rfl
  | closing =>
    rw [reader] at step
    dsimp only at step
    split at step
    · cases step
      exact .read (by rw [reader]; rfl) rfl rfl fun _ => rfl
    · next isOpen =>
      cases step
      exact .shut .reader (congrArg ReaderPhase.outbound? reader) (by simpa using isOpen) rfl rfl
        (outbound?_of_calls rfl)
  | marking =>
    have entry : c.outbound? .reader = some .close := congrArg ReaderPhase.outbound? reader
    rw [reader] at step
    dsimp only [enqueue?] at step
    by_cases ended : c.writer = .ended
    · rw [if_pos ended] at step
      cases step
      exact .put .reader _ entry (Outlet.put_of_ended (o := c.outlet) ended).symm rfl (outbound?_of_calls rfl)
    · rw [if_neg ended] at step
      cases step
      exact .put .reader _ entry (Outlet.put_of_going (o := c.outlet) ended).symm rfl (outbound?_of_calls rfl)
  | cancelling =>
    rw [reader] at step
    dsimp only at step
    obtain ⟨log, drained⟩ := c.cancelPending_eq ErrorCode.serverTerminated
      (c.options.name ++ " language server terminated")
    rw [drained] at step
    cases step
    exact .read (by rw [reader]; rfl) rfl rfl (bind_outbound?_drainCalls _ _ _ _)
  | ended =>
    rw [reader] at step
    contradiction
  | dead =>
    rw [reader] at step
    contradiction

private theorem stepWriter?_flow {c c' : Connection} (step : c.stepWriter? = some c') :
    Flow c c' (.turn .writer) := by
  have entries (d : Connection) (calls : d.calls = c.calls) (reader : d.reader = c.reader) (p : Party) :
      d.outbound? p = c.outbound? p := by
    cases p <;> simp only [outbound?, calls, reader]
  unfold stepWriter? at step
  cases writer : c.writer with
  | ready =>
    rw [writer] at step
    dsimp only at step
    split at step
    · contradiction
    · next rest queue =>
      cases step
      exact .took rest writer queue rfl (entries _ rfl rfl)
    · next text rest queue =>
      split at step
      · next reads =>
        cases step
        exact .wrote text rest writer reads queue (by simp [outlet, writer]) (entries _ rfl rfl)
      · next deaf =>
        cases step
        exact .failed text rest writer (by simpa using deaf) queue rfl (entries _ rfl rfl)
  | finishing =>
    rw [writer] at step
    cases step
    exact .stopped writer rfl (entries _ rfl rfl)
  | ended =>
    rw [writer] at step
    contradiction

/-- Whoever is about to put an entry into the queue can do so. -/
theorem outbound?_of_step {c : Connection} {p : Party} (lost : c.step? p = none) : c.outbound? p = none := by
  cases p with
  | reader =>
    change c.stepReader? = none at lost
    unfold stepReader? at lost
    cases reader : c.reader with
    | replySending method text =>
      rw [reader] at lost
      dsimp only [enqueue?] at lost
      split at lost <;> contradiction
    | marking =>
      rw [reader] at lost
      contradiction
    | _ => exact congrArg ReaderPhase.outbound? reader
  | call i =>
    change c.stepCall? i = none at lost
    unfold stepCall? at lost
    cases found : c.calls[i]? with
    | none => rw [outbound?, found]; rfl
    | some k =>
      rw [outbound?_call found]
      obtain ⟨purpose, phase, answer, deadline⟩ := k
      rw [found] at lost
      cases phase with
      | sending n =>
        dsimp only [Option.bind_eq_bind, Option.bind_some, enqueue?] at lost
        by_cases ended : c.writer = .ended
        · simp [if_pos ended] at lost
        · simp [if_neg ended] at lost
      | noticeSending method params =>
        dsimp only [Option.bind_eq_bind, Option.bind_some, enqueue?] at lost
        by_cases ended : c.writer = .ended
        · simp [if_pos ended] at lost
        · simp [if_neg ended] at lost
      | marking failure => contradiction
      | _ => rfl
  | writer | timer => rfl

theorem move_flow (c : Connection) (m : Move) : Flow c (c.move m) m := by
  cases m with
  | turn party =>
    have moved : c.move (.turn party) = (c.step? party).getD c := rfl
    cases step : c.step? party with
    | none =>
      rw [moved, step, Option.getD_none]
      exact .still _ (fun p same => by cases same; exact outbound?_of_step step) rfl fun _ => rfl
    | some c' =>
      rw [moved, step, Option.getD_some]
      cases party with
      | reader => exact stepReader?_flow step
      | writer => exact stepWriter?_flow step
      | call i => exact (stepCall?_flow step).1
      | timer i => exact (stepTimer?_flow step).1
  | begun purpose =>
    refine .still _ nofun rfl fun p => ?_
    cases p with
    | call j =>
      change (c.calls ++ [callOf purpose])[j]?.bind _ = _
      by_cases old : j < c.calls.length
      · rw [List.getElem?_append_left old]
        rfl
      · have outside : c.calls[j]? = none := List.getElem?_eq_none (Nat.le_of_not_lt old)
        rw [outbound?, outside, List.getElem?_append_right (Nat.le_of_not_lt old)]
        cases new : [callOf purpose][j - c.calls.length]? with
        | none => rfl
        | some k =>
          rw [List.mem_singleton.1 (List.mem_of_getElem? new)]
          cases purpose <;> rfl
    | reader | writer | timer => rfl
  | receive bytes =>
    change Flow c (c.receive bytes) (.receive bytes)
    unfold receive
    split <;> exact .still _ nofun rfl fun p => by cases p <;> rfl
  | endInbox => exact .still _ nofun rfl fun p => by cases p <;> rfl
  | dropPeer => exact .dropped rfl fun p => by cases p <;> rfl
  | advance milliseconds => exact .still _ nofun rfl fun p => by cases p <;> rfl
  | process state => exact .still _ nofun rfl fun p => by cases p <;> rfl

/-- A writer that has ended stays so. -/
theorem Flow.ended {c c' : Connection} {m : Move} (flow : Flow c c' m) (ended : c.writer = .ended) :
    c'.writer = .ended := by
  cases flow with
  | still _ _ outlet | looked _ _ _ _ outlet | shut _ _ _ outlet | dropped outlet =>
    exact (congrArg Outlet.writer outlet).trans ended
  | put _ _ _ outlet =>
    rw [Outlet.put_of_ended (o := c.outlet) ended] at outlet
    exact (congrArg Outlet.writer outlet).trans ended
  | wrote _ _ ready | failed _ _ ready | took _ ready =>
    rw [ended] at ready
    contradiction
  | stopped finishing =>
    rw [ended] at finishing
    contradiction

/-- How the reader goes on: it ends after it has said so, and who has closed the queue goes on to end. -/
structure Course (c c' : Connection) : Prop where
  terminated : c.terminated = true → c'.terminated = true
  gone : c'.reader.isGone = true → c.reader.isGone = true ∨ c'.terminated = true
  ending : c.reader.isEnding = true → c'.reader.isEnding = true
  clock : c.clock ≤ c'.clock

private theorem Apart.course {c c' : Connection} (apart : Apart c c') : Course c c' where
  terminated gone := apart.terminated.trans gone
  gone gone := .inl (apart.reader ▸ gone)
  ending ending := apart.reader.symm ▸ ending
  clock := Nat.le_of_eq apart.clock.symm

private theorem Apart.absent {c c' : Connection} (apart : Apart c c') (absent : c.process = .absent) :
    c'.process = .absent :=
  apart.process.elim (·.trans absent) id

private theorem stepReader?_course {c c' : Connection} (step : c.stepReader? = some c') :
    Course c c' ∧ c'.process = c.process := by
  have still {P : Prop} (early : false = true) : P := absurd early Bool.false_ne_true
  unfold stepReader? at step
  cases reader : c.reader with
  | reading =>
    have early : c.reader.isEnding = false := by rw [reader]; rfl
    rw [reader] at step
    dsimp only at step
    split at step
    · contradiction
    · next message rest next =>
      cases step
      have handled := handleMessage_handled { c with inbox := rest } message
      rw [reader] at handled
      refine ⟨⟨handled.terminated.trans, fun gone => ?_, by simp [early], Nat.le_of_eq handled.clock.symm⟩,
        handled.process⟩
      rcases handled.reader with same | ⟨method, text, replying⟩
      · rw [same] at gone
        contradiction
      · rw [replying] at gone
        contradiction
    all_goals
      cases step
      exact ⟨⟨id, still, by simp [early], Nat.le_refl _⟩, rfl⟩
  | replyProbing method text =>
    rw [reader] at step
    dsimp only at step
    split at step <;> cases step <;> exact ⟨⟨id, still, by simp [reader, ReaderPhase.isEnding], Nat.le_refl _⟩, rfl⟩
  | replySending method text =>
    rw [reader] at step
    dsimp only [enqueue?] at step
    by_cases ended : c.writer = .ended
    · rw [if_pos ended] at step
      cases step
      exact ⟨⟨id, still, by simp [reader, ReaderPhase.isEnding], Nat.le_refl _⟩, rfl⟩
    · rw [if_neg ended] at step
      cases step
      exact ⟨⟨id, still, by simp [reader, ReaderPhase.isEnding], Nat.le_refl _⟩, rfl⟩
  | failing =>
    rw [reader] at step
    cases step
    split <;> exact ⟨⟨id, still, by simp [reader, ReaderPhase.isEnding], Nat.le_refl _⟩, rfl⟩
  | terminating =>
    rw [reader] at step
    cases step
    exact ⟨⟨fun _ => rfl, fun _ => .inr rfl, by simp [reader, ReaderPhase.isEnding], Nat.le_refl _⟩, rfl⟩
  | closing =>
    have gone : c.reader.isGone = true := by rw [reader]; rfl
    rw [reader] at step
    dsimp only at step
    split at step <;> cases step <;> exact ⟨⟨id, fun _ => .inl gone, fun _ => rfl, Nat.le_refl _⟩, rfl⟩
  | marking =>
    have gone : c.reader.isGone = true := by rw [reader]; rfl
    rw [reader] at step
    dsimp only [enqueue?] at step
    by_cases ended : c.writer = .ended
    · rw [if_pos ended] at step
      cases step
      exact ⟨⟨id, fun _ => .inl gone, fun _ => rfl, Nat.le_refl _⟩, rfl⟩
    · rw [if_neg ended] at step
      cases step
      exact ⟨⟨id, fun _ => .inl gone, fun _ => rfl, Nat.le_refl _⟩, rfl⟩
  | cancelling =>
    have gone : c.reader.isGone = true := by rw [reader]; rfl
    rw [reader] at step
    dsimp only at step
    obtain ⟨log, drained⟩ := c.cancelPending_eq ErrorCode.serverTerminated
      (c.options.name ++ " language server terminated")
    rw [drained] at step
    cases step
    exact ⟨⟨id, fun _ => .inl gone, fun _ => rfl, Nat.le_refl _⟩, rfl⟩
  | ended =>
    rw [reader] at step
    contradiction
  | dead =>
    rw [reader] at step
    contradiction

private theorem stepWriter?_apart {c c' : Connection} (step : c.stepWriter? = some c') : Apart c c' := by
  unfold stepWriter? at step
  cases writer : c.writer with
  | ready =>
    rw [writer] at step
    dsimp only at step
    split at step
    · contradiction
    · cases step
      exact ⟨rfl, rfl, .inl rfl, rfl, rfl, rfl⟩
    · split at step <;> cases step <;> exact ⟨rfl, rfl, .inl rfl, rfl, rfl, rfl⟩
  | finishing =>
    rw [writer] at step
    cases step
    exact ⟨rfl, rfl, .inl rfl, rfl, rfl, rfl⟩
  | ended =>
    rw [writer] at step
    contradiction

theorem Apart.refl (c : Connection) : Apart c c := ⟨rfl, rfl, .inl rfl, rfl, rfl, rfl⟩

theorem turn_apart {c : Connection} {party : Party} (other : party ≠ .reader) : Apart c (c.move (.turn party)) := by
  have moved : c.move (.turn party) = (c.step? party).getD c := rfl
  rw [moved]
  cases step : c.step? party with
  | none => exact .refl c
  | some c' =>
    cases party with
    | reader => contradiction
    | writer => exact stepWriter?_apart step
    | call i => exact (stepCall?_flow step).2
    | timer i => exact (stepTimer?_flow step).2

theorem move_course (c : Connection) (m : Move) : Course c (c.move m) ∧
    ((∀ state, m ≠ .process state) → c.process = .absent → (c.move m).process = .absent) := by
  have kept {c' : Connection} (apart : Apart c c') : Course c c' ∧
      ((∀ state, m ≠ .process state) → c.process = .absent → c'.process = .absent) :=
    ⟨apart.course, fun _ => apart.absent⟩
  cases m with
  | turn party =>
    by_cases own : party = .reader
    · subst own
      have moved : c.move (.turn .reader) = c.stepReader?.getD c := rfl
      rw [moved]
      cases step : c.stepReader? with
      | none => exact kept (.refl c)
      | some c' =>
        obtain ⟨course, process⟩ := stepReader?_course step
        exact ⟨course, fun _ => process.trans⟩
    · exact kept (turn_apart own)
  | begun | endInbox | dropPeer => exact ⟨⟨id, .inl, id, Nat.le_refl _⟩, fun _ => id⟩
  | advance milliseconds => exact ⟨⟨id, .inl, id, Nat.le_add_right _ milliseconds⟩, fun _ => id⟩
  | receive bytes =>
    change Course c (c.receive bytes) ∧ (_ → _ → (c.receive bytes).process = .absent)
    unfold receive
    split <;> exact ⟨⟨id, .inl, id, Nat.le_refl _⟩, fun _ => id⟩
  | process state => exact ⟨⟨id, .inl, id, Nat.le_refl _⟩, fun own => absurd rfl (own state)⟩

end Connection

end LanguageClient
