import Mathlib.Data.List.Basic
import LanguageClient.Proofs.Connection.Run

/-! What one move does to the requests of a connection. Every move of every party is one of the few
changes below: of the numbers, the table of pending requests and the phases and answers of the calls
nothing else can change, and not in any other way. -/
namespace LanguageClient

namespace CallPhase

/-- The number under which a call has entered the table of pending requests, until it is through
with its request. -/
def held? : CallPhase → Option Nat
  | .probing n => some n
  | .sending n => some n
  | .withdrawing n => some n
  | .waiting n => some n
  | _ => none

def number? : CallPhase → Option Nat
  | .registering n => some n
  | phase => phase.held?

def isEarly : CallPhase → Bool
  | .announcing => true
  | .deciding => true
  | .checking => true
  | .numbering => true
  | .registering _ => true
  | _ => false

def isLeaving : CallPhase → Bool
  | .closing _ => true
  | .marking _ => true
  | .reaping _ => true
  | .cancelling _ => true
  | _ => false

end CallPhase

def ReaderPhase.isEnding : ReaderPhase → Bool
  | .marking => true
  | .cancelling => true
  | .ended => true
  | _ => false

namespace Connection

def afterResult (purpose : Purpose) (result : Except ClientError Json) : CallPhase :=
  match purpose, result with
  | .request _ _, result => .finished result
  | .notify _ _, result => .finished result
  | .handshake _ _, .error e => .finished (.error e)
  | .handshake _ _, .ok value =>
    match Welcome.decode value with
    | .error e => .finished (.error (.protocol e.message))
    | .ok _ => .noticeProbing "initialized" (.object [])
  | .shutdown, .ok _ => .noticeProbing "exit" .null
  | .shutdown, .error e => .closing (some ("shutdown request failed: " ++ e.message))

def afterTelling (purpose : Purpose) (result : Except ClientError Json) : CallPhase :=
  match purpose with
  | .shutdown => .closing none
  | _ => .finished result

def callOf (purpose : Purpose) : Call :=
  ⟨purpose, match purpose with
    | .request _ _ => .checking
    | .notify method params => .noticeProbing method params
    | .handshake _ _ => .checking
    | .shutdown => .announcing, none, 0⟩

def answeredNumber? (r : Response) : Option Nat := r.id.bind requestNumber?

def cancellation (number : Nat) (code : Int32) (reason : String) : Response :=
  .failure (.number (UInt64.ofNat number)) (.new code reason)

inductive Pass (c c' : Connection) (k : Call) : CallPhase → Prop
  | announced (phase : k.phase = .announcing) : Pass c c' k .deciding
  | spared (phase : k.phase = .deciding) (gone : c.terminated = true) : Pass c c' k (.closing none)
  | decided (phase : k.phase = .deciding) (live : c.terminated = false) : Pass c c' k .checking
  | rejected (phase : k.phase = .checking) (gone : c.terminated = true) :
      Pass c c' k (afterResult k.purpose (.error .serverTerminated))
  | checked (phase : k.phase = .checking) (live : c.terminated = false) : Pass c c' k .numbering
  | refused (n : Nat) (phase : k.phase = .probing n) (closed : c.closed = true) :
      Pass c c' k (.withdrawing n)
  | admitted (n : Nat) (phase : k.phase = .probing n) (isOpen : c.closed = false) :
      Pass c c' k (.sending n)
  | dropped (n : Nat) (phase : k.phase = .sending n) (ended : c.writer = .ended) :
      Pass c c' k (.withdrawing n)
  | answered (n : Nat) (r : Response) (phase : k.phase = .waiting n) (answer : k.answer = some r) :
      Pass c c' k (afterResult k.purpose (resultOf r))
  | telling (method : String) (params : Json) (phase : k.phase = .noticeProbing method params)
      (isOpen : c.closed = false) : Pass c c' k (.noticeSending method params)
  | told (method : String) (params : Json) (result : Except ClientError Json)
      (phase : k.phase = .noticeProbing method params ∨ k.phase = .noticeSending method params)
      (refused : k.phase = .noticeProbing method params → c.closed = true ∧ result = .error .notConnected) :
      Pass c c' k (afterTelling k.purpose result)
  | closing (failure : Option String) (phase : k.phase = .closing failure) (closed : c'.closed = true)
      (isOpen : c.closed = false) : Pass c c' k (.marking failure)
  | closed (failure : Option String) (phase : k.phase = .closing failure ∨ k.phase = .marking failure)
      (closed : k.phase = .closing failure → c.closed = true) : Pass c c' k (.reaping failure)
  | reaped (failure : Option String) (later : Option String) (phase : k.phase = .reaping failure)
      (kept : c.process = .absent → later = failure) : Pass c c' k (.cancelling later)
  | expired (n : Nat) (purpose : k.purpose = .shutdown)
      (phase : k.phase = .registering n ∨ k.phase = .withdrawing n ∨
        k.phase = .waiting n ∧ k.answer = none) (due : k.deadline ≤ c.clock) :
      Pass c c' k (.closing (some "shutdown request timed out"))

/-- How long a call may take: a shutdown is given its time when it sets out to ask the server, and again
when it closes the connection. -/
structure Timing (c : Connection) (k : Call) (phase : CallPhase) (deadline : Nat) : Prop where
  kept : k.phase ≠ .deciding → k.phase.isLeaving = false → deadline = k.deadline
  asked : phase = .checking → deadline = c.clock + c.grace

def verdict : Option String → Except ClientError Json
  | some reason => .error (.shutdown reason)
  | none => .ok .null

/-- What becomes of a call when all pending requests are drained: it is answered if one of them is
its own, and it is finished if it is the call that drains them. -/
structure Drained (c : Connection) (code : Int32) (reason : String) (j : Nat) (k k' : Call) : Prop where
  purpose : k'.purpose = k.purpose
  phase : k'.phase = k.phase ∨
    ∃ failure result, k.phase = .cancelling failure ∧ k'.phase = .finished result
  answer : (k'.answer = k.answer ∧ ∀ n, (n, j) ∉ c.pending) ∨
    ∃ n, (n, j) ∈ c.pending ∧ k'.answer = some (cancellation n code reason)
  deadline : k'.deadline = k.deadline
  verdict : ∀ failure result, k.phase = .cancelling failure → k'.phase = .finished result →
    result = verdict failure

inductive Change (c c' : Connection) : Option Event → Prop
  | idle (nextId : c'.nextId = c.nextId) (pending : c'.pending = c.pending)
      (calls : c'.calls = c.calls) : Change c c' none
  | begun (purpose : Purpose) (nextId : c'.nextId = c.nextId) (pending : c'.pending = c.pending)
      (calls : c'.calls = c.calls ++ [callOf purpose]) : Change c c' none
  | passed (i : Nat) (k : Call) (phase : CallPhase) (deadline : Nat) (found : c.calls[i]? = some k)
      (pass : Pass c c' k phase) (nextId : c'.nextId = c.nextId) (pending : c'.pending = c.pending)
      (calls : c'.calls = c.calls.set i { k with phase := phase, deadline := deadline })
      (timing : Timing c k phase deadline) : Change c c' none
  | numbered (i : Nat) (k : Call) (found : c.calls[i]? = some k) (phase : k.phase = .numbering)
      (nextId : c'.nextId = c.nextId + 1) (pending : c'.pending = c.pending)
      (calls : c'.calls = c.calls.set i { k with phase := .registering c.nextId }) : Change c c' none
  | registered (i : Nat) (k : Call) (n : Nat) (found : c.calls[i]? = some k)
      (phase : k.phase = .registering n) (nextId : c'.nextId = c.nextId)
      (pending : c'.pending = c.pending ++ [(n, i)])
      (calls : c'.calls = c.calls.set i { k with phase := .probing n }) :
      Change c c' (some (.registered i n))
  | sent (i : Nat) (k : Call) (n : Nat) (found : c.calls[i]? = some k) (phase : k.phase = .sending n)
      (nextId : c'.nextId = c.nextId) (pending : c'.pending = c.pending)
      (calls : c'.calls = c.calls.set i { k with phase := .waiting n }) :
      Change c c' (some (.sent i n))
  | withdrawn (i : Nat) (k : Call) (n : Nat) (found : c.calls[i]? = some k)
      (phase : k.phase = .withdrawing n) (nextId : c'.nextId = c.nextId)
      (pending : c'.pending = c.pending.filter fun entry => entry.1 ≠ n)
      (calls : c'.calls = c.calls.set i
        { k with phase := afterResult k.purpose (.error .notConnected) }) : Change c c' none
  | matched (r : Response) (n i : Nat) (number : answeredNumber? r = some n)
      (entry : (n, i) ∈ c.pending) (nextId : c'.nextId = c.nextId)
      (pending : c'.pending = c.pending.filter fun entry => entry.1 ≠ n)
      (calls : c'.calls = c.calls.modify i fun k => { k with answer := some r }) :
      Change c c' (some (.handled r))
  | unmatched (r : Response)
      (stray : ∀ n i, answeredNumber? r = some n → (n, i) ∉ c.pending)
      (nextId : c'.nextId = c.nextId) (pending : c'.pending = c.pending)
      (calls : c'.calls = c.calls) : Change c c' (some (.handled r))
  | drained (code : Int32) (reason : String) (nextId : c'.nextId = c.nextId) (pending : c'.pending = [])
      (length : c'.calls.length = c.calls.length)
      (calls : ∀ j k', c'.calls[j]? = some k' →
        ∃ k, c.calls[j]? = some k ∧ Drained c code reason j k k') :
      Change c c' (some (.drained code reason))

/-- How the ending of a connection goes on: what is closed stays closed and who has ended has ended,
the reader comes to its ending over a closed queue, and to its end over an empty table. -/
structure Onward (c c' : Connection) : Prop where
  closed : c.closed = true → c'.closed = true
  gone : c.reader = .ended → c'.reader = .ended
  ending : c'.reader.isEnding = true → c.reader.isEnding = true ∨ c'.closed = true
  ended : c'.reader = .ended → c.reader = .ended ∨ c'.pending = []

theorem modify_found {l : List Call} {i : Nat} {k : Call} (found : l[i]? = some k)
    (f : Call → Call) : l.modify i f = l.set i (f k) := by
  rw [List.modify_eq_set_getElem?, found]
  rfl

def drainCalls (pending : List (Nat × Nat)) (code : Int32) (reason : String) (calls : List Call) :
    List Call :=
  pending.foldl (fun calls entry => calls.modify entry.2 fun k =>
    { k with answer := some (cancellation entry.1 code reason) }) calls

theorem cancelPending_eq (c : Connection) (code : Int32) (reason : String) :
    ∃ log, c.cancelPending code reason =
      { c with pending := [], calls := drainCalls c.pending code reason c.calls, log := log } := by
  have general : ∀ (entries : List (Nat × Nat)) (d : Connection),
      entries.foldl (fun d (entry : Nat × Nat) => d.giveAnswer entry.2
        (.failure (.number (UInt64.ofNat entry.1)) (.new code reason))) d =
      { d with calls := drainCalls entries code reason d.calls } := by
    intro entries
    induction entries with
    | nil => exact fun d => rfl
    | cons entry rest ih => exact fun d => ih _
  unfold cancelPending
  by_cases empty : c.pending.isEmpty
  · exact ⟨c.log, by simp only [empty, if_true]; exact general c.pending _⟩
  · refine ⟨(c.note .debug ("Cancelling " ++ toString c.pending.length ++ " pending requests: " ++ reason)).log, ?_⟩
    simp only [empty]
    exact general c.pending _

private theorem drainCalls_length (pending : List (Nat × Nat)) (code : Int32) (reason : String)
    (calls : List Call) : (drainCalls pending code reason calls).length = calls.length := by
  induction pending generalizing calls with
  | nil => rfl
  | cons entry rest ih =>
    rw [drainCalls, List.foldl_cons]
    exact (ih _).trans (List.length_modify _ _ _)

/-- A call is answered when one of the pending requests is its own. -/
theorem drainCalls_getElem? (pending : List (Nat × Nat)) (code : Int32) (reason : String)
    (calls : List Call) (j : Nat) (k' : Call)
    (found : (drainCalls pending code reason calls)[j]? = some k') :
    ∃ k, calls[j]? = some k ∧ k'.purpose = k.purpose ∧ k'.phase = k.phase ∧ k'.deadline = k.deadline ∧
      ((k'.answer = k.answer ∧ ∀ n, (n, j) ∉ pending) ∨
        ∃ n, (n, j) ∈ pending ∧ k'.answer = some (cancellation n code reason)) := by
  induction pending generalizing calls with
  | nil => exact ⟨k', found, rfl, rfl, rfl, .inl ⟨rfl, by simp⟩⟩
  | cons entry rest ih =>
    obtain ⟨id, call⟩ := entry
    obtain ⟨k, first, purpose, phase, deadline, answer⟩ := ih _ found
    rw [List.getElem?_modify] at first
    obtain ⟨k₀, present, rfl⟩ := Option.map_eq_some_iff.1 first
    by_cases same : call = j
    · subst same
      simp only [if_pos] at purpose phase deadline answer
      refine ⟨k₀, present, purpose, phase, deadline, .inr ?_⟩
      -- Of several entries for one call the last is the one that counts.
      rcases answer with ⟨kept, _⟩ | ⟨n, inside, given⟩
      · exact ⟨id, by simp, kept⟩
      · exact ⟨n, by simp [inside], given⟩
    · simp only [if_neg same] at purpose phase deadline answer
      refine ⟨k₀, present, purpose, phase, deadline, ?_⟩
      rcases answer with ⟨kept, absent⟩ | ⟨n, inside, given⟩
      · refine .inl ⟨kept, fun n inside => ?_⟩
        rcases List.mem_cons.1 inside with first | later
        · exact same (congrArg Prod.snd first).symm
        · exact absent n later
      · exact .inr ⟨n, by simp [inside], given⟩

theorem modify_twice {l : List Call} {i : Nat} {k : Call} (found : l[i]? = some k)
    (f g : Call → Call) : (l.modify i f).modify i g = l.set i (g (f k)) := by
  rw [List.modify_modify_eq, modify_found found]
  rfl

theorem afterRequest_eq (c : Connection) (i : Nat) (purpose : Purpose)
    (result : Except ClientError Json) : ∃ log welcome, c.afterRequest i purpose result =
      { c with log := log, welcome := welcome }.setPhase i (afterResult purpose result) := by
  unfold afterRequest afterResult
  cases purpose with
  | request method params => exact ⟨_, _, rfl⟩
  | notify method params => exact ⟨_, _, rfl⟩
  | shutdown => cases result <;> exact ⟨_, _, rfl⟩
  | handshake processId rootUri =>
    cases result with
    | error e => exact ⟨_, _, rfl⟩
    | ok value =>
      dsimp only
      cases Welcome.decode value with
      | error e => exact ⟨_, _, rfl⟩
      | ok welcome =>
        dsimp only
        cases welcome.server <;> exact ⟨_, _, rfl⟩

theorem afterNotice_eq (c : Connection) (i : Nat) (purpose : Purpose)
    (result : Except ClientError Json) :
    c.afterNotice i purpose result = c.setPhase i (afterTelling purpose result) := by
  cases purpose <;> rfl

private theorem Timing.same {c : Connection} {k : Call} {phase : CallPhase} (other : phase ≠ .checking) :
    Timing c k phase k.deadline :=
  ⟨fun _ _ => rfl, fun now => absurd now other⟩

private theorem afterResult_ne_checking (purpose : Purpose) (result : Except ClientError Json) :
    afterResult purpose result ≠ .checking := by
  unfold afterResult
  repeat' split
  all_goals nofun

private theorem afterTelling_ne_checking (purpose : Purpose) (result : Except ClientError Json) :
    afterTelling purpose result ≠ .checking := by
  cases purpose <;> nofun

private theorem stepCall?_change {c c' : Connection} {i : Nat} (step : c.stepCall? i = some c') :
    Change c c' (c.callEvent? i) ∧ Onward c c' := by
  unfold stepCall? at step
  unfold callEvent?
  cases found : c.calls[i]? with
  | none => simp [found] at step
  | some k =>
    obtain ⟨purpose, phase, answer, deadline⟩ := k
    rw [found] at step
    cases phase with
    | announcing =>
      cases step
      exact ⟨.passed i _ _ deadline found (.announced rfl) rfl rfl (modify_found found _) (.same nofun), id, id, .inl, .inl⟩
    | deciding =>
      dsimp only [Option.bind_eq_bind, Option.bind_some] at step
      split at step
      · next gone =>
        cases step
        exact ⟨.passed i _ _ deadline found (.spared rfl gone) rfl rfl (modify_found found _) (.same nofun),
          id, id, .inl, .inl⟩
      · next live =>
        cases step
        exact ⟨.passed i _ _ _ found (.decided rfl (by simpa using live)) rfl rfl
          (modify_twice found _ _) ⟨fun other => absurd rfl other, fun _ => rfl⟩, id, id, .inl, .inl⟩
    | checking =>
      dsimp only [Option.bind_eq_bind, Option.bind_some] at step
      split at step
      · next gone =>
        obtain ⟨log, welcome, after⟩ := c.afterRequest_eq i purpose (.error .serverTerminated)
        rw [after] at step
        cases step
        exact ⟨.passed i _ _ deadline found (.rejected rfl gone) rfl rfl (modify_found found _) (.same (afterResult_ne_checking _ _)),
          id, id, .inl, .inl⟩
      · next live =>
        cases step
        exact ⟨.passed i _ _ deadline found (.checked rfl (by simpa using live)) rfl rfl
          (modify_found found _) (.same nofun), id, id, .inl, .inl⟩
    | numbering =>
      cases step
      exact ⟨.numbered i _ found rfl rfl rfl (modify_found found _), id, id, .inl, .inl⟩
    | registering n =>
      cases step
      exact ⟨.registered i _ n found rfl rfl rfl (modify_found found _), id, id, .inl, .inl⟩
    | probing n =>
      dsimp only [Option.bind_eq_bind, Option.bind_some] at step
      split at step
      · next closed =>
        cases step
        exact ⟨.passed i _ _ deadline found (.refused n rfl closed) rfl rfl (modify_found found _) (.same nofun),
          id, id, .inl, .inl⟩
      · next isOpen =>
        cases step
        exact ⟨.passed i _ _ deadline found (.admitted n rfl (by simpa using isOpen)) rfl rfl
          (modify_found found _) (.same nofun), id, id, .inl, .inl⟩
    | sending n =>
      dsimp only [Option.bind_eq_bind, Option.bind_some, enqueue?] at step
      by_cases ended : c.writer = .ended
      · simp only [if_pos ended] at step
        cases step
        simp only [Option.map_some, if_pos ended]
        exact ⟨.passed i _ _ deadline found (.dropped n rfl ended) rfl rfl (modify_found found _) (.same nofun),
          id, id, .inl, .inl⟩
      · simp only [if_neg ended] at step
        cases step
        simp only [Option.map_some, if_neg ended]
        exact ⟨.sent i _ n found rfl rfl rfl (modify_found found _), id, id, .inl, .inl⟩
    | withdrawing n =>
      dsimp only [Option.bind_eq_bind, Option.bind_some] at step
      obtain ⟨log, welcome, after⟩ := afterRequest_eq
        { c with pending := c.pending.filter fun entry => entry.1 ≠ n } i purpose (.error .notConnected)
      rw [after] at step
      cases step
      exact ⟨.withdrawn i _ n found rfl rfl rfl (modify_found found _), id, id, .inl, .inl⟩
    | waiting n =>
      cases answer with
      | none => contradiction
      | some r =>
        dsimp only [Option.bind_eq_bind, Option.bind_some] at step
        obtain ⟨log, welcome, after⟩ := c.afterRequest_eq i purpose (resultOf r)
        rw [after] at step
        cases step
        exact ⟨.passed i _ _ deadline found (.answered n r rfl rfl) rfl rfl (modify_found found _) (.same (afterResult_ne_checking _ _)),
          id, id, .inl, .inl⟩
    | noticeProbing method params =>
      dsimp only [Option.bind_eq_bind, Option.bind_some] at step
      split at step
      · next closed =>
        rw [afterNotice_eq] at step
        cases step
        exact ⟨.passed i _ _ deadline found (.told method params _ (.inl rfl) fun _ => ⟨closed, rfl⟩) rfl rfl
          (modify_found found _) (.same (afterTelling_ne_checking _ _)), id, id, .inl, .inl⟩
      · next isOpen =>
        cases step
        exact ⟨.passed i _ _ deadline found (.telling method params rfl (by simpa using isOpen)) rfl rfl
          (modify_found found _) (.same nofun), id, id, .inl, .inl⟩
    | noticeSending method params =>
      dsimp only [Option.bind_eq_bind, Option.bind_some, enqueue?] at step
      by_cases ended : c.writer = .ended
      · simp only [if_pos ended, afterNotice_eq] at step
        cases step
        exact ⟨.passed i _ _ deadline found (.told method params _ (.inr rfl) nofun) rfl rfl
          (modify_found found _) (.same (afterTelling_ne_checking _ _)), id, id, .inl, .inl⟩
      · simp only [if_neg ended, afterNotice_eq] at step
        cases step
        exact ⟨.passed i _ _ deadline found (.told method params _ (.inr rfl) nofun) rfl rfl
          (modify_found found _) (.same (afterTelling_ne_checking _ _)), id, id, .inl, .inl⟩
    | closing failure =>
      dsimp only [Option.bind_eq_bind, Option.bind_some] at step
      split at step
      · next closed =>
        cases step
        exact ⟨.passed i _ _ _ found (.closed failure (.inl rfl) fun _ => closed) rfl rfl
          (modify_twice found _ _) ⟨fun _ => nofun, nofun⟩, id, id, .inl, .inl⟩
      · next isOpen =>
        cases step
        exact ⟨.passed i _ _ _ found (.closing failure rfl rfl (by simpa using isOpen)) rfl rfl
          (modify_twice found _ _) ⟨fun _ => nofun, nofun⟩, fun _ => rfl, id, .inl, .inl⟩
    | marking failure =>
      dsimp only [Option.bind_eq_bind, Option.bind_some, enqueue?] at step
      by_cases ended : c.writer = .ended
      · simp only [if_pos ended] at step
        cases step
        exact ⟨.passed i _ _ deadline found (.closed failure (.inr rfl) nofun) rfl rfl
          (modify_found found _) (.same nofun), id, id, .inl, .inl⟩
      · simp only [if_neg ended] at step
        cases step
        exact ⟨.passed i _ _ deadline found (.closed failure (.inr rfl) nofun) rfl rfl
          (modify_found found _) (.same nofun), id, id, .inl, .inl⟩
    | reaping failure =>
      dsimp only [Option.bind_eq_bind, Option.bind_some] at step
      split at step
      · cases step
        exact ⟨.passed i _ _ deadline found (.reaped failure failure rfl fun _ => rfl) rfl rfl
          (modify_found found _) (.same nofun), id, id, .inl, .inl⟩
      · cases step
        exact ⟨.passed i _ _ deadline found (.reaped failure failure rfl fun _ => rfl) rfl rfl
          (modify_found found _) (.same nofun), id, id, .inl, .inl⟩
      · contradiction
    | cancelling failure =>
      dsimp only [Option.bind_eq_bind, Option.bind_some] at step
      obtain ⟨log, drained⟩ := c.cancelPending_eq ErrorCode.requestCancelled "Server shutdown"
      rw [drained] at step
      cases step
      refine ⟨.drained _ _ rfl rfl ?_ ?_, id, id, .inl, .inl⟩
      · exact (List.length_modify _ _ _).trans (drainCalls_length _ _ _ _)
      · intro j k' found'
        change ((drainCalls _ _ _ c.calls).modify i _)[j]? = some k' at found'
        rw [List.getElem?_modify] at found'
        obtain ⟨k₁, present, rfl⟩ := Option.map_eq_some_iff.1 found'
        obtain ⟨k, earlier, purpose, phase, time, answer⟩ := drainCalls_getElem? _ _ _ _ j k₁ present
        -- The call that drains the table finishes, whether or not it was pending itself.
        by_cases same : i = j
        · subst same
          rw [found] at earlier
          cases earlier
          simp only [if_true]
          refine ⟨_, found, purpose, .inr ⟨failure, _, rfl, rfl⟩, answer, time, fun before result start finished => ?_⟩
          cases start
          cases finished
          cases failure <;> rfl
        · rw [if_neg same]
          refine ⟨k, earlier, purpose, .inl phase, answer, time, fun before result start finished => ?_⟩
          cases (phase.trans start).symm.trans finished
    | finished result => contradiction

private theorem stepTimer?_change {c c' : Connection} {i : Nat} (step : c.stepTimer? i = some c') :
    Change c c' none ∧ Onward c c' := by
  unfold stepTimer? at step
  cases found : c.calls[i]? with
  | none => simp [found] at step
  | some k =>
    rw [found] at step
    dsimp only [Option.bind_eq_bind, Option.bind_some] at step
    split at step
    · contradiction
    · next due =>
      have purpose : k.purpose = .shutdown := by
        by_contra other
        exact due (by simp [other])
      have late : k.deadline ≤ c.clock := by
        by_contra early
        exact due (by simp [Nat.not_le.1 early])
      split at step
      · next n phase =>
        cases step
        exact ⟨.passed i k _ k.deadline found (.expired n purpose (.inl phase) late) rfl rfl
          (modify_found found _) (.same nofun), id, id, .inl, .inl⟩
      · next n phase =>
        cases step
        exact ⟨.passed i k _ k.deadline found (.expired n purpose (.inr (.inl phase)) late) rfl rfl
          (modify_found found _) (.same nofun), id, id, .inl, .inl⟩
      · next n phase =>
        split at step
        · contradiction
        · next unanswered =>
          cases step
          have answer : k.answer = none := by simpa using unanswered
          exact ⟨.passed i k _ k.deadline found (.expired n purpose (.inr (.inr ⟨phase, answer⟩)) late)
            rfl rfl (modify_found found _) (.same nofun), id, id, .inl, .inl⟩
      · next failure phase =>
        split at step
        · next running =>
          cases step
          have kept : c.process ≠ .absent := by
            rw [running]
            nofun
          exact ⟨.passed i k _ k.deadline found (.reaped failure _ phase fun absent => absurd absent kept) rfl rfl
            (modify_found found _) (.same nofun), id, id, .inl, .inl⟩
        · contradiction
      · contradiction

structure Aside (c c' : Connection) : Prop where
  nextId : c'.nextId = c.nextId
  pending : c'.pending = c.pending
  calls : c'.calls = c.calls
  reader : c'.reader = c.reader
  closed : c'.closed = c.closed

theorem Aside.refl (c : Connection) : Aside c c := ⟨rfl, rfl, rfl, rfl, rfl⟩

theorem Aside.trans {c c' c'' : Connection} (first : Aside c c') (second : Aside c' c'') :
    Aside c c'' where
  nextId := second.nextId.trans first.nextId
  pending := second.pending.trans first.pending
  calls := second.calls.trans first.calls
  reader := second.reader.trans first.reader
  closed := second.closed.trans first.closed

private theorem Aside.foldl {α : Type} (f : Connection → α → Connection) (aside : ∀ c a, Aside c (f c a))
    (items : List α) (c : Connection) : Aside c (items.foldl f c) := by
  induction items generalizing c with
  | nil => exact .refl c
  | cons a rest ih => exact (aside c a).trans (ih (f c a))

private theorem note_aside (c : Connection) (level : Level) (text : String) : Aside c (c.note level text) :=
  ⟨rfl, rfl, rfl, rfl, rfl⟩

private theorem publish_aside (c : Connection) (event : DiagnosticEvent) : Aside c (c.publish event) := by
  unfold publish
  refine Aside.trans ?_ (Aside.foldl store (fun c e => ⟨rfl, rfl, rfl, rfl, rfl⟩) _ _)
  split <;> exact ⟨rfl, rfl, rfl, rfl, rfl⟩

private theorem handleNotification_aside (c : Connection) (n : Notification) :
    Aside c (c.handleNotification n) := by
  unfold handleNotification
  dsimp only
  split
  · have met := Aside.foldl (fun c s => c.note .debug (severityNote s)) (fun c s => c.note_aside _ _)
      (metSeverities (n.params.getD .null)) c
    split
    · exact met.trans (publish_aside _ _)
    · exact met.trans (note_aside _ _ _)
  · split
    · split
      · exact note_aside _ _ _
      · exact .refl c
    · exact .refl c

/-- A response goes to the call that is pending under its number, and to no other. -/
theorem handleResponse_cases (c : Connection) (r : Response) :
    (∃ n i, answeredNumber? r = some n ∧ (n, i) ∈ c.pending ∧
      c.handleResponse r = { c with
        pending := c.pending.filter fun entry => entry.1 ≠ n
        calls := c.calls.modify i fun k => { k with answer := some r } }) ∨
    ((∀ n i, answeredNumber? r = some n → (n, i) ∉ c.pending) ∧
      Aside c (c.handleResponse r)) := by
  unfold handleResponse answeredNumber?
  cases r.id with
  | none => exact .inr ⟨nofun, c.note_aside _ _⟩
  | some id =>
    dsimp only [Option.bind_some]
    cases number : requestNumber? id with
    | none => exact .inr ⟨nofun, c.note_aside _ _⟩
    | some n =>
      dsimp only [Option.bind_some]
      cases entry : c.pending.find? fun entry => entry.1 = n with
      | some found =>
        obtain ⟨n', i⟩ := found
        have key : n' = n := by simpa using List.find?_some entry
        subst key
        exact .inl ⟨n', i, rfl, List.mem_of_find?_eq_some entry, rfl⟩
      | none =>
        refine .inr ⟨fun n' i same inside => ?_, c.note_aside _ _⟩
        cases same
        have differs := List.find?_eq_none.1 entry (n, i) inside
        simp at differs

private theorem Aside.change {c c' d : Connection} (aside : Aside c d) (nextId : c'.nextId = d.nextId)
    (pending : c'.pending = d.pending) (calls : c'.calls = d.calls) : Change c c' none :=
  .idle (nextId.trans aside.nextId) (pending.trans aside.pending) (calls.trans aside.calls)

private theorem Onward.of_reader {c c' : Connection} (live : c.reader ≠ .ended)
    (closed : c.closed = true → c'.closed = true)
    (ending : c'.reader.isEnding = true → c'.closed = true) (going : c'.reader ≠ .ended) : Onward c c' :=
  ⟨closed, fun ended => absurd ended live, fun now => .inr (ending now),
    fun ended => absurd ended going⟩

private theorem handleMessage_change {c d : Connection} (aside : Aside c d) (reader : d.reader = .reading)
    (message : Message) :
    Change c (d.handleMessage message)
      (match message with
        | .response r => some (.handled r)
        | _ => none) ∧ Onward c (d.handleMessage message) := by
  have live : c.reader ≠ .ended := by
    rw [← aside.reader, reader]
    nofun
  cases message with
  | response r =>
    rcases d.handleResponse_cases r with ⟨n, i, number, entry, handled⟩ | ⟨stray, unmatched⟩
    · refine ⟨?_, .of_reader live ?_ ?_ ?_⟩ <;> rw [handleMessage, handled]
      · rw [aside.pending] at entry
        exact .matched r n i number entry aside.nextId
          (congrArg (List.filter fun entry => entry.1 ≠ n) aside.pending)
          (congrArg (List.modify · i fun k => { k with answer := some r }) aside.calls)
      · exact aside.closed.trans
      · simp [reader, ReaderPhase.isEnding]
      · simp [reader]
    · have all := aside.trans unmatched
      rw [aside.pending] at stray
      refine ⟨.unmatched r stray all.nextId all.pending all.calls, .of_reader live all.closed.trans ?_ ?_⟩
      · simp [handleMessage, unmatched.reader, reader, ReaderPhase.isEnding]
      · simp [handleMessage, unmatched.reader, reader]
  | notification n =>
    have told := d.handleNotification_aside n
    have all := aside.trans told
    refine ⟨all.change rfl rfl rfl, .of_reader live all.closed.trans ?_ ?_⟩
    · simp [handleMessage, told.reader, reader, ReaderPhase.isEnding]
    · simp [handleMessage, told.reader, reader]
  | request q =>
    unfold handleMessage
    dsimp only
    cases answerRequest q with
    | ok value =>
      exact ⟨aside.change rfl rfl rfl, .of_reader live aside.closed.trans nofun nofun⟩
    | error e =>
      have all := aside.trans (d.note_aside .debug ("Unhandled server request: " ++ q.method))
      exact ⟨all.change rfl rfl rfl, .of_reader live all.closed.trans nofun nofun⟩

private theorem stepReader?_change {c c' : Connection} (step : c.stepReader? = some c') :
    Change c c' c.readerEvent? ∧ Onward c c' := by
  unfold stepReader? at step
  unfold readerEvent?
  cases reader : c.reader with
  | reading =>
    rw [reader] at step
    dsimp only at step ⊢
    split at step
    · contradiction
    · next message rest next =>
      rw [next]
      cases step
      have handled := handleMessage_change (c := c) (d := { c with inbox := rest })
        ⟨rfl, rfl, rfl, rfl, rfl⟩ reader message
      rw [reader] at handled
      cases message <;> exact handled
    · next error rest next =>
      rw [next]
      cases step
      exact ⟨.idle rfl rfl rfl, .of_reader (by simp [reader]) id nofun nofun⟩
    · next rest next =>
      rw [next]
      cases step
      exact ⟨.idle rfl rfl rfl, .of_reader (by simp [reader]) id nofun nofun⟩
    · next fault rest _ next =>
      rw [next]
      cases step
      exact ⟨.idle rfl rfl rfl, .of_reader (by simp [reader]) id nofun nofun⟩
  | replyProbing method text =>
    rw [reader] at step
    dsimp only at step ⊢
    split at step <;> cases step <;> exact ⟨.idle rfl rfl rfl, .of_reader (by simp [reader]) id nofun nofun⟩
  | replySending method text =>
    rw [reader] at step
    dsimp only [enqueue?] at step ⊢
    by_cases ended : c.writer = .ended
    · rw [if_pos ended] at step
      cases step
      exact ⟨.idle rfl rfl rfl, .of_reader (by simp [reader]) id nofun nofun⟩
    · rw [if_neg ended] at step
      cases step
      exact ⟨.idle rfl rfl rfl, .of_reader (by simp [reader]) id nofun nofun⟩
  | failing =>
    rw [reader] at step
    cases step
    dsimp only
    split <;> exact ⟨.idle rfl rfl rfl, .of_reader (by simp [reader]) id nofun nofun⟩
  | terminating =>
    rw [reader] at step
    cases step
    exact ⟨.idle rfl rfl rfl, .of_reader (by simp [reader]) id nofun nofun⟩
  | closing =>
    rw [reader] at step
    dsimp only at step ⊢
    split at step
    · next closed =>
      cases step
      exact ⟨.idle rfl rfl rfl, .of_reader (by simp [reader]) id (fun _ => closed) nofun⟩
    · cases step
      exact ⟨.idle rfl rfl rfl, .of_reader (by simp [reader]) (fun _ => rfl) (fun _ => rfl) nofun⟩
  | marking =>
    have already : c.reader.isEnding = true := by rw [reader]; rfl
    rw [reader] at step
    dsimp only [enqueue?] at step ⊢
    by_cases ended : c.writer = .ended
    · rw [if_pos ended] at step
      cases step
      exact ⟨.idle rfl rfl rfl, id, by simp [reader], fun _ => .inl already, nofun⟩
    · rw [if_neg ended] at step
      cases step
      exact ⟨.idle rfl rfl rfl, id, by simp [reader], fun _ => .inl already, nofun⟩
  | cancelling =>
    have already : c.reader.isEnding = true := by rw [reader]; rfl
    rw [reader] at step
    dsimp only at step ⊢
    obtain ⟨log, drained⟩ := c.cancelPending_eq ErrorCode.serverTerminated
      (c.options.name ++ " language server terminated")
    rw [drained] at step
    cases step
    refine ⟨.drained _ _ rfl rfl (drainCalls_length _ _ _ _) fun j k' found => ?_,
      id, by simp [reader], fun _ => .inl already, fun _ => .inr rfl⟩
    obtain ⟨k, earlier, purpose, phase, time, answer⟩ := drainCalls_getElem? _ _ _ _ j k' found
    refine ⟨k, earlier, purpose, .inl phase, answer, time, fun before result start finished => ?_⟩
    cases (phase.trans start).symm.trans finished
  | ended =>
    rw [reader] at step
    contradiction
  | dead =>
    rw [reader] at step
    contradiction

theorem stepWriter?_aside {c c' : Connection} (step : c.stepWriter? = some c') : Aside c c' := by
  unfold stepWriter? at step
  cases writer : c.writer with
  | ready =>
    rw [writer] at step
    dsimp only at step
    split at step
    · contradiction
    · cases step
      exact ⟨rfl, rfl, rfl, rfl, rfl⟩
    · split at step <;> cases step <;> exact ⟨rfl, rfl, rfl, rfl, rfl⟩
  | finishing =>
    rw [writer] at step
    cases step
    exact ⟨rfl, rfl, rfl, rfl, rfl⟩
  | ended =>
    rw [writer] at step
    contradiction

private theorem Aside.onward {c c' : Connection} (aside : Aside c c') : Onward c c' :=
  ⟨aside.closed.trans, aside.reader.trans, fun ending => .inl (aside.reader ▸ ending),
    fun ended => .inl (aside.reader ▸ ended)⟩

private theorem readerEvent?_of_step {c : Connection} (lost : c.stepReader? = none) :
    c.readerEvent? = none := by
  unfold stepReader? at lost
  unfold readerEvent?
  cases reader : c.reader with
  | reading =>
    rw [reader] at lost
    dsimp only at lost ⊢
    split at lost
    · next next => rw [next]
    all_goals contradiction
  | cancelling =>
    rw [reader] at lost
    contradiction
  | _ => rfl

private theorem callEvent?_of_step {c : Connection} {i : Nat} (lost : c.stepCall? i = none) :
    c.callEvent? i = none := by
  unfold stepCall? at lost
  unfold callEvent?
  cases found : c.calls[i]? with
  | none => rfl
  | some k =>
    obtain ⟨purpose, phase, answer, deadline⟩ := k
    rw [found] at lost
    cases phase with
    | registering n => contradiction
    | sending n =>
      dsimp only [Option.bind_eq_bind, Option.bind_some, enqueue?] at lost
      by_cases ended : c.writer = .ended
      · simp [if_pos ended] at lost
      · simp [if_neg ended] at lost
    | cancelling failure => contradiction
    | _ => rfl

/-- Each move changes the requests in one of the few ways. -/
theorem move_change (c : Connection) (m : Move) :
    Change c (c.move m) (c.event? m) ∧ Onward c (c.move m) := by
  cases m with
  | turn party =>
    have moved : c.move (.turn party) = (c.step? party).getD c := rfl
    cases step : c.step? party with
    | none =>
      rw [moved, step, Option.getD_none]
      have nothing : c.event? (.turn party) = none := by
        cases party with
        | reader => exact readerEvent?_of_step step
        | call i => exact callEvent?_of_step step
        | writer => rfl
        | timer i => rfl
      rw [nothing]
      exact ⟨.idle rfl rfl rfl, (Aside.refl c).onward⟩
    | some c' =>
      rw [moved, step, Option.getD_some]
      cases party with
      | reader => exact stepReader?_change step
      | writer =>
        have aside := stepWriter?_aside step
        exact ⟨aside.change rfl rfl rfl, aside.onward⟩
      | call i => exact stepCall?_change step
      | timer i => exact stepTimer?_change step
  | begun purpose => exact ⟨.begun purpose rfl rfl rfl, id, id, .inl, .inl⟩
  | receive bytes =>
    change Change c (c.receive bytes) none ∧ Onward c (c.receive bytes)
    unfold receive
    split <;> exact ⟨.idle rfl rfl rfl, id, id, .inl, .inl⟩
  | endInbox => exact ⟨.idle rfl rfl rfl, id, id, .inl, .inl⟩
  | dropPeer => exact ⟨.idle rfl rfl rfl, id, id, .inl, .inl⟩
  | advance milliseconds => exact ⟨.idle rfl rfl rfl, id, id, .inl, .inl⟩
  | process state => exact ⟨.idle rfl rfl rfl, id, id, .inl, .inl⟩

theorem getElem?_set_cases {l : List Call} {i j : Nat} {k' a : Call}
    (found : (l.set i k')[j]? = some a) : (j = i ∧ a = k') ∨ (j ≠ i ∧ l[j]? = some a) := by
  rw [List.getElem?_set] at found
  split at found
  · next same =>
    split at found
    · exact .inl ⟨same.symm, (Option.some.inj found).symm⟩
    · contradiction
  · next differs => exact .inr ⟨Ne.symm differs, found⟩

theorem getElem?_concat_cases {l : List Call} {j : Nat} {k' a : Call}
    (found : (l ++ [k'])[j]? = some a) : l[j]? = some a ∨ a = k' := by
  rw [List.getElem?_append] at found
  split at found
  · exact .inl found
  · exact .inr (List.mem_singleton.1 (List.mem_of_getElem? found))

inductive Advance (c c' : Connection) (i : Nat) (k k' : Call) : Option Event → Prop
  | stayed (e : Option Event) (phase : k'.phase = k.phase)
      (others : ∀ n, e ≠ some (.registered i n) ∧ e ≠ some (.sent i n)) (deadline : k'.deadline = k.deadline) :
      Advance c c' i k k' e
  | passed (pass : Pass c c' k k'.phase) (timing : Timing c k k'.phase k'.deadline) : Advance c c' i k k' none
  | numbered (start : k.phase = .numbering) (phase : k'.phase = .registering c.nextId)
      (deadline : k'.deadline = k.deadline) : Advance c c' i k k' none
  | registered (n : Nat) (start : k.phase = .registering n) (phase : k'.phase = .probing n)
      (deadline : k'.deadline = k.deadline) : Advance c c' i k k' (some (.registered i n))
  | sent (n : Nat) (start : k.phase = .sending n) (phase : k'.phase = .waiting n)
      (deadline : k'.deadline = k.deadline) : Advance c c' i k k' (some (.sent i n))
  | withdrawn (n : Nat) (start : k.phase = .withdrawing n)
      (phase : k'.phase = afterResult k.purpose (.error .notConnected)) (deadline : k'.deadline = k.deadline) :
      Advance c c' i k k' none
  | drained (code : Int32) (reason : String) (failure : Option String) (result : Except ClientError Json)
      (start : k.phase = .cancelling failure) (phase : k'.phase = .finished result)
      (deadline : k'.deadline = k.deadline) (fair : result = verdict failure) :
      Advance c c' i k k' (some (.drained code reason))

/-- Every call after a move is new, or has been there before and has got on. -/
theorem Change.advance {c c' : Connection} {e : Option Event} (change : Change c c' e) {i : Nat} {k' : Call}
    (found' : c'.calls[i]? = some k') :
    (c.calls.length ≤ i ∧ e = none ∧ ∃ purpose, k' = callOf purpose) ∨
      ∃ k, c.calls[i]? = some k ∧ k'.purpose = k.purpose ∧ Advance c c' i k k' e := by
  cases change with
  | idle nextId pending calls => exact .inr ⟨k', calls ▸ found', rfl, .stayed _ rfl (fun _ => ⟨nofun, nofun⟩) rfl⟩
  | begun purpose nextId pending calls =>
    rw [calls] at found'
    by_cases old : i < c.calls.length
    · rw [List.getElem?_append_left old] at found'
      exact .inr ⟨k', found', rfl, .stayed _ rfl (fun _ => ⟨nofun, nofun⟩) rfl⟩
    · have new := List.mem_of_getElem? (List.getElem?_append_right (Nat.le_of_not_lt old) ▸ found')
      exact .inl ⟨Nat.le_of_not_lt old, rfl, purpose, List.mem_singleton.1 new⟩
  | passed j l phase deadline found pass nextId pending calls timing =>
    rw [calls] at found'
    rcases getElem?_set_cases found' with ⟨rfl, rfl⟩ | ⟨_, earlier⟩
    · exact .inr ⟨l, found, rfl, .passed pass timing⟩
    · exact .inr ⟨k', earlier, rfl, .stayed _ rfl (fun _ => ⟨nofun, nofun⟩) rfl⟩
  | numbered j l found phase nextId pending calls =>
    rw [calls] at found'
    rcases getElem?_set_cases found' with ⟨rfl, rfl⟩ | ⟨_, earlier⟩
    · exact .inr ⟨l, found, rfl, .numbered phase rfl rfl⟩
    · exact .inr ⟨k', earlier, rfl, .stayed _ rfl (fun _ => ⟨nofun, nofun⟩) rfl⟩
  | registered j l n found phase nextId pending calls =>
    rw [calls] at found'
    rcases getElem?_set_cases found' with ⟨rfl, rfl⟩ | ⟨differs, earlier⟩
    · exact .inr ⟨l, found, rfl, .registered n phase rfl rfl⟩
    · refine .inr ⟨k', earlier, rfl, .stayed _ rfl (fun m => ⟨fun same => ?_, nofun⟩) rfl⟩
      cases same
      exact differs rfl
  | sent j l n found phase nextId pending calls =>
    rw [calls] at found'
    rcases getElem?_set_cases found' with ⟨rfl, rfl⟩ | ⟨differs, earlier⟩
    · exact .inr ⟨l, found, rfl, .sent n phase rfl rfl⟩
    · refine .inr ⟨k', earlier, rfl, .stayed _ rfl (fun m => ⟨nofun, fun same => ?_⟩) rfl⟩
      cases same
      exact differs rfl
  | withdrawn j l n found phase nextId pending calls =>
    rw [calls] at found'
    rcases getElem?_set_cases found' with ⟨rfl, rfl⟩ | ⟨_, earlier⟩
    · exact .inr ⟨l, found, rfl, .withdrawn n phase rfl rfl⟩
    · exact .inr ⟨k', earlier, rfl, .stayed _ rfl (fun _ => ⟨nofun, nofun⟩) rfl⟩
  | matched r n j number entry nextId pending calls =>
    rw [calls, List.getElem?_modify] at found'
    obtain ⟨l, earlier, rfl⟩ := Option.map_eq_some_iff.1 found'
    exact .inr ⟨l, earlier, by split <;> rfl, .stayed _ (by split <;> rfl) (fun _ => ⟨nofun, nofun⟩) (by split <;> rfl)⟩
  | unmatched r stray nextId pending calls =>
    exact .inr ⟨k', calls ▸ found', rfl, .stayed _ rfl (fun _ => ⟨nofun, nofun⟩) rfl⟩
  | drained code reason nextId pending length calls =>
    obtain ⟨l, earlier, drained⟩ := calls i k' found'
    refine .inr ⟨l, earlier, drained.purpose, ?_⟩
    rcases drained.phase with same | ⟨failure, result, start, finished⟩
    · exact .stayed _ same (fun _ => ⟨nofun, nofun⟩) drained.deadline
    · exact .drained code reason failure result start finished drained.deadline
        (drained.verdict failure result start finished)

theorem Change.length_le {c c' : Connection} {e : Option Event} (change : Change c c' e) :
    c.calls.length ≤ c'.calls.length := by
  cases change with
  | drained code reason nextId pending length => exact Nat.le_of_eq length.symm
  | _ => simp [*]

theorem Change.nextId_le {c c' : Connection} {e : Option Event} (change : Change c c' e) :
    c.nextId ≤ c'.nextId := by
  cases change <;> omega

/-- No call is lost. -/
theorem Change.advances {c c' : Connection} {e : Option Event} (change : Change c c' e) {i : Nat} {k : Call}
    (found : c.calls[i]? = some k) :
    ∃ k', c'.calls[i]? = some k' ∧ k'.purpose = k.purpose ∧ Advance c c' i k k' e := by
  have inRange := (List.getElem?_eq_some_iff.1 found).1
  have found' := List.getElem?_eq_getElem (Nat.lt_of_lt_of_le inRange change.length_le)
  rcases change.advance found' with ⟨outside, _⟩ | ⟨l, earlier, purpose, advance⟩
  · exact absurd inRange (Nat.not_lt.2 outside)
  · cases found.symm.trans earlier
    exact ⟨_, found', purpose, advance⟩

end Connection

end LanguageClient
