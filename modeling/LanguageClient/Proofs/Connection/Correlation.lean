import Mathlib.Data.List.Nodup
import LanguageClient.Proofs.Connection.Registration

/-! Every answered request has the first answer to its number. Whatever the order of the calls and
whatever the server sends, a call is given the first response with its number that is handled after
it has come to the table, or the error with which it is drained before that; responses to anything
else change no call and leave the table alone. -/
namespace LanguageClient

namespace CallPhase

def isRequesting : CallPhase → Bool
  | .checking => true
  | .numbering => true
  | .registering _ => true
  | .probing _ => true
  | .sending _ => true
  | .withdrawing _ => true
  | .waiting _ => true
  | _ => false

end CallPhase

namespace Connection

def answerTo? (number : Nat) : Event → Option Response
  | .handled r => if answeredNumber? r = some number then some r else none
  | .drained code reason => some (cancellation number code reason)
  | _ => none

def FirstAnswer (t : List Event) (call number : Nat) (answer : Option Response) : Prop :=
  ∃ before after, t = before ++ .registered call number :: after ∧
    after.findSome? (answerTo? number) = answer

inductive Returned (t : List Event) (call : Nat) : Except ClientError Json → Prop
  | answered (number : Nat) (r : Response) (first : FirstAnswer t call number (some r)) :
      Returned t call (resultOf r)
  | refused (number : Nat) (entered : (call, number) ∈ registrations t) :
      Returned t call (.error .notConnected)
  | rejected (outside : ∀ number, (call, number) ∉ registrations t) :
      Returned t call (.error .serverTerminated)

namespace FirstAnswer

variable {t : List Event} {i n : Nat}

theorem concat {answer : Option Response} (first : FirstAnswer t i n answer) (e : Event) :
    FirstAnswer (t ++ [e]) i n (answer.or (answerTo? n e)) := by
  obtain ⟨before, after, rfl, rfl⟩ := first
  refine ⟨before, after ++ [e], by simp, ?_⟩
  rw [List.findSome?_append]
  simp

private theorem registered (t : List Event) (i n : Nat) : FirstAnswer (t ++ [.registered i n]) i n none :=
  ⟨t, [], rfl, rfl⟩

theorem keep {r : Response} (first : FirstAnswer t i n (some r)) (e : Option Event) :
    FirstAnswer (t ++ e.toList) i n (some r) := by
  cases e with
  | none => simpa using first
  | some e => simpa using first.concat e

private theorem stay (first : FirstAnswer t i n none) {e : Option Event}
    (silent : e.bind (answerTo? n) = none) : FirstAnswer (t ++ e.toList) i n none := by
  cases e with
  | none => simpa using first
  | some e =>
    have more := first.concat e
    rw [Option.bind_some] at silent
    rwa [silent] at more

end FirstAnswer

structure Answered (t : List Event) (c : Connection) : Prop where
  pending : ∀ n i, (n, i) ∈ c.pending → FirstAnswer t i n none
  answer : ∀ (i : Nat) (k : Call) (r : Response), c.calls[i]? = some k → k.answer = some r →
    ∃ n, FirstAnswer t i n (some r)

namespace Answered

variable {t : List Event} {c c' : Connection}

private theorem quiet (answered : Answered t c) {e : Option Event}
    (silent : ∀ n i, (n, i) ∈ c.pending → e.bind (answerTo? n) = none)
    (pending : ∀ entry ∈ c'.pending, entry ∈ c.pending)
    (calls : ∀ (i : Nat) (k' : Call) (r : Response), c'.calls[i]? = some k' → k'.answer = some r →
      ∃ k, c.calls[i]? = some k ∧ k.answer = some r) : Answered (t ++ e.toList) c' where
  pending n i inside := (answered.pending n i (pending _ inside)).stay (silent n i (pending _ inside))
  answer i k' r found given := by
    obtain ⟨k, earlier, before⟩ := calls i k' r found given
    obtain ⟨n, first⟩ := answered.answer i k r earlier before
    exact ⟨n, first.keep e⟩

private theorem of_set {i : Nat} {k k' : Call} (found : c.calls[i]? = some k)
    (calls : c'.calls = c.calls.set i k') (answer : k'.answer = k.answer) (j : Nat) (l' : Call) (r : Response)
    (found' : c'.calls[j]? = some l') (given : l'.answer = some r) :
    ∃ l, c.calls[j]? = some l ∧ l.answer = some r := by
  rw [calls] at found'
  rcases getElem?_set_cases found' with ⟨rfl, rfl⟩ | ⟨_, earlier⟩
  · exact ⟨k, found, answer.symm.trans given⟩
  · exact ⟨l', earlier, given⟩

private theorem registered (answered : Answered t c) {i n : Nat} {k k' : Call} (found : c.calls[i]? = some k)
    (calls : c'.calls = c.calls.set i k') (answer : k'.answer = k.answer)
    (pending : c'.pending = c.pending ++ [(n, i)]) : Answered (t ++ [.registered i n]) c' where
  pending m j inside := by
    rw [pending] at inside
    rcases List.mem_append.1 inside with old | new
    · exact (answered.pending m j old).stay (e := some (.registered i n)) rfl
    · cases List.mem_singleton.1 new
      exact .registered t i n
  answer j l' r found' given := by
    obtain ⟨l, earlier, before⟩ := of_set found calls answer j l' r found' given
    obtain ⟨m, first⟩ := answered.answer j l r earlier before
    exact ⟨m, first.keep (some (.registered i n))⟩

private theorem matched (answered : Answered t c) {r : Response} {n i : Nat}
    (number : answeredNumber? r = some n) (entry : (n, i) ∈ c.pending)
    (pending : c'.pending = c.pending.filter fun entry => entry.1 ≠ n)
    (calls : c'.calls = c.calls.modify i fun k => { k with answer := some r }) :
    Answered (t ++ [.handled r]) c' where
  pending m j inside := by
    rw [pending, mem_filter_number] at inside
    have silent : answerTo? m (.handled r) = none := by
      rw [answerTo?, number, if_neg]
      intro same
      exact inside.2 (Option.some.inj same).symm
    exact (answered.pending m j inside.1).stay (e := some (.handled r)) silent
  answer j l' r' found' given := by
    rw [calls, List.getElem?_modify] at found'
    obtain ⟨l, earlier, rfl⟩ := Option.map_eq_some_iff.1 found'
    by_cases same : i = j
    · subst same
      have own : r = r' := by simpa using given
      subst own
      have first := (answered.pending n i entry).concat (.handled r)
      rw [answerTo?, number, if_pos rfl] at first
      exact ⟨n, first⟩
    · rw [if_neg same] at given
      obtain ⟨m, first⟩ := answered.answer j l r' earlier given
      exact ⟨m, first.keep (some (.handled r))⟩

private theorem drained (answered : Answered t c) {code : Int32} {reason : String} (pending : c'.pending = [])
    (calls : ∀ (j : Nat) (k' : Call), c'.calls[j]? = some k' →
      ∃ k, c.calls[j]? = some k ∧ Drained c code reason j k k') :
    Answered (t ++ [.drained code reason]) c' where
  pending n i inside := by simp [pending] at inside
  answer j l' r found given := by
    obtain ⟨l, earlier, drained⟩ := calls j l' found
    rcases drained.answer with ⟨same, _⟩ | ⟨n, inside, own⟩
    · obtain ⟨n, first⟩ := answered.answer j l r earlier (same.symm.trans given)
      exact ⟨n, first.keep (some (.drained code reason))⟩
    · cases own.symm.trans given
      exact ⟨n, (answered.pending n j inside).concat (.drained code reason)⟩

private theorem change (answered : Answered t c) {e : Option Event} (change : Change c c' e) :
    Answered (t ++ e.toList) c' := by
  cases change with
  | idle nextId pending calls =>
    exact answered.quiet (fun _ _ _ => rfl) (by simp [pending]) fun i k r found given =>
      ⟨k, calls ▸ found, given⟩
  | begun purpose nextId pending calls =>
    refine answered.quiet (fun _ _ _ => rfl) (by simp [pending]) fun i k r found given => ?_
    rw [calls] at found
    rcases getElem?_concat_cases found with earlier | rfl
    · exact ⟨k, earlier, given⟩
    · contradiction
  | passed i k phase deadline found pass nextId pending calls =>
    exact answered.quiet (fun _ _ _ => rfl) (by simp [pending]) (of_set found calls rfl)
  | numbered i k found phase nextId pending calls =>
    exact answered.quiet (fun _ _ _ => rfl) (by simp [pending]) (of_set found calls rfl)
  | registered i k n found phase nextId pending calls =>
    exact answered.registered found calls rfl pending
  | sent i k n found phase nextId pending calls =>
    exact answered.quiet (fun _ _ _ => rfl) (by simp [pending]) (of_set found calls rfl)
  | withdrawn i k n found phase nextId pending calls =>
    refine answered.quiet (fun _ _ _ => rfl) (fun entry inside => ?_) (of_set found calls rfl)
    rw [pending] at inside
    exact List.mem_of_mem_filter inside
  | matched r n i number entry nextId pending calls =>
    exact answered.matched number entry pending calls
  | unmatched r stray nextId pending calls =>
    refine answered.quiet (fun n i inside => ?_) (by simp [pending]) fun i k r found given =>
      ⟨k, calls ▸ found, given⟩
    rw [Option.bind_some, answerTo?, if_neg]
    exact fun number => stray n i number inside
  | drained code reason nextId pending length calls => exact answered.drained pending calls

private theorem connect (options : ClientOptions) (grace : Nat) : Answered [] (connect options grace) := by
  constructor <;> simp [Connection.connect]

end Answered

def Requests (t : List Event) (c : Connection) : Prop :=
  ∀ (i : Nat) (k : Call) (method : String) (params : Json), c.calls[i]? = some k →
    k.purpose = .request method params → k.phase.isRequesting = true ∨
      ∃ result, k.phase = .finished result ∧ Returned t i result

private theorem Returned.keep {t : List Event} {i : Nat} {result : Except ClientError Json}
    {e : Option Event} (returned : Returned t i result) (outside : ∀ n, e ≠ some (.registered i n)) :
    Returned (t ++ e.toList) i result := by
  cases returned with
  | answered n r first => exact .answered n r (first.keep e)
  | refused n entered => exact .refused n (mem_registrations_append entered _)
  | rejected never => exact .rejected (not_mem_registrations_append never outside)

/-- A request that goes on stays a request, or comes back. -/
theorem Pass.request {c c' : Connection} {k : Call} {phase : CallPhase} {method : String}
    {params : Json} (pass : Pass c c' k phase) (own : k.purpose = .request method params)
    (requesting : k.phase.isRequesting = true) : phase.isRequesting = true ∨
      (phase = .finished (.error .serverTerminated) ∧ k.phase = .checking) ∨
      ∃ r, phase = .finished (resultOf r) ∧ k.answer = some r := by
  obtain ⟨purpose, before, answer, deadline⟩ := k
  cases own
  cases pass with
  | announced start => cases start; contradiction
  | spared start gone => cases start; contradiction
  | decided start live => cases start; contradiction
  | rejected start gone => exact .inr (.inl ⟨rfl, start⟩)
  | checked start live => exact .inl rfl
  | refused n start closed => exact .inl rfl
  | admitted n start isOpen => exact .inl rfl
  | dropped n start ended => exact .inl rfl
  | answered n r start given => exact .inr (.inr ⟨r, rfl, given⟩)
  | telling method params start => cases start; contradiction
  | told method params result start => rcases start with start | start <;> cases start <;> contradiction
  | closing failure start closed => cases start; contradiction
  | closed failure start closed => rcases start with start | start <;> cases start <;> contradiction
  | reaped failure later start => cases start; contradiction
  | expired n purpose start => contradiction

theorem Pass.not_finished {c c' : Connection} {k : Call} {phase : CallPhase}
    (pass : Pass c c' k phase) (result : Except ClientError Json) : k.phase ≠ .finished result := by
  intro finished
  cases pass with
  | told method params result start | closed failure start closed =>
    rcases start with start | start <;> rw [start] at finished <;> contradiction
  | expired n purpose start =>
    rcases start with start | start | ⟨start, _⟩ <;> rw [start] at finished <;> contradiction
  | announced start | spared start | decided start | rejected start | checked start | refused _ start
  | admitted _ start | dropped _ start | answered _ _ start | telling _ _ start | closing _ start
  | reaped _ _ start =>
    rw [start] at finished
    contradiction

namespace Requests

variable {t : List Event} {c c' : Connection} {e : Option Event}

private theorem keep (requests : Requests t c) {i : Nat} {k : Call} {method : String} {params : Json}
    (found : c.calls[i]? = some k) (own : k.purpose = .request method params)
    (outside : ∀ n, e ≠ some (.registered i n)) : k.phase.isRequesting = true ∨
      ∃ result, k.phase = .finished result ∧ Returned (t ++ e.toList) i result := by
  rcases requests i k method params found own with going | ⟨result, finished, returned⟩
  · exact .inl going
  · exact .inr ⟨result, finished, returned.keep outside⟩

private theorem change (requests : Requests t c) (entered : Entered (registrations t) c)
    (answered : Answered t c) (change : Change c c' e) : Requests (t ++ e.toList) c' := by
  intro i k' method params found' own'
  rcases change.advance found' with ⟨_, _, purpose, rfl⟩ | ⟨k, found, same, advance⟩
  · cases purpose <;> first | exact .inl rfl | contradiction
  have own := same.symm.trans own'
  cases advance with
  | stayed e phase others =>
    rw [phase]
    exact requests.keep found own fun n => (others n).1
  | passed pass =>
    rcases requests i k method params found own with going | ⟨result, finished, _⟩
    · rcases pass.request own going with still | ⟨gone, start⟩ | ⟨r, gone, given⟩
      · exact .inl still
      · refine .inr ⟨_, gone, .rejected fun n => ?_⟩
        rw [Option.toList_none, List.append_nil]
        exact entered.early i k n found (by rw [start]; rfl)
      · obtain ⟨n, first⟩ := answered.answer i k r found given
        exact .inr ⟨_, gone, .answered n r (first.keep none)⟩
    · exact absurd finished (pass.not_finished result)
  | numbered start phase | registered n start phase | sent n start phase => exact .inl (by rw [phase]; rfl)
  | withdrawn n start phase =>
    refine .inr ⟨.error .notConnected, by rw [phase, own]; rfl, .refused n ?_⟩
    rw [Option.toList_none, List.append_nil]
    exact entered.held i k n found (by rw [start]; rfl)
  | drained code reason failure result start phase =>
    -- Only a shutdown drains the table itself.
    rcases requests i k method params found own with going | ⟨result', finished, _⟩
    · rw [start] at going
      contradiction
    · rw [start] at finished
      contradiction

private theorem connect (options : ClientOptions) (grace : Nat) : Requests [] (connect options grace) := by
  intro i k method params found
  simp [Connection.connect] at found

end Requests

structure Tracked (t : List Event) (c : Connection) : Prop where
  consistent : Consistent c
  entered : Entered (registrations t) c
  sent : Sent t c
  answered : Answered t c
  requests : Requests t c

theorem Tracked.connect (options : ClientOptions) (grace : Nat) : Tracked [] (connect options grace) :=
  ⟨.connect options grace, .connect options grace, .connect options grace, .connect options grace,
    .connect options grace⟩

theorem Tracked.move {t : List Event} {c : Connection} (tracked : Tracked t c) (m : Move) :
    Tracked (t ++ (c.event? m).toList) (c.move m) := by
  have change := (c.move_change m).1
  exact {
    consistent := tracked.consistent.change change
    entered := tracked.entered.change tracked.consistent change
    sent := tracked.sent.change tracked.consistent tracked.entered change
    answered := tracked.answered.change change
    requests := tracked.requests.change tracked.entered tracked.answered change }

theorem tracked_run (options : ClientOptions) (grace : Nat) (moves : List Move) :
    Tracked ((connect options grace).trace moves) ((connect options grace).run moves) :=
  trace_keeps Tracked (fun _ _ m tracked => tracked.move m) (.connect options grace) moves

/-- A number is used by one call, which has one first answer. -/
theorem FirstAnswer.unique {t : List Event} {i j n : Nat} {a b : Option Response}
    (numbers : ((registrations t).map Prod.snd).Nodup) (first : FirstAnswer t i n a)
    (other : FirstAnswer t j n b) : i = j ∧ a = b := by
  obtain ⟨before, after, rfl, rfl⟩ := first
  obtain ⟨before', after', split, rfl⟩ := other
  have absent : ∀ k, .registered k n ∉ before ∧ .registered k n ∉ after := by
    intro k
    simp only [registrations, List.filterMap_append, List.filterMap_cons, Event.registration?,
      List.map_append, List.map_cons] at numbers
    have apart := List.nodup_middle.1 numbers
    have outside := (List.nodup_cons.1 apart).1
    constructor <;> intro inside <;> apply outside
    · exact List.mem_append_left _ (List.mem_map.2 ⟨(k, n), List.mem_filterMap.2 ⟨_, inside, rfl⟩, rfl⟩)
    · exact List.mem_append_right _ (List.mem_map.2 ⟨(k, n), List.mem_filterMap.2 ⟨_, inside, rfl⟩, rfl⟩)
  -- If the two registrations stood in different places, one of them would use the number again.
  rcases List.append_eq_append_iff.1 split with ⟨middle, rfl, rest⟩ | ⟨middle, rfl, rest⟩
  · cases middle with
    | nil =>
      cases rest
      exact ⟨rfl, rfl⟩
    | cons e middle =>
      cases rest
      exact absurd (by simp) (absent j).2
  · cases middle with
    | nil =>
      cases rest
      exact ⟨rfl, rfl⟩
    | cons e middle =>
      cases rest
      exact absurd (by simp) (absent j).1

/-- How requests and responses belong together, after a run with the trace `t` that has led to `c`. -/
structure Correspondence (t : List Event) (c : Connection) : Prop where
  /-- A call comes to the table once, under a number that no other call has. -/
  once : ((registrations t).map Prod.fst).Nodup ∧ ((registrations t).map Prod.snd).Nodup
  /-- No two requests carry the same number, nor the same id while there are new ids. -/
  distinct : (sentNumbers t).Nodup ∧
    (c.nextId ≤ UInt64.size → ((sentNumbers t).map UInt64.ofNat).Nodup)
  /-- What is sent is a request with its number as its id. -/
  carried : ∀ m i n, c.event? m = some (.sent i n) → ∃ k, c.calls[i]? = some k ∧
    (c.move m).queue = c.queue ++ [.message (Message.request (.new (UInt64.ofNat n)
      (requestOf k.purpose).1 (some (requestOf k.purpose).2))).text]
  /-- What is pending has no answer yet. -/
  pending : ∀ n i, (n, i) ∈ c.pending → FirstAnswer t i n none
  /-- A call that waits has been given the first answer, if there was one. -/
  waiting : ∀ (i : Nat) (k : Call) (n : Nat), c.calls[i]? = some k → k.phase = .waiting n →
    FirstAnswer t i n k.answer
  /-- A request has come back with the first answer, or was refused or rejected. -/
  returned : ∀ (i : Nat) (k : Call) (method : String) (params : Json)
    (result : Except ClientError Json), c.calls[i]? = some k → k.purpose = .request method params →
      k.phase = .finished result → Returned t i result
  /-- A response to a pending request goes to its call, and to no other. -/
  given : ∀ m r n i, c.event? m = some (.handled r) → answeredNumber? r = some n →
    (n, i) ∈ c.pending → (c.move m).pending = c.pending.filter (fun entry => entry.1 ≠ n) ∧
      (c.move m).calls = c.calls.modify i fun k => { k with answer := some r }
  /-- A response with any other id, or with one that was answered before, changes nothing. -/
  stray : ∀ m r, c.event? m = some (.handled r) →
    (∀ n, answeredNumber? r = some n → (∀ i, (i, n) ∉ registrations t) ∨
      ∃ i r', FirstAnswer t i n (some r')) →
    (c.move m).pending = c.pending ∧ (c.move m).calls = c.calls
  /-- No response changes two calls. -/
  single : ∀ m r, c.event? m = some (.handled r) →
    ∃ i, ∀ j : Nat, j ≠ i → (c.move m).calls[j]? = c.calls[j]?

private theorem callEvent?_sent {c : Connection} {i j n : Nat} (event : c.callEvent? j = some (.sent i n)) :
    j = i ∧ c.writer ≠ .ended ∧ ∃ k, c.calls[i]? = some k ∧ k.phase = .sending n := by
  unfold callEvent? at event
  cases found : c.calls[j]? with
  | none => simp [found] at event
  | some k =>
    obtain ⟨purpose, phase, answer, deadline⟩ := k
    rw [found] at event
    cases phase with
    | sending m =>
      by_cases ended : c.writer = .ended
      · simp [ended] at event
      · obtain ⟨rfl, rfl⟩ : j = i ∧ m = n := by simpa [ended] using event
        exact ⟨rfl, ended, _, found, rfl⟩
    | _ => simp at event

private theorem readerEvent?_sent {c : Connection} {i n : Nat} : c.readerEvent? ≠ some (.sent i n) := by
  unfold readerEvent?
  split
  · split <;> nofun
  · nofun
  · nofun

private theorem sent_queue {c : Connection} {m : Move} {i n : Nat} (event : c.event? m = some (.sent i n)) :
    ∃ k, c.calls[i]? = some k ∧ (c.move m).queue = c.queue ++
      [.message (Message.request (.new (UInt64.ofNat n) (requestOf k.purpose).1
        (some (requestOf k.purpose).2))).text] := by
  cases m with
  | turn party =>
    cases party with
    | call j =>
      obtain ⟨rfl, going, ⟨purpose, phase, answer, deadline⟩, found, start⟩ := callEvent?_sent event
      cases start
      refine ⟨_, found, ?_⟩
      have moved : c.move (.turn (.call j)) = (c.stepCall? j).getD c := rfl
      rw [moved]
      unfold stepCall?
      rw [found]
      dsimp only [Option.bind_eq_bind, Option.bind_some, enqueue?]
      simp only [if_neg going]
      rfl
    | reader => exact absurd event readerEvent?_sent
    | _ => contradiction
  | _ => contradiction

theorem FirstAnswer.entered {t : List Event} {i n : Nat} {answer : Option Response}
    (first : FirstAnswer t i n answer) : (i, n) ∈ registrations t := by
  obtain ⟨before, after, rfl, _⟩ := first
  exact List.mem_filterMap.2 ⟨.registered i n, by simp, rfl⟩

theorem entered_call_unique {t : List Event} {i m n : Nat}
    (calls : ((registrations t).map Prod.fst).Nodup) (first : (i, m) ∈ registrations t)
    (second : (i, n) ∈ registrations t) : m = n :=
  congrArg Prod.snd (List.inj_on_of_nodup_map calls first second rfl)

theorem Tracked.waiting {t : List Event} {c : Connection} (tracked : Tracked t c) {i : Nat} {k : Call}
    {n : Nat} (found : c.calls[i]? = some k) (phase : k.phase = .waiting n) :
    FirstAnswer t i n k.answer := by
  have held : k.phase.held? = some n := by rw [phase]; rfl
  cases answer : k.answer with
  | none => exact tracked.answered.pending n i (tracked.consistent.kept i k n found held answer)
  | some r =>
    obtain ⟨m, first⟩ := tracked.answered.answer i k r found answer
    have own := tracked.entered.held i k n found held
    rwa [entered_call_unique tracked.entered.calls first.entered own] at first

private theorem Tracked.correspondence {t : List Event} {c : Connection} (tracked : Tracked t c) :
    Correspondence t c where
  once := ⟨tracked.entered.calls, tracked.entered.numbers⟩
  distinct := by
    refine ⟨tracked.sent.numbers, fun left => tracked.sent.numbers.map_on fun a first b second same => ?_⟩
    have small : ∀ n ∈ sentNumbers t, n < UInt64.size := by
      intro n inside
      obtain ⟨⟨i, n'⟩, known, rfl⟩ := List.mem_map.1 (tracked.sent.entered n inside)
      exact Nat.lt_of_lt_of_le (tracked.entered.handed i n' known) left
    have equal := congrArg UInt64.toNat same
    rwa [UInt64.toNat_ofNat', UInt64.toNat_ofNat', Nat.mod_eq_of_lt (small a first),
      Nat.mod_eq_of_lt (small b second)] at equal
  carried m i n event := sent_queue event
  pending := tracked.answered.pending
  waiting _ _ _ found phase := tracked.waiting found phase
  returned i k method params result found own finished := by
    rcases tracked.requests i k method params found own with going | ⟨result', same, returned⟩
    · rw [finished] at going
      contradiction
    · cases finished.symm.trans same
      exact returned
  given m r n i event number entry := by
    have change := (c.move_change m).1
    rw [event] at change
    cases change with
    | matched _ n' i' number' entry' nextId pending calls =>
      cases number.symm.trans number'
      cases tracked.consistent.entry_number n i i' entry entry'
      exact ⟨pending, calls⟩
    | unmatched _ stray => exact absurd entry (stray n i number)
  stray m r event other := by
    have change := (c.move_change m).1
    rw [event] at change
    cases change with
    | matched _ n i number entry nextId pending calls =>
      have waits := tracked.answered.pending n i entry
      rcases other n number with unknown | ⟨j, r', first⟩
      · exact absurd waits.entered (unknown i)
      · have same := (first.unique tracked.entered.numbers waits).2
        contradiction
    | unmatched _ stray nextId pending calls => exact ⟨pending, calls⟩
  single m r event := by
    have change := (c.move_change m).1
    rw [event] at change
    cases change with
    | matched _ n i number entry nextId pending calls =>
      refine ⟨i, fun j differs => ?_⟩
      rw [calls, List.getElem?_modify]
      simp [Ne.symm differs]
    | unmatched _ stray nextId pending calls => exact ⟨0, fun j _ => by rw [calls]⟩

/-- In every run, requests and responses belong together. -/
theorem run_correspondence (options : ClientOptions) (grace : Nat) (moves : List Move) :
    Correspondence ((connect options grace).trace moves) ((connect options grace).run moves) :=
  (tracked_run options grace moves).correspondence

end Connection

end LanguageClient
