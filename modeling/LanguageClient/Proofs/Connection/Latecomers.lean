import LanguageClient.Proofs.Connection.Turn
import LanguageClient.Proofs.Connection.Closed

/-! Calls that begin too late. Over a closed queue a call puts nothing into it: a request is refused, or
rejected once the reader has said that it has ended, and a notification is refused. A request that begins
after the reader has said so comes back at once, without a number. -/
namespace LanguageClient

def Purpose.asks : Purpose → Bool
  | .request _ _ => true
  | .handshake _ _ => true
  | _ => false

def Purpose.tells : Purpose → Bool
  | .notify _ _ => true
  | _ => false

def CallPhase.isOutside : CallPhase → Bool
  | .announcing => true
  | .deciding => true
  | .checking => true
  | .numbering => true
  | .registering _ => true
  | .probing _ => true
  | .withdrawing _ => true
  | _ => false

namespace Connection

theorem afterResult_error {purpose : Purpose} (other : purpose ≠ .shutdown) (e : ClientError) :
    afterResult purpose (.error e) = .finished (.error e) := by
  cases purpose with
  | shutdown => contradiction
  | request | notify | handshake => rfl

inductive Late (k : Call) : Prop
  | asking (purpose : k.purpose.tells = false) (outside : k.phase.isOutside = true) : Late k
  | telling (method : String) (params : Json) (purpose : k.purpose.tells = true)
      (phase : k.phase = .noticeProbing method params) : Late k
  | leaving (failure : Option String) (purpose : k.purpose = .shutdown)
      (phase : k.phase = .closing failure ∨ k.phase = .reaping failure ∨ k.phase = .cancelling failure) : Late k
  | stopped (result : Except ClientError Json) (purpose : k.purpose = .shutdown)
      (phase : k.phase = .finished result) : Late k
  | rejected (purpose : k.purpose.asks = true) (phase : k.phase = .finished (.error .serverTerminated)) : Late k
  | refused (purpose : k.purpose ≠ .shutdown) (phase : k.phase = .finished (.error .notConnected)) : Late k

private theorem Late.of_callOf (purpose : Purpose) : Late (callOf purpose) := by
  cases purpose with
  | notify method params => exact .telling method params rfl rfl
  | request | handshake | shutdown => exact .asking rfl rfl

/-- The error of a request leads a shutdown on to its end, and any other call to its own. -/
theorem Late.of_error {k k' : Call} (purpose : k'.purpose = k.purpose) (tells : k.purpose.tells = false)
    {e : ClientError} (known : e = .serverTerminated ∨ e = .notConnected)
    (phase : k'.phase = afterResult k.purpose (.error e)) : Late k' := by
  by_cases shutdown : k.purpose = .shutdown
  · rw [shutdown] at phase
    exact .leaving _ (purpose.trans shutdown) (.inl phase)
  · rw [afterResult_error shutdown] at phase
    rcases known with rfl | rfl
    · refine .rejected ?_ phase
      rw [purpose]
      cases own : k.purpose <;> rw [own] at tells shutdown <;> first | rfl | contradiction
    · refine .refused ?_ phase
      rw [purpose]
      exact shutdown

private theorem Late.of_requesting {k : Call} (late : Late k) (requesting : k.phase.isRequesting = true) :
    k.purpose.tells = false ∧ k.phase.isOutside = true := by
  cases late with
  | asking own outside => exact ⟨own, outside⟩
  | leaving failure own phase =>
    rcases phase with phase | phase | phase <;> rw [phase] at requesting <;> contradiction
  | telling _ _ _ phase | stopped _ _ phase | rejected _ phase | refused _ phase =>
    rw [phase] at requesting
    contradiction

private theorem Late.passed {c c' : Connection} {k k' : Call} (late : Late k) (closed : c.closed = true)
    (shutdown : k.phase.isShutdown = true → k.purpose = .shutdown) (purpose : k'.purpose = k.purpose)
    (pass : Pass c c' k k'.phase) : Late k' := by
  generalize now : k'.phase = phase at pass
  cases late with
  | asking own outside =>
    have tells : k'.purpose.tells = false := by
      rw [purpose]
      exact own
    cases pass with
    | announced start | decided start | checked start | refused n start =>
      exact .asking tells (by rw [now]; rfl)
    | rejected start gone => exact .of_error purpose own (.inl rfl) now
    | spared start gone => exact .leaving none (purpose.trans (shutdown (by rw [start]; rfl))) (.inl now)
    | expired n own => exact .leaving _ (purpose.trans own) (.inl now)
    | admitted n start isOpen =>
      rw [closed] at isOpen
      contradiction
    | told method params result start | closed failure start =>
      rcases start with start | start <;> rw [start] at outside <;> contradiction
    | dropped _ start | answered _ _ start | telling _ _ start | closing _ start | reaped _ _ start =>
      rw [start] at outside
      contradiction
  | telling method params own before =>
    cases pass with
    | told method params result start refused =>
      obtain ⟨_, result_eq⟩ := refused (start.resolve_right (by rw [before]; nofun))
      have other : k.purpose ≠ .shutdown := by
        intro same
        rw [same] at own
        contradiction
      refine .refused (by rw [purpose]; exact other) ?_
      rw [now, result_eq]
      cases same : k.purpose <;> rw [same] at own <;> first | rfl | contradiction
    | telling method params start isOpen =>
      rw [closed] at isOpen
      contradiction
    | closed failure start =>
      rcases start with start | start <;> rw [start] at before <;> contradiction
    | expired n own start =>
      rcases start with start | start | ⟨start, _⟩ <;> rw [start] at before <;> contradiction
    | announced start | spared start | decided start | rejected start | checked start | refused _ start
    | admitted _ start | dropped _ start | answered _ _ start | closing _ start | reaped _ _ start =>
      rw [start] at before
      contradiction
  | leaving failure own before =>
    cases pass with
    | closing failure start _ isOpen =>
      rw [closed] at isOpen
      contradiction
    | closed failure start => exact .leaving failure (purpose.trans own) (.inr (.inl now))
    | reaped failure later start => exact .leaving later (purpose.trans own) (.inr (.inr now))
    | expired n own start =>
      rcases start with start | start | ⟨start, _⟩ <;> rw [start] at before <;>
        rcases before with before | before | before <;> contradiction
    | told method params result start =>
      rcases start with start | start <;> rw [start] at before <;>
        rcases before with before | before | before <;> contradiction
    | announced start | spared start | decided start | rejected start | checked start | refused _ start
    | admitted _ start | dropped _ start | answered _ _ start | telling _ _ start =>
      rw [start] at before
      rcases before with before | before | before <;> contradiction
  | stopped result own finished => exact absurd finished (pass.not_finished result)
  | rejected own finished | refused own finished => exact absurd finished (pass.not_finished _)

private theorem Late.advance {c c' : Connection} {e : Option Event} {i : Nat} {k k' : Call} (late : Late k)
    (closed : c.closed = true) (shutdown : k.phase.isShutdown = true → k.purpose = .shutdown)
    (purpose : k'.purpose = k.purpose) (advance : Advance c c' i k k' e) :
    Late k' ∧ ∀ n, e ≠ some (.sent i n) := by
  cases advance with
  | stayed e phase others =>
    refine ⟨?_, fun n => (others n).2⟩
    cases late with
    | asking own outside => exact .asking (by rw [purpose]; exact own) (by rw [phase]; exact outside)
    | telling method params own start =>
      exact .telling method params (by rw [purpose]; exact own) (phase.trans start)
    | leaving failure own start =>
      rw [← phase] at start
      exact .leaving failure (purpose.trans own) start
    | stopped result own finished => exact .stopped result (purpose.trans own) (phase.trans finished)
    | rejected own finished => exact .rejected (by rw [purpose]; exact own) (phase.trans finished)
    | refused own finished => exact .refused (by rw [purpose]; exact own) (phase.trans finished)
  | passed pass => exact ⟨late.passed closed shutdown purpose pass, nofun⟩
  | numbered start phase | registered n start phase =>
    obtain ⟨own, _⟩ := late.of_requesting (by rw [start]; rfl)
    exact ⟨.asking (by rw [purpose]; exact own) (by rw [phase]; rfl), nofun⟩
  | sent n start =>
    obtain ⟨_, outside⟩ := late.of_requesting (by rw [start]; rfl)
    rw [start] at outside
    contradiction
  | withdrawn n start phase =>
    obtain ⟨own, _⟩ := late.of_requesting (by rw [start]; rfl)
    exact ⟨.of_error purpose own (.inr rfl) phase, nofun⟩
  | drained code reason failure result start phase =>
    exact ⟨.stopped result (purpose.trans (shutdown (by rw [start]; rfl))) phase, nofun⟩

/-- A latecomer has nothing to put into the queue. -/
theorem Late.outbound? {k : Call} (late : Late k) : k.outbound? = none := by
  rw [Call.outbound?]
  cases late with
  | asking own outside =>
    cases phase : k.phase <;> rw [phase] at outside <;> first | rfl | contradiction
  | leaving failure own start =>
    rcases start with start | start | start <;> rw [start] <;> rfl
  | telling _ _ _ phase | stopped _ _ phase | rejected _ phase | refused _ phase =>
    rw [phase]
    rfl

theorem Late.told {k : Call} (late : Late k) (tells : k.purpose.tells = true) :
    (∃ method params, k.phase = .noticeProbing method params) ∨ k.phase = .finished (.error .notConnected) := by
  cases late with
  | telling method params own phase => exact .inl ⟨method, params, phase⟩
  | refused own phase => exact .inr phase
  | asking own => cases own.symm.trans tells
  | leaving _ own | stopped _ own =>
    rw [own] at tells
    contradiction
  | rejected own =>
    cases purpose : k.purpose <;> rw [purpose] at own tells <;> contradiction

/-- A notification that comes too late is refused, and a request comes back with an error. -/
theorem Late.result {k : Call} (late : Late k) {result : Except ClientError Json}
    (finished : k.phase = .finished result) : (k.purpose.tells = true → result = .error .notConnected) ∧
      (k.purpose.asks = true → ∃ e, result = .error e) := by
  refine ⟨fun tells => ?_, fun asks => ?_⟩
  · rcases late.told tells with ⟨_, _, phase⟩ | phase
    · cases phase.symm.trans finished
    · cases phase.symm.trans finished
      rfl
  · cases late with
    | asking own outside =>
      rw [finished] at outside
      contradiction
    | telling _ _ _ phase => cases phase.symm.trans finished
    | leaving failure own phase => rcases phase with phase | phase | phase <;> cases phase.symm.trans finished
    | stopped _ own =>
      rw [own] at asks
      contradiction
    | rejected own phase | refused own phase =>
      cases finished.symm.trans phase
      exact ⟨_, rfl⟩

/-- In its next turn a notification over a closed queue comes back, and nothing else changes. -/
theorem telling_turn {c : Connection} {i : Nat} {k : Call} {method : String} {params : Json}
    (closed : c.closed = true) (found : c.calls[i]? = some k) (tells : k.purpose.tells = true)
    (phase : k.phase = .noticeProbing method params) :
    c.move (.turn (.call i)) = c.setPhase i (.finished (.error .notConnected)) := by
  obtain ⟨purpose, _, answer, deadline⟩ := k
  cases phase
  rw [move_call, stepCall?, found]
  dsimp only [Option.bind_eq_bind, Option.bind_some]
  rw [if_pos closed]
  cases purpose <;> first | rfl | contradiction

structure Shut (latecomer : Nat → Prop) (c : Connection) : Prop where
  closed : c.closed = true
  shutdowns : Shutdowns c
  late : ∀ (i : Nat) (k : Call), latecomer i → c.calls[i]? = some k → Late k

private theorem Shut.move {latecomer : Nat → Prop} {c : Connection} (shut : Shut latecomer c) (m : Move) :
    Shut latecomer (c.move m) ∧ ∀ i n, latecomer i → c.event? m ≠ some (.sent i n) := by
  obtain ⟨change, onward⟩ := c.move_change m
  refine ⟨⟨onward.closed shut.closed, shut.shutdowns.change change, fun i k' new found' => ?_⟩,
    fun i n new sent => ?_⟩
  · rcases change.advance found' with ⟨_, _, purpose, rfl⟩ | ⟨k, found, purpose, advance⟩
    · exact .of_callOf purpose
    · exact ((shut.late i k new found).advance shut.closed (shut.shutdowns i k found) purpose advance).1
  · -- Whoever sends has been there before.
    rw [sent] at change
    cases change with
    | sent _ k _ found phase =>
      have idle := (shut.late i k new found).outbound?
      rw [Call.outbound?, phase] at idle
      contradiction

theorem Shut.run {latecomer : Nat → Prop} {c : Connection} (shut : Shut latecomer c) (more : List Move) :
    Shut latecomer (c.run more) ∧ ∀ i n, latecomer i → .sent i n ∉ c.trace more := by
  induction more generalizing c with
  | nil => exact ⟨shut, fun _ _ _ => List.not_mem_nil⟩
  | cons m rest ih =>
    obtain ⟨next, silent⟩ := shut.move m
    obtain ⟨last, quiet⟩ := ih next
    refine ⟨last, fun i n new inside => ?_⟩
    rcases List.mem_append.1 inside with now | later
    · exact silent i n new (Option.mem_toList.1 now)
    · exact quiet i n new later

def Turned (k : Call) : Prop :=
  k.purpose.asks = true → k.phase = .checking ∨ k.phase = .finished (.error .serverTerminated)

private theorem Turned.advance {c c' : Connection} {e : Option Event} {i : Nat} {k k' : Call} (turned : Turned k)
    (gone : c.terminated = true) (purpose : k'.purpose = k.purpose) (advance : Advance c c' i k k' e) :
    Turned k' := by
  intro asks
  rw [purpose] at asks
  have before := turned asks
  cases advance with
  | stayed e phase =>
    rw [phase]
    exact before
  | passed pass =>
    generalize now : k'.phase = phase at pass
    rcases before with checking | finished
    · cases pass with
      | rejected start =>
        have other : k.purpose ≠ .shutdown := by
          intro same
          rw [same] at asks
          contradiction
        exact .inr (afterResult_error other _)
      | checked start live =>
        rw [gone] at live
        contradiction
      | told method params result start | closed failure start =>
        rcases start with start | start <;> rw [start] at checking <;> contradiction
      | expired n own start =>
        rcases start with start | start | ⟨start, _⟩ <;> rw [start] at checking <;> contradiction
      | announced start | spared start | decided start | refused _ start | admitted _ start | dropped _ start
      | answered _ _ start | telling _ _ start | closing _ start | reaped _ _ start =>
        rw [start] at checking
        contradiction
    · exact absurd finished (pass.not_finished _)
  | numbered start | registered n start | sent n start | withdrawn n start | drained _ _ _ _ start =>
    rw [start] at before
    rcases before with before | before <;> contradiction

theorem turned_run {first : Nat} {c : Connection} (gone : c.terminated = true)
    (turned : ∀ (i : Nat) (k : Call), first ≤ i → c.calls[i]? = some k → Turned k) (more : List Move) (i : Nat)
    (k : Call) (new : first ≤ i) (found : (c.run more).calls[i]? = some k) : Turned k := by
  induction more generalizing c with
  | nil => exact turned i k new found
  | cons m rest ih =>
    refine ih ((c.move_course m).1.terminated gone) (fun j l' later found' => ?_) found
    rcases (c.move_change m).1.advance found' with ⟨_, _, purpose, rfl⟩ | ⟨l, earlier, purpose, advance⟩
    · intro asks
      cases purpose <;> first | exact .inl rfl | contradiction
    · exact (turned j l later earlier).advance gone purpose advance

/-- In its next turn such a request comes back, and nothing else changes. -/
theorem turned_turn {c : Connection} {i : Nat} {k : Call} (gone : c.terminated = true)
    (found : c.calls[i]? = some k) (asks : k.purpose.asks = true) (phase : k.phase = .checking) :
    c.move (.turn (.call i)) = c.setPhase i (.finished (.error .serverTerminated)) := by
  obtain ⟨purpose, _, answer, deadline⟩ := k
  cases phase
  rw [move_call, stepCall?, found]
  dsimp only [Option.bind_eq_bind, Option.bind_some]
  rw [if_pos gone]
  cases purpose <;> first | rfl | contradiction

end Connection

end LanguageClient
