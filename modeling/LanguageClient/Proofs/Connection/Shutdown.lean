import LanguageClient.Proofs.Connection.Entries
import LanguageClient.Proofs.Connection.Fate

/-! How a shutdown comes out. A shutdown looks whether the reader has ended, and otherwise asks the server
until it is answered or its time is up; then it closes the queue and drains the table. What it has found on
the way are its milestones, and they decide what it returns. -/
namespace LanguageClient

inductive Milestone where
  | spared (call : Nat)
  | asked (call limit : Nat)
  | expired (call time : Nat)
  deriving DecidableEq

def Milestone.call : Milestone → Nat
  | .spared call => call
  | .asked call _ => call
  | .expired call _ => call

namespace CallPhase

def isOutset : CallPhase → Bool
  | .announcing => true
  | .deciding => true
  | _ => false

def notice? : CallPhase → Option (String × Json)
  | .noticeProbing method params => some (method, params)
  | .noticeSending method params => some (method, params)
  | _ => none

def failure? : CallPhase → Option (Option String)
  | .closing failure => some failure
  | .marking failure => some failure
  | .reaping failure => some failure
  | .cancelling failure => some failure
  | _ => none

end CallPhase

namespace Connection

def milestone? (c : Connection) : Move → Option Milestone
  | .turn (.call i) =>
    match c.calls[i]?.map Call.phase with
    | some .deciding => some (if c.terminated then .spared i else .asked i (c.clock + c.grace))
    | _ => none
  | .turn (.timer i) =>
    match c.calls[i]?.map Call.phase, c.stepTimer? i with
    | some phase, some _ => if phase.isRequesting then some (.expired i c.clock) else none
    | _, _ => none
  | _ => none

def milestones (c : Connection) (moves : List Move) : List Milestone :=
  c.gather (fun c m => (c.milestone? m).toList) moves

structure Acknowledged (t : List Event) (ms : List Milestone) (s : Nat) : Prop where
  answered : ∃ n r value, .sent s n ∈ t ∧ FirstAnswer t s n (some r) ∧ r.outcome = .ok value
  inTime : ∀ time, .expired s time ∉ ms

structure Spared (t : List Event) (ms : List Milestone) (s : Nat) : Prop where
  found : .spared s ∈ ms
  unasked : ∀ limit, .asked s limit ∉ ms
  outside : ∀ n, (s, n) ∉ registrations t

inductive Failed (t : List Event) (ms : List Milestone) (s : Nat) : Prop
  | expired (time : Nat) (expired : .expired s time ∈ ms) : Failed t ms s
  | unsent (unsent : ∀ n, .sent s n ∉ t) : Failed t ms s
  | answered (n : Nat) (r : Response) (e : ResponseError) (first : FirstAnswer t s n (some r))
      (outcome : r.outcome = .error e) : Failed t ms s

inductive Why (t : List Event) (ms : List Milestone) (s : Nat) : Option String → Prop
  | spared (spared : Spared t ms s) : Why t ms s none
  | acknowledged (acknowledged : Acknowledged t ms s) (unspared : .spared s ∉ ms) : Why t ms s none
  | failed (reason : String) (limit : Nat) (asked : .asked s limit ∈ ms) (unspared : .spared s ∉ ms)
      (failed : Failed t ms s) : Why t ms s (some reason)

inductive Standing (t : List Event) (ms : List Milestone) (s : Nat) (k : Call) : Prop
  | begun (phase : k.phase.isOutset = true) (new : ∀ x ∈ ms, x.call ≠ s) : Standing t ms s k
  | asking (phase : k.phase.isRequesting = true) (asked : .asked s k.deadline ∈ ms)
      (only : ∀ x ∈ ms, x.call = s → x = .asked s k.deadline)
      (sent : ∀ n, k.phase = .waiting n → .sent s n ∈ t) : Standing t ms s k
  | telling (phase : k.phase.notice? = some ("exit", .null)) (acknowledged : Acknowledged t ms s)
      (unspared : .spared s ∉ ms) : Standing t ms s k
  | leaving (failure : Option String) (phase : k.phase.failure? = some failure) (why : Why t ms s failure) : Standing t ms s k
  | back (failure : Option String) (phase : k.phase = .finished (verdict failure)) (why : Why t ms s failure) :
      Standing t ms s k

inductive Ring (c c' : Connection) (i : Nat) (k : Call) : Prop
  | gaveUp (n : Nat) (phase : k.phase = .registering n ∨ k.phase = .withdrawing n ∨
        k.phase = .waiting n ∧ k.answer = none)
      (call : c'.calls[i]? = some { k with phase := .closing (some "shutdown request timed out") }) : Ring c c' i k
  | killed (failure : Option String) (phase : k.phase = .reaping failure) (running : c.process = .running) :
      Ring c c' i k

theorem stepTimer?_ring {c c' : Connection} {i : Nat} (step : c.stepTimer? i = some c') :
    ∃ k, c.calls[i]? = some k ∧ k.purpose = .shutdown ∧ k.deadline ≤ c.clock ∧ Ring c c' i k := by
  unfold stepTimer? at step
  cases found : c.calls[i]? with
  | none => simp [found] at step
  | some k =>
    rw [found] at step
    dsimp only [Option.bind_eq_bind, Option.bind_some] at step
    split at step
    · contradiction
    · next now =>
      have due : k.purpose = .shutdown ∧ k.deadline ≤ c.clock := by simpa using now
      refine ⟨k, rfl, due.1, due.2, ?_⟩
      split at step
      · next n phase =>
        cases step
        exact .gaveUp n (.inl phase) (setPhase_getElem? found _)
      · next n phase =>
        cases step
        exact .gaveUp n (.inr (.inl phase)) (setPhase_getElem? found _)
      · next n phase =>
        split at step
        · contradiction
        · next unanswered =>
          cases step
          exact .gaveUp n (.inr (.inr ⟨phase, by simpa using unanswered⟩)) (setPhase_getElem? found _)
      · next failure phase =>
        split at step
        · next running => exact .killed failure phase running
        · contradiction
      · contradiction

theorem move_timer (c : Connection) (i : Nat) : c.move (.turn (.timer i)) = (c.stepTimer? i).getD c := rfl

/-- A milestone of a shutdown is that it has looked, or that it gives up its request. -/
theorem milestone?_own {c : Connection} {m : Move} {x : Milestone} {k : Call} (given : c.milestone? m = some x)
    (found : c.calls[x.call]? = some k) :
    (m = .turn (.call x.call) ∧ k.phase = .deciding) ∨
      (m = .turn (.timer x.call) ∧ k.phase.isRequesting = true ∧ x = .expired x.call c.clock ∧
        ∃ c', c.stepTimer? x.call = some c') := by
  unfold milestone? at given
  split at given
  · next i =>
    split at given
    · next phase =>
      have own : x.call = i := by
        cases given
        split <;> rfl
      subst own
      rw [found] at phase
      exact .inl ⟨rfl, Option.some.inj phase⟩
    · contradiction
  · next i =>
    split at given
    · next phase c' present step =>
      split at given
      · next requesting =>
        cases given
        rw [Milestone.call] at found
        rw [found] at present
        cases Option.some.inj present
        exact .inr ⟨rfl, requesting, rfl, c', step⟩
      · contradiction
    · contradiction
  · contradiction

private theorem milestone?_of_phase {c : Connection} {i : Nat} {k : Call} (found : c.calls[i]? = some k)
    (other : k.phase ≠ .deciding) : c.milestone? (.turn (.call i)) = none := by
  rw [milestone?, found, Option.map_some]
  split
  · next same => exact absurd (Option.some.inj same) other
  · rfl

section Keep
variable {t : List Event} {ms : List Milestone} {s : Nat} {e : Option Event} {more : List Milestone}

private theorem not_mem_append_of_new {x : Milestone} (outside : x ∉ ms) (new : ∀ y ∈ more, y.call ≠ x.call) :
    x ∉ ms ++ more := by
  intro inside
  rcases List.mem_append.1 inside with old | late
  · exact outside old
  · exact new x late rfl

private theorem Acknowledged.keep (acknowledged : Acknowledged t ms s) (e : Option Event)
    (new : ∀ x ∈ more, x.call ≠ s) : Acknowledged (t ++ e.toList) (ms ++ more) s where
  answered := by
    obtain ⟨n, r, value, sent, first, outcome⟩ := acknowledged.answered
    exact ⟨n, r, value, List.mem_append_left _ sent, first.keep e, outcome⟩
  inTime time := not_mem_append_of_new (acknowledged.inTime time) new

private theorem Spared.keep (spared : Spared t ms s) (silent : ∀ n, e ≠ some (.registered s n))
    (new : ∀ x ∈ more, x.call ≠ s) : Spared (t ++ e.toList) (ms ++ more) s where
  found := List.mem_append_left _ spared.found
  unasked limit := not_mem_append_of_new (spared.unasked limit) new
  outside := not_mem_registrations_append spared.outside silent

private theorem not_sent_append (unsent : ∀ n, .sent s n ∉ t) (silent : ∀ n, e ≠ some (.sent s n)) (n : Nat) :
    .sent s n ∉ t ++ e.toList := by
  intro inside
  rcases List.mem_append.1 inside with old | new
  · exact unsent n old
  · exact silent n (Option.mem_toList.1 new)

private theorem Failed.keep (failed : Failed t ms s) (silent : ∀ n, e ≠ some (.sent s n)) (more : List Milestone) :
    Failed (t ++ e.toList) (ms ++ more) s := by
  cases failed with
  | expired time expired => exact .expired time (List.mem_append_left _ expired)
  | unsent unsent => exact .unsent (not_sent_append unsent silent)
  | answered n r error first outcome => exact .answered n r error (first.keep e) outcome

private theorem Why.keep {failure : Option String} (why : Why t ms s failure)
    (silent : ∀ n, e ≠ some (.registered s n) ∧ e ≠ some (.sent s n)) (new : ∀ x ∈ more, x.call ≠ s) :
    Why (t ++ e.toList) (ms ++ more) s failure := by
  cases why with
  | spared spared => exact .spared (spared.keep (fun n => (silent n).1) new)
  | acknowledged acknowledged unspared =>
    exact .acknowledged (acknowledged.keep e new) (not_mem_append_of_new unspared new)
  | failed reason limit asked unspared failed =>
    exact .failed reason limit (List.mem_append_left _ asked) (not_mem_append_of_new unspared new)
      (failed.keep (fun n => (silent n).2) more)

/-- A shutdown that stays where it is stands as it did. -/
theorem Standing.keep {k k' : Call} (standing : Standing t ms s k) (phase : k'.phase = k.phase)
    (deadline : k.phase.isRequesting = true → k'.deadline = k.deadline)
    (silent : ∀ n, e ≠ some (.registered s n) ∧ e ≠ some (.sent s n)) (new : ∀ x ∈ more, x.call ≠ s) :
    Standing (t ++ e.toList) (ms ++ more) s k' := by
  cases standing with
  | begun start before =>
    rw [← phase] at start
    refine .begun start fun x inside => ?_
    exact (List.mem_append.1 inside).elim (before x) (new x)
  | asking start asked only sent =>
    have same := deadline start
    rw [← phase] at start
    rw [← same] at asked only
    refine .asking start (List.mem_append_left _ asked) (fun x inside own => ?_) fun n waits => ?_
    · exact (List.mem_append.1 inside).elim (only x · own) fun late => absurd own (new x late)
    · exact List.mem_append_left _ (sent n (phase.symm.trans waits))
  | telling start acknowledged unspared =>
    rw [← phase] at start
    exact .telling start (acknowledged.keep e new) (not_mem_append_of_new unspared new)
  | leaving failure start why =>
    rw [← phase] at start
    exact .leaving failure start (why.keep silent new)
  | back failure start why => exact .back failure (phase.trans start) (why.keep silent new)

end Keep

section Turn
variable {t : List Event} {ms : List Milestone} {c c' : Connection} {s : Nat} {k k' : Call}

private theorem not_leaving_of_requesting {phase : CallPhase} (requesting : phase.isRequesting = true) :
    phase ≠ .deciding ∧ phase.isLeaving = false := by
  cases phase <;> first | contradiction | exact ⟨nofun, rfl⟩

private theorem stepCall?_waiting {n : Nat} (found : c.calls[s]? = some k) (phase : k.phase = .waiting n)
    (unanswered : k.answer = none) : c.stepCall? s = none := by
  obtain ⟨purpose, _, _, deadline⟩ := k
  cases phase
  cases unanswered
  rw [stepCall?, found]
  rfl

private theorem Standing.decided (tracked : Tracked t c) (found : c.calls[s]? = some k)
    (start : k.phase.isOutset = true) (new : ∀ x ∈ ms, x.call ≠ s)
    (pass : Pass c c' k k'.phase) (timing : Timing c k k'.phase k'.deadline) :
    Standing t (ms ++ (c.milestone? (.turn (.call s))).toList) s k' := by
  generalize now : k'.phase = phase at pass timing
  cases pass with
  | announced before =>
    rw [milestone?_of_phase found (by rw [before]; nofun), Option.toList_none, List.append_nil]
    exact .begun (by rw [now]; rfl) new
  | spared before gone =>
    have looked : c.milestone? (.turn (.call s)) = some (.spared s) := by
      rw [milestone?, found, Option.map_some, before]
      exact congrArg some (if_pos gone)
    rw [looked]
    have early : k.phase.isEarly = true := by rw [before]; rfl
    refine .leaving none (by rw [now]; rfl) (.spared ⟨by simp, fun limit inside => ?_, ?_⟩)
    · rcases List.mem_append.1 inside with old | late
      · exact new _ old rfl
      · cases Option.mem_toList.1 late
    · exact fun n => tracked.entered.early s k n found early
  | decided before live =>
    have looked : c.milestone? (.turn (.call s)) = some (.asked s k'.deadline) := by
      rw [milestone?, found, Option.map_some, before, timing.asked rfl]
      exact congrArg some (if_neg (by rw [live]; nofun))
    rw [looked]
    refine .asking (by rw [now]; rfl) (by simp) (fun x inside own => ?_) fun n waits => ?_
    · rcases List.mem_append.1 inside with old | late
      · exact absurd own (new x old)
      · exact (Option.some.inj (Option.mem_toList.1 late)).symm
    · rw [now] at waits
      contradiction
  | told _ _ _ before | closed _ before =>
    rcases before with before | before <;> rw [before] at start <;> contradiction
  | expired _ _ before =>
    rcases before with before | before | ⟨before, _⟩ <;> rw [before] at start <;> contradiction
  | rejected before | checked before | refused _ before | admitted _ before | dropped _ before
  | answered _ _ before | telling _ _ before | closing _ before | reaped _ _ before =>
    rw [before] at start
    contradiction

/-- A shutdown goes on to close the queue when its request was not sent. -/
theorem Standing.of_unsent (own : k.purpose = .shutdown) (asked : .asked s k.deadline ∈ ms)
    (only : ∀ x ∈ ms, x.call = s → x = .asked s k.deadline) (unsent : ∀ n, .sent s n ∉ t) {e : ClientError}
    (now : k'.phase = afterResult k.purpose (.error e)) : Standing t ms s k' := by
  rw [own] at now
  refine .leaving _ (by rw [now]; rfl) (.failed _ k.deadline asked (fun inside => ?_) (.unsent unsent))
  exact nomatch only _ inside rfl

private theorem Standing.asked (tracked : Tracked t c) (unsent : Unsent t c) (found : c.calls[s]? = some k)
    (own : k.purpose = .shutdown) (step : c.stepCall? s = some c') (start : k.phase.isRequesting = true)
    (asked : .asked s k.deadline ∈ ms) (only : ∀ x ∈ ms, x.call = s → x = .asked s k.deadline)
    (sent : ∀ n, k.phase = .waiting n → .sent s n ∈ t) (pass : Pass c c' k k'.phase)
    (timing : Timing c k k'.phase k'.deadline) : Standing t ms s k' := by
  have unspared : .spared s ∉ ms := fun inside => Milestone.noConfusion (only _ inside rfl)
  have unsent := unsent.unsent s k found
  have same : k'.deadline = k.deadline := by
    obtain ⟨other, going⟩ := not_leaving_of_requesting start
    exact timing.kept other going
  have still (requesting : k'.phase.isRequesting = true) (waits : ∀ n, k'.phase = .waiting n → .sent s n ∈ t) :
      Standing t ms s k' := by
    rw [← same] at asked only
    exact .asking requesting asked only waits
  generalize now : k'.phase = phase at pass timing still
  cases pass with
  | checked before | refused _ before | admitted _ before | dropped _ before => exact still rfl nofun
  | rejected before gone => exact .of_unsent own asked only (unsent (by rw [before]; rfl)) now
  | answered n r before given =>
    have first := tracked.waiting found before
    rw [given] at first
    rw [own] at now
    cases outcome : r.outcome with
    | ok value =>
      rw [resultOf, outcome] at now
      have acknowledged : Acknowledged t ms s :=
        ⟨⟨n, r, value, sent n before, first, outcome⟩, fun time inside => Milestone.noConfusion (only _ inside rfl)⟩
      exact .telling (by rw [now]; rfl) acknowledged unspared
    | error e =>
      obtain ⟨error, result⟩ : ∃ error, resultOf r = .error error := by
        rw [resultOf, outcome]
        dsimp only
        split <;> exact ⟨_, rfl⟩
      rw [result] at now
      exact .leaving _ (by rw [now]; rfl) (.failed _ k.deadline asked unspared (.answered n r e first outcome))
  | expired n _ before =>
    rcases before with before | before | ⟨before, unanswered⟩
    · exact .leaving _ (by rw [now]; rfl) (.failed _ k.deadline asked unspared (.unsent (unsent (by rw [before]; rfl))))
    · exact .leaving _ (by rw [now]; rfl) (.failed _ k.deadline asked unspared (.unsent (unsent (by rw [before]; rfl))))
    · cases step.symm.trans (stepCall?_waiting found before unanswered)
  | told _ _ _ before | closed _ before => rcases before with before | before <;> rw [before] at start <;> contradiction
  | announced before | spared before | decided before | telling _ _ before | closing _ before | reaped _ _ before =>
    rw [before] at start
    contradiction

private theorem Standing.told (own : k.purpose = .shutdown)
    (start : k.phase.notice? = some ("exit", .null))
    (acknowledged : Acknowledged t ms s) (unspared : .spared s ∉ ms) (pass : Pass c c' k k'.phase) :
    Standing t ms s k' := by
  generalize now : k'.phase = phase at pass
  cases pass with
  | telling method params before =>
    have same : method = "exit" ∧ params = .null := by
      rw [before] at start
      cases start
      exact ⟨rfl, rfl⟩
    rw [same.1, same.2] at now
    exact .telling (by rw [now]; rfl) acknowledged unspared
  | told method params result before =>
    rw [own] at now
    exact .leaving none (by rw [now]; rfl) (.acknowledged acknowledged unspared)
  | closed _ before => rcases before with before | before <;> rw [before] at start <;> contradiction
  | expired _ _ before =>
    rcases before with before | before | ⟨before, _⟩ <;> rw [before] at start <;> contradiction
  | announced before | spared before | decided before | rejected before | checked before | refused _ before
  | admitted _ before | dropped _ before | answered _ _ before | closing _ before | reaped _ _ before =>
    rw [before] at start
    contradiction

/-- Over a pair of streams a shutdown that closes the queue keeps to what it has found. -/
theorem Standing.left {failure : Option String} (absent : c.process = .absent)
    (start : k.phase.failure? = some failure) (why : Why t ms s failure) (pass : Pass c c' k k'.phase) : Standing t ms s k' := by
  generalize now : k'.phase = phase at pass
  cases pass with
  | closing last before =>
    rw [before] at start
    cases start
    exact .leaving failure (by rw [now]; rfl) why
  | closed last before =>
    have same : last = failure := by
      rcases before with before | before <;> rw [before] at start <;> cases start <;> rfl
    rw [same] at now
    exact .leaving failure (by rw [now]; rfl) why
  | reaped last later before kept =>
    have same : last = failure := by
      rw [before] at start
      cases start
      rfl
    rw [kept absent, same] at now
    exact .leaving failure (by rw [now]; rfl) why
  | told _ _ _ before =>
    rcases before with before | before <;> rw [before] at start <;> contradiction
  | expired _ _ before =>
    rcases before with before | before | ⟨before, _⟩ <;> rw [before] at start <;> contradiction
  | announced before | spared before | decided before | rejected before | checked before | refused _ before
  | admitted _ before | dropped _ before | answered _ _ before | telling _ _ before =>
    rw [before] at start
    contradiction

private theorem Standing.turn (standing : Standing t ms s k) (tracked : Tracked t c) (unsent : Unsent t c)
    (absent : c.process = .absent) (found : c.calls[s]? = some k) (own : k.purpose = .shutdown)
    (step : c.stepCall? s = some c') {e : Option Event} (advance : Advance c c' s k k' e)
    (less : k'.phase.toGo < k.phase.toGo) :
    Standing (t ++ e.toList) (ms ++ (c.milestone? (.turn (.call s))).toList) s k' := by
  cases standing with
  | begun start new =>
    cases advance with
    | stayed e phase =>
      rw [phase] at less
      exact absurd less (Nat.lt_irrefl _)
    | passed pass timing =>
      rw [Option.toList_none, List.append_nil]
      exact .decided tracked found start new pass timing
    | numbered before | registered _ before | sent _ before | withdrawn _ before | drained _ _ _ _ before =>
      rw [before] at start
      contradiction
  | asking start asked only sent =>
    have quiet : c.milestone? (.turn (.call s)) = none := by
      refine milestone?_of_phase found fun deciding => ?_
      rw [deciding] at start
      contradiction
    rw [quiet, Option.toList_none, List.append_nil]
    have still (same : k'.deadline = k.deadline) (requesting : k'.phase.isRequesting = true)
        (waits : ∀ n, k'.phase = .waiting n → .sent s n ∈ t ++ e.toList) : Standing (t ++ e.toList) ms s k' := by
      rw [← same] at asked only
      exact .asking requesting asked only waits
    cases advance with
    | stayed e phase =>
      rw [phase] at less
      exact absurd less (Nat.lt_irrefl _)
    | passed pass timing =>
      rw [Option.toList_none, List.append_nil]
      exact .asked tracked unsent found own step start asked only sent pass timing
    | numbered before phase deadline | registered n before phase deadline =>
      exact still deadline (by rw [phase]; rfl) (by simp [phase])
    | sent n before phase deadline =>
      refine still deadline (by rw [phase]; rfl) fun m waits => ?_
      cases phase.symm.trans waits
      simp
    | withdrawn n before phase =>
      rw [Option.toList_none, List.append_nil]
      exact .of_unsent own asked only (unsent.unsent s k found (by rw [before]; rfl)) phase
    | drained _ _ _ _ before =>
      rw [before] at start
      contradiction
  | telling start acknowledged unspared =>
    have quiet : c.milestone? (.turn (.call s)) = none := by
      refine milestone?_of_phase found fun deciding => ?_
      rw [deciding] at start
      contradiction
    rw [quiet, Option.toList_none, List.append_nil]
    cases advance with
    | stayed e phase =>
      rw [phase] at less
      exact absurd less (Nat.lt_irrefl _)
    | passed pass =>
      rw [Option.toList_none, List.append_nil]
      exact .told own start acknowledged unspared pass
    | numbered before | registered _ before | sent _ before | withdrawn _ before | drained _ _ _ _ before =>
      rw [before] at start
      contradiction
  | leaving failure start why =>
    have quiet : c.milestone? (.turn (.call s)) = none := by
      refine milestone?_of_phase found fun deciding => ?_
      rw [deciding] at start
      contradiction
    rw [quiet, Option.toList_none]
    cases advance with
    | stayed e phase =>
      rw [phase] at less
      exact absurd less (Nat.lt_irrefl _)
    | passed pass =>
      rw [Option.toList_none, List.append_nil, List.append_nil]
      exact .left absent start why pass
    | drained code reason last result before finished _ fair =>
      have same : last = failure := by
        rw [before] at start
        cases start
        rfl
      rw [fair, same] at finished
      exact .back failure finished (why.keep (fun _ => ⟨nofun, nofun⟩) nofun)
    | numbered before | registered _ before | sent _ before | withdrawn _ before =>
      rw [before] at start
      contradiction
  | back failure start why =>
    rw [start] at less
    exact absurd less (Nat.not_lt_zero _)

private theorem Standing.ring (standing : Standing t ms s k) (absent : c.process = .absent)
    (found : c.calls[s]? = some k)
    (step : c.stepTimer? s = some c') (found' : c'.calls[s]? = some k') :
    Standing t (ms ++ (c.milestone? (.turn (.timer s))).toList) s k' := by
  obtain ⟨l, present, own, due, ring⟩ := stepTimer?_ring step
  cases found.symm.trans present
  cases ring with
  | gaveUp n start call =>
    cases found'.symm.trans call
    have requesting : k.phase.isRequesting = true := by
      rcases start with start | start | ⟨start, _⟩ <;> rw [start] <;> rfl
    have given : c.milestone? (.turn (.timer s)) = some (.expired s c.clock) := by
      rw [milestone?, found, Option.map_some, step]
      exact if_pos requesting
    rw [given, Option.toList_some]
    cases standing with
    | asking _ asked only =>
      refine .leaving _ rfl (.failed _ k.deadline (List.mem_append_left _ asked) (fun inside => ?_)
        (.expired c.clock (by simp)))
      rcases List.mem_append.1 inside with old | late
      · exact nomatch only _ old rfl
      · exact nomatch List.mem_singleton.1 late
    | begun phase | telling phase | leaving _ phase | back _ phase =>
      rcases start with start | start | ⟨start, _⟩ <;> rw [start] at phase <;> contradiction
  | killed _ _ running =>
    rw [absent] at running
    contradiction

end Turn

private theorem Advance.deadline {c c' : Connection} {e : Option Event} {i : Nat} {k k' : Call}
    (advance : Advance c c' i k k' e) (requesting : k.phase.isRequesting = true) : k'.deadline = k.deadline := by
  cases advance with
  | passed pass timing =>
    obtain ⟨deciding, going⟩ := not_leaving_of_requesting requesting
    exact timing.kept deciding going
  | stayed _ _ _ deadline => exact deadline
  | numbered _ _ deadline | registered _ _ _ deadline | sent _ _ _ deadline | withdrawn _ _ _ deadline
  | drained _ _ _ _ _ _ deadline => exact deadline

/-- What a shutdown finds decides how it goes on, in every move. -/
theorem Standing.move {t : List Event} {ms : List Milestone} {c : Connection} {s : Nat} {k k' : Call}
    (standing : Standing t ms s k) (tracked : Tracked t c) (unsent : Unsent t c) (absent : c.process = .absent)
    (found : c.calls[s]? = some k) (own : k.purpose = .shutdown) (m : Move)
    (found' : (c.move m).calls[s]? = some k') :
    Standing (t ++ (c.event? m).toList) (ms ++ (c.milestone? m).toList) s k' := by
  obtain ⟨l, present, _, advance⟩ := (c.move_change m).1.advances found
  cases found'.symm.trans present
  -- Where the phase stays, the event is not its own, and no milestone either.
  have stays (same : k'.phase = k.phase) (other : ∀ x, c.milestone? m = some x → x.call ≠ s) :
      Standing (t ++ (c.event? m).toList) (ms ++ (c.milestone? m).toList) s k' := by
    refine standing.keep same (fun requesting => ?_) (fun n => ⟨fun event => ?_, fun event => ?_⟩) fun x inside => ?_
    · exact advance.deadline requesting
    · rw [event] at advance
      cases advance with
      | stayed _ _ others => exact (others n).1 rfl
      | registered _ start phase =>
        rw [start, phase] at same
        contradiction
    · rw [event] at advance
      cases advance with
      | stayed _ _ others => exact (others n).2 rfl
      | sent _ start phase =>
        rw [start, phase] at same
        contradiction
    · exact other x (Option.mem_toList.1 inside)
  by_cases turn : m = .turn (.call s)
  · subst turn
    cases step : c.stepCall? s with
    | none =>
      rw [move_call, step, Option.getD_none] at found'
      cases found.symm.trans found'
      refine stays rfl fun x given own => ?_
      subst own
      rcases milestone?_own given found with ⟨_, deciding⟩ | ⟨same, _⟩
      · rcases stuck_call found step with ⟨_, phase⟩ | ⟨_, phase, _⟩ | ⟨_, phase, _⟩ <;> cases deciding.symm.trans phase
      · cases same
    | some c' =>
      have nearer := (stepCall?_own step).nearer
      rw [move_call, step, Option.getD_some] at found' advance
      obtain ⟨l, l', before, after, less⟩ := nearer
      cases found.symm.trans before
      cases found'.symm.trans after
      exact standing.turn tracked unsent absent found own step advance less
  · by_cases timer : m = .turn (.timer s)
    · subst timer
      cases step : c.stepTimer? s with
      | none =>
        rw [move_timer, step, Option.getD_none] at found'
        cases found.symm.trans found'
        refine stays rfl fun x given own => ?_
        subst own
        rcases milestone?_own given found with ⟨same, _⟩ | ⟨_, _, _, c', effective⟩
        · cases same
        · cases step.symm.trans effective
      | some c' =>
        rw [move_timer, step, Option.getD_some] at found'
        have silent : c.event? (.turn (.timer s)) = none := rfl
        rw [silent, Option.toList_none, List.append_nil]
        exact standing.ring absent found step found'
    · have same := phase_stays found turn timer
      rw [found'] at same
      refine stays (Option.some.inj same) fun x given own => ?_
      subst own
      rcases milestone?_own given found with ⟨own, _⟩ | ⟨own, _⟩
      · exact turn own
      · exact timer own

structure Recorded (t : List Event) (ms : List Milestone) (c : Connection) : Prop where
  begun : ∀ x ∈ ms, x.call < c.calls.length
  standing : ∀ (s : Nat) (k : Call), c.calls[s]? = some k → k.purpose = .shutdown → Standing t ms s k
  due : ∀ s time, .expired s time ∈ ms → ∃ limit ≤ time, .asked s limit ∈ ms

private theorem Recorded.connect (options : ClientOptions) (grace : Nat) :
    Recorded [] [] (connect options grace) where
  begun := nofun
  standing s k found := by simp [Connection.connect] at found
  due := nofun

structure Followed (t : List Event) (ms : List Milestone) (c : Connection) : Prop extends Recorded t ms c where
  tracked : Tracked t c
  unsent : Unsent t c
  closing : Closing c
  shutdowns : Shutdowns c
  absent : c.process = .absent

theorem milestone?_found {c : Connection} {m : Move} {x : Milestone} (given : c.milestone? m = some x) :
    ∃ k, c.calls[x.call]? = some k := by
  unfold milestone? at given
  split at given
  · next i =>
    split at given
    · next phase =>
      obtain ⟨k, found, _⟩ := Option.map_eq_some_iff.1 phase
      cases given
      refine ⟨k, ?_⟩
      split <;> exact found
    · contradiction
  · next i =>
    split at given
    · next phase c' present step =>
      obtain ⟨k, found, _⟩ := Option.map_eq_some_iff.1 present
      split at given
      · cases given
        exact ⟨k, found⟩
      · contradiction
    · contradiction
  · contradiction

theorem Followed.move {t : List Event} {ms : List Milestone} {c : Connection} (followed : Followed t ms c) (m : Move)
    (stream : ∀ state, m ≠ .process state) :
    Followed (t ++ (c.event? m).toList) (ms ++ (c.milestone? m).toList) (c.move m) := by
  obtain ⟨change, onward⟩ := c.move_change m
  exact {
    begun := by
      intro x inside
      refine Nat.lt_of_lt_of_le ?_ change.length_le
      rcases List.mem_append.1 inside with old | new
      · exact followed.begun x old
      · obtain ⟨k, found⟩ := milestone?_found (Option.mem_toList.1 new)
        exact (List.getElem?_eq_some_iff.1 found).1
    standing := by
      intro s k' found' own'
      rcases change.advance found' with ⟨new, nothing, purpose, rfl⟩ | ⟨k, found, purpose, _⟩
      · have own : purpose = .shutdown := own'
        subst own
        refine .begun rfl fun x inside same => ?_
        rcases List.mem_append.1 inside with old | late
        · exact absurd (same ▸ followed.begun x old) (Nat.not_lt.2 new)
        · obtain ⟨k, found⟩ := milestone?_found (Option.mem_toList.1 late)
          exact absurd (same ▸ (List.getElem?_eq_some_iff.1 found).1) (Nat.not_lt.2 new)
      · have own := purpose.symm.trans own'
        exact (followed.standing s k found own).move followed.tracked followed.unsent followed.absent found own m found'
    due := by
      intro s time inside
      rcases List.mem_append.1 inside with old | new
      · obtain ⟨limit, before, asked⟩ := followed.due s time old
        exact ⟨limit, before, List.mem_append_left _ asked⟩
      · have given := Option.mem_toList.1 new
        obtain ⟨k, found⟩ := milestone?_found given
        rcases milestone?_own given found with ⟨rfl, deciding⟩ | ⟨_, requesting, same, c', step⟩
        · rw [milestone?, found, Option.map_some, deciding] at given
          dsimp only at given
          split at given <;> cases given
        · cases same
          obtain ⟨l, present, own, due, _⟩ := stepTimer?_ring step
          cases found.symm.trans present
          cases followed.standing s k found own with
          | asking _ asked => exact ⟨k.deadline, due, List.mem_append_left _ asked⟩
          | begun phase | telling phase | leaving _ phase | back _ phase =>
            cases start : k.phase <;> rw [start] at phase requesting <;> contradiction
    tracked := followed.tracked.move m
    unsent := followed.unsent.move m
    closing := followed.closing.change change onward
    shutdowns := followed.shutdowns.change change
    absent := (c.move_course m).2 stream followed.absent }

theorem Followed.run {t : List Event} {ms : List Milestone} {c : Connection} (followed : Followed t ms c)
    (more : List Move) (streams : ∀ m ∈ more, ∀ state, m ≠ .process state) :
    Followed (t ++ c.trace more) (ms ++ c.milestones more) (c.run more) := by
  induction more generalizing t ms c with
  | nil =>
    rw [trace, milestones, gather, List.append_nil, List.append_nil]
    exact followed
  | cons m rest ih =>
    have later := ih (followed.move m (streams m List.mem_cons_self))
      fun m' inside => streams m' (List.mem_cons_of_mem _ inside)
    rw [trace, milestones, gather]
    rw [List.append_assoc, List.append_assoc] at later
    exact later

theorem followed_run (options : ClientOptions) (grace : Nat) {moves : List Move}
    (streams : ∀ m ∈ moves, ∀ state, m ≠ .process state) :
    Followed ((connect options grace).trace moves) ((connect options grace).milestones moves)
      ((connect options grace).run moves) := by
  have start : Followed [] [] (connect options grace) :=
    ⟨.connect options grace, .connect options grace, .connect options grace, .connect options grace,
      (Shutting.connect options grace).shutdowns, rfl⟩
  exact start.run moves streams

end Connection

end LanguageClient
