import LanguageClient.Proofs.Connection.Latecomers
import LanguageClient.Proofs.Connection.Termination

/-! The fate of pending requests. A request that has come to the table comes back with the first answer to
its number, or it is refused and then has never been sent; which of the two, and with which error, is
settled by the events that follow. -/
namespace LanguageClient

def CallPhase.isUnsent : CallPhase → Bool
  | .sending _ => true
  | phase => phase.isOutside

namespace Connection

private theorem isUnsent_afterResult (purpose : Purpose) (result : Except ClientError Json) :
    (afterResult purpose result).isUnsent = false := by
  unfold afterResult
  repeat' split
  all_goals rfl

private theorem isUnsent_afterTelling (purpose : Purpose) (result : Except ClientError Json) :
    (afterTelling purpose result).isUnsent = false := by
  unfold afterTelling
  split <;> rfl

private theorem Pass.isUnsent {c c' : Connection} {k : Call} {phase : CallPhase} (pass : Pass c c' k phase)
    (unsent : phase.isUnsent = true) : k.phase.isUnsent = true := by
  cases pass with
  | announced start | decided start | checked start | refused _ start | admitted _ start | dropped _ start =>
    rw [start]
    rfl
  | rejected | answered =>
    rw [isUnsent_afterResult] at unsent
    contradiction
  | told =>
    rw [isUnsent_afterTelling] at unsent
    contradiction
  | spared | telling | closing | closed | reaped | expired => contradiction

private theorem Advance.isUnsent {c c' : Connection} {e : Option Event} {i : Nat} {k k' : Call}
    (advance : Advance c c' i k k' e) (unsent : k'.phase.isUnsent = true) :
    k.phase.isUnsent = true ∧ ∀ n, e ≠ some (.sent i n) := by
  cases advance with
  | stayed e phase others =>
    rw [phase] at unsent
    exact ⟨unsent, fun n => (others n).2⟩
  | passed pass => exact ⟨pass.isUnsent unsent, nofun⟩
  | numbered start | registered n start => exact ⟨by rw [start]; rfl, nofun⟩
  | withdrawn n start phase =>
    rw [phase, isUnsent_afterResult] at unsent
    contradiction
  | sent n start phase | drained _ _ _ _ start phase =>
    rw [phase] at unsent
    contradiction

structure Unsent (t : List Event) (c : Connection) : Prop where
  begun : ∀ i n, .sent i n ∈ t → i < c.calls.length
  unsent : ∀ (i : Nat) (k : Call), c.calls[i]? = some k → k.phase.isUnsent = true → ∀ n, .sent i n ∉ t

theorem Unsent.move {t : List Event} {c : Connection} (unsent : Unsent t c) (m : Move) :
    Unsent (t ++ (c.event? m).toList) (c.move m) := by
  have change := (c.move_change m).1
  constructor
  · intro i n inside
    refine Nat.lt_of_lt_of_le ?_ change.length_le
    rcases List.mem_append.1 inside with old | new
    · exact unsent.begun i n old
    · rw [Option.mem_toList.1 new] at change
      cases change with
      | sent _ k _ found => exact (List.getElem?_eq_some_iff.1 found).1
  · intro i k' found' still n inside
    rcases change.advance found' with ⟨new, nothing, _⟩ | ⟨k, found, _, advance⟩
    · rw [nothing, Option.toList_none, List.append_nil] at inside
      exact absurd (unsent.begun i n inside) (Nat.not_lt.2 new)
    · obtain ⟨before, other⟩ := advance.isUnsent still
      rcases List.mem_append.1 inside with old | new
      · exact unsent.unsent i k found before n old
      · exact other n (Option.mem_toList.1 new)

theorem Unsent.connect (options : ClientOptions) (grace : Nat) : Unsent [] (connect options grace) where
  begun := nofun
  unsent _ _ _ _ _ := List.not_mem_nil

theorem unsent_run (options : ClientOptions) (grace : Nat) (moves : List Move) :
    Unsent ((connect options grace).trace moves) ((connect options grace).run moves) :=
  trace_keeps Unsent (fun _ _ m unsent => unsent.move m) (.connect options grace) moves

/-- The first answer to a number that had none so far is given by a later event. -/
theorem FirstAnswer.later {t : List Event} {i n : Nat} (first : FirstAnswer t i n none) (later : List Event) :
    FirstAnswer (t ++ later) i n (later.findSome? (answerTo? n)) := by
  obtain ⟨before, after, rfl, nothing⟩ := first
  refine ⟨before, after ++ later, by simp, ?_⟩
  rw [List.findSome?_append, nothing]
  rfl

inductive Fated (t : List Event) (i n : Nat) (k : Call) : Prop
  | held (held : k.phase.held? = some n) : Fated t i n k
  | answered (r : Response) (first : FirstAnswer t i n (some r)) (finished : k.phase = .finished (resultOf r)) :
      Fated t i n k
  | refused (unsent : ∀ m, .sent i m ∉ t) (finished : k.phase = .finished (.error .notConnected)) : Fated t i n k

private theorem Advance.finished {c c' : Connection} {e : Option Event} {i : Nat} {k k' : Call}
    {result : Except ClientError Json} (advance : Advance c c' i k k' e) (finished : k.phase = .finished result) :
    k'.phase = .finished result ∧ ∀ m, e ≠ some (.sent i m) := by
  cases advance with
  | stayed e phase others => exact ⟨phase.trans finished, fun m => (others m).2⟩
  | passed pass => exact absurd finished (pass.not_finished result)
  | numbered start | registered n start | sent n start | withdrawn n start | drained _ _ _ _ start =>
    rw [start] at finished
    contradiction

private theorem Fated.advance {t : List Event} {c c' : Connection} {e : Option Event} {i n : Nat} {k k' : Call}
    (fated : Fated t i n k) (tracked : Tracked t c) (unsent : Unsent t c) (found : c.calls[i]? = some k)
    (asks : k.purpose.asks = true)
    (bad : ∀ r, FirstAnswer t i n (some r) → ∃ error, resultOf r = .error error)
    (advance : Advance c c' i k k' e) : Fated (t ++ e.toList) i n k' := by
  have other : k.purpose ≠ .shutdown := by
    intro same
    rw [same] at asks
    contradiction
  cases fated with
  | held held =>
    cases advance with
    | stayed e phase =>
      rw [← phase] at held
      exact .held held
    | passed pass =>
      generalize now : k'.phase = phase at pass
      cases pass with
      | refused m start | admitted m start | dropped m start =>
        rw [start] at held
        cases held
        exact .held (by rw [now]; rfl)
      | answered m r start given =>
        rw [start] at held
        cases held
        have first := tracked.waiting found start
        rw [given] at first
        obtain ⟨error, result⟩ := bad r first
        rw [result, afterResult_error other] at now
        exact .answered r (first.keep none) (by rw [now, result])
      | expired m own => exact absurd own other
      | told method params result start | closed failure start =>
        rcases start with start | start <;> rw [start] at held <;> contradiction
      | announced start | spared start | decided start | rejected start | checked start | telling _ _ start
      | closing _ start | reaped _ _ start =>
        rw [start] at held
        contradiction
    | sent m start phase =>
      rw [start] at held
      cases held
      exact .held (by rw [phase]; rfl)
    | withdrawn m start phase =>
      rw [afterResult_error other] at phase
      have before := unsent.unsent i k found (by rw [start]; rfl)
      refine .refused (fun m inside => before m ?_) phase
      rwa [Option.toList_none, List.append_nil] at inside
    | numbered start | registered m start | drained _ _ _ _ start =>
      rw [start] at held
      contradiction
  | answered r first finished =>
    have still := advance.finished finished
    exact .answered r (first.keep e) still.1
  | refused before finished =>
    have still := advance.finished finished
    refine .refused (fun m inside => ?_) still.1
    rcases List.mem_append.1 inside with old | new
    · exact before m old
    · exact still.2 m (Option.mem_toList.1 new)

/-- What is settled of a request stays so, and in the end it has come back for a reason. -/
theorem fated_run {t : List Event} {c : Connection} (tracked : Tracked t c) (unsent : Unsent t c) {i n : Nat}
    {k : Call} (found : c.calls[i]? = some k) (asks : k.purpose.asks = true) (fated : Fated t i n k)
    (more : List Move) (bad : ∀ r, FirstAnswer (t ++ c.trace more) i n (some r) → ∃ error, resultOf r = .error error) :
    ∃ k', (c.run more).calls[i]? = some k' ∧ k'.purpose = k.purpose ∧ Fated (t ++ c.trace more) i n k' := by
  induction more generalizing t c k with
  | nil =>
    rw [trace, List.append_nil]
    exact ⟨k, found, rfl, fated⟩
  | cons m rest ih =>
    have events : t ++ c.trace (m :: rest) = (t ++ (c.event? m).toList) ++ (c.move m).trace rest := by
      rw [trace, List.append_assoc]
    rw [events] at bad ⊢
    obtain ⟨k₁, found₁, purpose₁, advance⟩ := (c.move_change m).1.advances found
    have now : ∀ r, FirstAnswer t i n (some r) → ∃ error, resultOf r = .error error :=
      fun r first => bad r ((first.keep (c.event? m)).append _)
    have next := fated.advance tracked unsent found asks now advance
    obtain ⟨k', found', purpose, last⟩ :=
      ih (tracked.move m) (unsent.move m) found₁ (by rw [purpose₁]; exact asks) next bad
    exact ⟨k', found', purpose.trans purpose₁, last⟩

/-- A request that is pending has come to the table under its number, and has no answer yet. -/
theorem Fated.of_pending {t : List Event} {c : Connection} (tracked : Tracked t c) {i n : Nat} {k : Call}
    (found : c.calls[i]? = some k) (asks : k.purpose.asks = true) (inside : (n, i) ∈ c.pending) :
    Fated t i n k ∧ FirstAnswer t i n none := by
  refine ⟨?_, tracked.answered.pending n i inside⟩
  obtain ⟨l, present, _, held | ⟨shutdown, _⟩⟩ := tracked.consistent.owner n i inside
  · cases found.symm.trans present
    exact .held held
  · cases found.symm.trans present
    rw [shutdown] at asks
    contradiction

end Connection

end LanguageClient
