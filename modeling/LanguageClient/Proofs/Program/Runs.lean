import LanguageClient.Program.Handler

/-! What a program may go through, read along its definition: a run of one program after another is
a run of the first and then one of the other. Where a run begins, the answers leave no choice: of two
runs of a program that are the beginnings of one sequence of exchanges, neither is the longer one. -/
namespace LanguageClient

/-- An action and the answer to it. -/
abbrev Exchange := (action : Action) × action.Answer

namespace Program

variable {α β : Type}

@[simp] theorem runs_pure_iff {a b : α} {trace : List Exchange} :
    Runs (pure a : Program α) trace b ↔ trace = [] ∧ b = a := by
  constructor
  · rintro ⟨⟩
    exact ⟨rfl, rfl⟩
  · rintro ⟨rfl, rfl⟩
    exact .done b

private theorem runs_ask_iff {action : Action} {next : action.Answer → Program α} {trace : List Exchange}
    {a : α} : Runs (.ask action next) trace a ↔
      ∃ answer rest, trace = ⟨action, answer⟩ :: rest ∧ Runs (next answer) rest a := by
  constructor
  · rintro (_ | ⟨rest⟩)
    exact ⟨_, _, rfl, rest⟩
  · rintro ⟨answer, rest, rfl, run⟩
    exact .ask run

@[simp] theorem runs_perform_iff {action : Action} {trace : List Exchange} {answer : action.Answer} :
    Runs (perform action) trace answer ↔ trace = [⟨action, answer⟩] := by
  rw [perform, runs_ask_iff]
  constructor
  · rintro ⟨answer, rest, rfl, ⟨⟩⟩
    rfl
  · rintro rfl
    exact ⟨answer, [], rfl, .done answer⟩

theorem runs_bind_iff {p : Program α} {f : α → Program β} {trace : List Exchange} {b : β} :
    Runs (p >>= f) trace b ↔
      ∃ a first second, trace = first ++ second ∧ Runs p first a ∧ Runs (f a) second b := by
  constructor
  · intro run
    induction p generalizing trace with
    | done a => exact ⟨a, [], trace, rfl, .done a, run⟩
    | ask action next ih =>
      obtain ⟨answer, rest, rfl, further⟩ := runs_ask_iff.1 run
      obtain ⟨a, first, second, rfl, before, after⟩ := ih answer further
      exact ⟨a, _, second, rfl, .ask before, after⟩
  · rintro ⟨a, first, second, rfl, before, after⟩
    induction before with
    | done a => exact after
    | ask _ ih => exact .ask (ih after)

/-- Two runs with which one sequence of exchanges begins are the same. -/
theorem Runs.beginning_unique {p : Program α} {first second firstRest secondRest : List Exchange}
    {a b : α} (one : Runs p first a) (other : Runs p second b)
    (same : first ++ firstRest = second ++ secondRest) :
    first = second ∧ a = b ∧ firstRest = secondRest := by
  induction one generalizing second with
  | done a =>
    cases other
    exact ⟨rfl, rfl, same⟩
  | ask _ ih =>
    obtain ⟨answer, rest, rfl, run⟩ := runs_ask_iff.1 other
    obtain ⟨head, tail⟩ := List.cons.inj same
    cases head
    obtain ⟨rfl, result, remaining⟩ := ih run tail
    exact ⟨rfl, result, remaining⟩

def AsksOnly (kind : Action → Bool) : Program α → Prop
  | .done _ => True
  | .ask action next => kind action = true ∧ ∀ answer, AsksOnly kind (next answer)

variable {kind : Action → Bool}

@[simp] theorem asksOnly_pure (a : α) : AsksOnly kind (pure a : Program α) := trivial

theorem asksOnly_perform {action : Action} (ofKind : kind action = true) :
    AsksOnly kind (perform action) := ⟨ofKind, fun _ => trivial⟩

theorem AsksOnly.bind {p : Program α} {f : α → Program β} (first : AsksOnly kind p)
    (second : ∀ a, AsksOnly kind (f a)) : AsksOnly kind (p >>= f) := by
  induction p with
  | done a => exact second a
  | ask action next ih => exact ⟨first.1, fun answer => ih answer (first.2 answer)⟩

theorem AsksOnly.of_mem {p : Program α} {trace : List Exchange} {a : α} (asks : AsksOnly kind p)
    (run : Runs p trace a) : ∀ exchange ∈ trace, kind exchange.1 = true := by
  induction run with
  | done a => simp
  | ask _ ih => exact List.forall_mem_cons.2 ⟨asks.1, ih (asks.2 _)⟩

section Fallible
open Command (Fallible attempt orFail report)

variable {ε : Type}

theorem runs_then_iff {p : Fallible α} {f : α → Fallible β} {trace : List Exchange}
    {result : Except String β} : Runs (p >>= f).run trace result ↔
      (∃ text, Runs p.run trace (.error text) ∧ result = .error text) ∨
        ∃ a first second, trace = first ++ second ∧ Runs p.run first (.ok a) ∧
          Runs (f a).run second result := by
  rw [ExceptT.run_bind, runs_bind_iff]
  constructor
  · rintro ⟨found, first, second, rfl, before, after⟩
    cases found with
    | error text =>
      obtain ⟨rfl, rfl⟩ := runs_pure_iff.1 after
      exact .inl ⟨text, by rwa [List.append_nil], rfl⟩
    | ok a => exact .inr ⟨a, first, second, rfl, before, after⟩
  · rintro (⟨text, run, rfl⟩ | ⟨a, first, second, rfl, before, after⟩)
    · exact ⟨_, trace, [], (List.append_nil trace).symm, run, runs_pure_iff.2 ⟨rfl, rfl⟩⟩
    · exact ⟨_, first, second, rfl, before, after⟩

private theorem runs_lift_iff {p : Program α} {trace : List Exchange} {result : Except String α} :
    Runs (ExceptT.lift p : Fallible α).run trace result ↔ ∃ a, Runs p trace a ∧ result = .ok a := by
  change Runs (p >>= fun a => pure (.ok a)) trace result ↔ _
  rw [runs_bind_iff]
  constructor
  · rintro ⟨a, first, second, rfl, run, last⟩
    obtain ⟨rfl, rfl⟩ := runs_pure_iff.1 last
    exact ⟨a, by rwa [List.append_nil], rfl⟩
  · rintro ⟨a, run, rfl⟩
    exact ⟨a, trace, [], (List.append_nil trace).symm, run, runs_pure_iff.2 ⟨rfl, rfl⟩⟩

theorem runs_lift_then_iff {p : Program α} {f : α → Fallible β} {trace : List Exchange}
    {result : Except String β} : Runs (ExceptT.lift p >>= f).run trace result ↔
      ∃ a first second, trace = first ++ second ∧ Runs p first a ∧ Runs (f a).run second result := by
  rw [runs_then_iff]
  constructor
  · rintro (⟨text, lifted, -⟩ | ⟨a, first, second, rfl, lifted, last⟩)
    · obtain ⟨a, -, different⟩ := runs_lift_iff.1 lifted
      cases different
    · obtain ⟨b, run, same⟩ := runs_lift_iff.1 lifted
      cases same
      exact ⟨a, first, second, rfl, run, last⟩
  · rintro ⟨a, first, second, rfl, run, last⟩
    exact .inr ⟨a, first, second, rfl, runs_lift_iff.2 ⟨a, run, rfl⟩, last⟩

private theorem runs_orFail_iff {message : ε → String} {found : Except ε α} {trace : List Exchange}
    {result : Except String α} : Runs (orFail message found).run trace result ↔
      trace = [] ∧ result = found.mapError message := by
  cases found <;> exact runs_pure_iff

theorem runs_attempt_iff {message : ε → String} {p : Program (Except ε α)} {trace : List Exchange}
    {result : Except String α} : Runs (attempt message p).run trace result ↔
      ∃ found, Runs p trace found ∧ result = found.mapError message := by
  rw [attempt, runs_lift_then_iff]
  constructor
  · rintro ⟨found, first, second, rfl, run, last⟩
    obtain ⟨rfl, rfl⟩ := runs_orFail_iff.1 last
    exact ⟨found, by rwa [List.append_nil], rfl⟩
  · rintro ⟨found, run, rfl⟩
    exact ⟨found, trace, [], (List.append_nil trace).symm, run, runs_orFail_iff.2 ⟨rfl, rfl⟩⟩

theorem runs_report_iff {outcome : Except String Json} {trace : List Exchange}
    {result : Except String Unit} : Runs (report outcome).run trace result ↔
      trace = [⟨.print (Report.text outcome), ()⟩] ∧ result = .ok () := by
  rw [report, runs_lift_iff]
  constructor
  · rintro ⟨answer, run, rfl⟩
    exact ⟨runs_perform_iff.1 run, rfl⟩
  · rintro ⟨rfl, rfl⟩
    exact ⟨(), runs_perform_iff.2 rfl, rfl⟩

theorem AsksOnly.andThen {p : Fallible α} {f : α → Fallible β} (first : AsksOnly kind p.run)
    (second : ∀ a, AsksOnly kind (f a).run) : AsksOnly kind (p >>= f).run := by
  rw [ExceptT.run_bind]
  refine first.bind fun found => ?_
  cases found with
  | error text => exact asksOnly_pure _
  | ok a => exact second a

private theorem AsksOnly.lift {p : Program α} (asks : AsksOnly kind p) :
    AsksOnly kind (ExceptT.lift p : Fallible α).run :=
  asks.bind fun _ => asksOnly_pure _

theorem AsksOnly.attempt {message : ε → String} {p : Program (Except ε α)} (asks : AsksOnly kind p) :
    AsksOnly kind (Command.attempt message p).run := by
  refine asks.lift.andThen fun found => ?_
  cases found <;> exact asksOnly_pure _

end Fallible

end Program

def Action.printed? : Action → Option String
  | .print text => some text
  | _ => none

/-- The texts that are printed, in order. -/
def printed (trace : List Exchange) : List String := trace.filterMap fun exchange => exchange.1.printed?

theorem printed_cons_none {exchange : Exchange} (silent : exchange.1.printed? = none) (trace : List Exchange) :
    printed (exchange :: trace) = printed trace :=
  List.filterMap_cons_none silent

theorem printed_append (first second : List Exchange) :
    printed (first ++ second) = printed first ++ printed second :=
  List.filterMap_append

private theorem Machine.handle_printed (action : Action) (m : Machine) :
    (handle action m).2.printed = action.printed?.toList.foldl (· ++ ·) m.printed := by
  have client {α : Type} (m : Machine)
      (f : Client ScriptWorld Nat → Except ClientError α × Client ScriptWorld Nat) :
      (m.withClient f).2.printed = m.printed := by
    unfold withClient
    split <;> rfl
  have files (changed : Except IoFailure FileTree) : (m.changeFiles changed).2.printed = m.printed := by
    cases changed <;> rfl
  cases action <;> first | rfl | exact client _ _ | exact files _

/-- What a program comes to on a machine is what it comes to in one of its runs, and what it prints
there is added to what was printed. -/
theorem Machine.run_runs {α : Type} (m : Machine) (p : Program α) :
    ∃ trace, p.Runs trace (m.run p).1 ∧
      (m.run p).2.printed = (LanguageClient.printed trace).foldl (· ++ ·) m.printed := by
  induction p generalizing m with
  | done a => exact ⟨[], .done a, rfl⟩
  | ask action next ih =>
    obtain ⟨trace, run, more⟩ := ih (handle action m).1 (handle action m).2
    refine ⟨⟨action, (handle action m).1⟩ :: trace, .ask run, ?_⟩
    rw [handle_printed] at more
    refine more.trans ?_
    cases shown : action.printed? <;> simp [LanguageClient.printed, shown]

end LanguageClient
