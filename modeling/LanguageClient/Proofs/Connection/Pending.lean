import Mathlib.Data.List.Induction
import LanguageClient.Proofs.Connection.Change

/-! The table of pending requests, the counter of numbers and the phases of the calls agree in every
run: numbers are handed out once, and an unanswered request that has come to the table stands in it,
under its own number, exactly as long as its call has not taken it back. -/
namespace LanguageClient.Connection

@[simp] theorem number?_afterResult (purpose : Purpose) (result : Except ClientError Json) :
    (afterResult purpose result).number? = none := by
  unfold afterResult
  repeat (split <;> try rfl)

@[simp] theorem isEarly_afterResult (purpose : Purpose) (result : Except ClientError Json) :
    (afterResult purpose result).isEarly = false := by
  unfold afterResult
  repeat (split <;> try rfl)

@[simp] theorem number?_afterTelling (purpose : Purpose) (result : Except ClientError Json) :
    (afterTelling purpose result).number? = none := by
  unfold afterTelling
  split <;> rfl

@[simp] theorem isEarly_afterTelling (purpose : Purpose) (result : Except ClientError Json) :
    (afterTelling purpose result).isEarly = false := by
  unfold afterTelling
  split <;> rfl

theorem number?_of_held? {phase : CallPhase} {n : Nat} (held : phase.held? = some n) :
    phase.number? = some n := by
  cases phase <;> first | exact held | contradiction

theorem held?_of_number? {phase : CallPhase} (unnumbered : phase.number? = none) :
    phase.held? = none := by
  cases phase <;> first | rfl | contradiction

private theorem not_early_of_held? {phase : CallPhase} {n : Nat} (held : phase.held? = some n) :
    phase.isEarly = false := by
  cases phase <;> first | rfl | contradiction

private theorem not_early_of_leaving {phase : CallPhase} (leaving : phase.isLeaving = true) :
    phase.isEarly = false := by
  cases phase <;> first | rfl | contradiction

/-- The step of a call that keeps its entry in the table: it neither takes a number nor comes to the
table, and it leaves an unanswered request only where a shutdown gives it up. -/
structure Keeps (k : Call) (phase : CallPhase) : Prop where
  held : ∀ n, phase.number? = some n → phase.held? = some n ∧ k.phase.held? = some n
  early : phase.isEarly = true → k.phase.isEarly = true
  owned : ∀ n, k.phase.held? = some n → k.answer = none →
    phase.held? = some n ∨ k.purpose = .shutdown ∧ phase.isLeaving = true
  leaving : k.purpose = .shutdown → k.phase.isLeaving = true → phase.isLeaving = true

private theorem Keeps.of_unnumbered {k : Call} {phase : CallPhase} (unnumbered : phase.number? = none)
    (early : phase.isEarly = true → k.phase.isEarly = true)
    (free : k.phase.held? = none ∨ k.answer ≠ none ∨ k.purpose = .shutdown ∧ phase.isLeaving = true)
    (leaving : k.purpose = .shutdown → k.phase.isLeaving = true → phase.isLeaving = true) :
    Keeps k phase where
  held n numbered := by simp [unnumbered] at numbered
  early := early
  owned n held unanswered := by
    rcases free with none | answered | given
    · simp [none] at held
    · exact absurd unanswered answered
    · exact .inr given
  leaving := leaving

private theorem Keeps.of_held {k : Call} {phase : CallPhase} {n : Nat} (before : k.phase.held? = some n)
    (now : phase.held? = some n) : Keeps k phase where
  held m numbered := by
    rw [number?_of_held? now] at numbered
    exact ⟨now.trans numbered, before.trans numbered⟩
  early early := by simp [not_early_of_held? now] at early
  owned m held _ := .inl (now.trans (before.symm.trans held))
  leaving _ leaving := by
    cases phase : k.phase <;> simp_all [CallPhase.held?, CallPhase.isLeaving]

theorem Pass.keeps {c c' : Connection} {k : Call} {phase : CallPhase} (pass : Pass c c' k phase) :
    Keeps k phase := by
  obtain ⟨purpose, before, answer, deadline⟩ := k
  cases pass with
  | announced start => cases start; exact .of_unnumbered rfl (fun _ => rfl) (.inl rfl) nofun
  | spared start gone => cases start; exact .of_unnumbered rfl nofun (.inl rfl) nofun
  | decided start live => cases start; exact .of_unnumbered rfl (fun _ => rfl) (.inl rfl) nofun
  | rejected start gone => cases start; exact .of_unnumbered (by simp) (by simp) (.inl rfl) nofun
  | checked start live => cases start; exact .of_unnumbered rfl (fun _ => rfl) (.inl rfl) nofun
  | refused n start closed => cases start; exact .of_held rfl rfl
  | admitted n start isOpen => cases start; exact .of_held rfl rfl
  | dropped n start ended => cases start; exact .of_held rfl rfl
  | answered n r start given =>
    cases start
    cases given
    exact .of_unnumbered (by simp) (by simp) (.inr (.inl nofun)) nofun
  | telling method params start => cases start; exact .of_unnumbered rfl nofun (.inl rfl) nofun
  | told method params result start =>
    rcases start with start | start <;> cases start <;>
      exact .of_unnumbered (by simp) (by simp) (.inl rfl) nofun
  | closing failure start closed => cases start; exact .of_unnumbered rfl nofun (.inl rfl) fun _ _ => rfl
  | closed failure start closed =>
    rcases start with start | start <;> cases start <;>
      exact .of_unnumbered rfl nofun (.inl rfl) fun _ _ => rfl
  | reaped failure later start => cases start; exact .of_unnumbered rfl nofun (.inl rfl) fun _ _ => rfl
  | expired n own start =>
    cases own
    rcases start with start | start | ⟨start, _⟩ <;> cases start <;>
      exact .of_unnumbered rfl nofun (.inr (.inr ⟨rfl, rfl⟩)) fun _ _ => rfl

structure Numbered (c : Connection) : Prop where
  lt : ∀ (i : Nat) (k : Call) (n : Nat), c.calls[i]? = some k → k.phase.number? = some n → n < c.nextId
  unique : ∀ (i j : Nat) (k l : Call) (n : Nat), c.calls[i]? = some k → c.calls[j]? = some l →
    k.phase.number? = some n → l.phase.number? = some n → i = j

structure Keyed (nextId : Nat) (entries : List (Nat × Nat)) : Prop where
  entry_lt : ∀ n i, (n, i) ∈ entries → n < nextId
  entry_number : ∀ n i j, (n, i) ∈ entries → (n, j) ∈ entries → i = j
  entry_call : ∀ m n i, (m, i) ∈ entries → (n, i) ∈ entries → m = n

structure Consistent (c : Connection) : Prop extends Numbered c, Keyed c.nextId c.pending where
  absent : ∀ (i : Nat) (k : Call) (n j : Nat), c.calls[i]? = some k → k.phase = .registering n → (n, j) ∉ c.pending
  owner : ∀ n i, (n, i) ∈ c.pending → ∃ k, c.calls[i]? = some k ∧ k.answer = none ∧
    (k.phase.held? = some n ∨ k.purpose = .shutdown ∧ k.phase.isLeaving = true)
  early : ∀ (i : Nat) (k : Call), c.calls[i]? = some k → k.phase.isEarly = true → k.answer = none
  kept : ∀ (i : Nat) (k : Call) (n : Nat), c.calls[i]? = some k → k.phase.held? = some n → k.answer = none →
    (n, i) ∈ c.pending

theorem Consistent.connect (options : ClientOptions) (grace : Nat) :
    Consistent (connect options grace) := by
  constructor <;> first | constructor <;> simp [Connection.connect] | simp [Connection.connect]

private theorem Keyed.mono {nextId later : Nat} {entries fewer : List (Nat × Nat)} (keyed : Keyed nextId entries)
    (le : nextId ≤ later) (known : ∀ entry ∈ fewer, entry ∈ entries) : Keyed later fewer where
  entry_lt n i inside := Nat.lt_of_lt_of_le (keyed.entry_lt n i (known _ inside)) le
  entry_number n i j inside inside' := keyed.entry_number n i j (known _ inside) (known _ inside')
  entry_call m n i inside inside' := keyed.entry_call m n i (known _ inside) (known _ inside')

private theorem Keyed.concat {nextId n i : Nat} {entries : List (Nat × Nat)} (keyed : Keyed nextId entries)
    (lt : n < nextId) (unused : ∀ j, (n, j) ∉ entries) (outside : ∀ m, (m, i) ∉ entries) :
    Keyed nextId (entries ++ [(n, i)]) where
  entry_lt m j inside := by
    rcases List.mem_append.1 inside with old | new
    · exact keyed.entry_lt m j old
    · cases List.mem_singleton.1 new
      exact lt
  entry_number m j l inside inside' := by
    rcases List.mem_append.1 inside with old | new <;> rcases List.mem_append.1 inside' with old' | new'
    · exact keyed.entry_number m j l old old'
    · cases List.mem_singleton.1 new'
      exact absurd old (unused j)
    · cases List.mem_singleton.1 new
      exact absurd old' (unused l)
    · cases List.mem_singleton.1 new
      cases List.mem_singleton.1 new'
      rfl
  entry_call m m' j inside inside' := by
    rcases List.mem_append.1 inside with old | new <;> rcases List.mem_append.1 inside' with old' | new'
    · exact keyed.entry_call m m' j old old'
    · cases List.mem_singleton.1 new'
      exact absurd old (outside m)
    · cases List.mem_singleton.1 new
      exact absurd old' (outside m')
    · cases List.mem_singleton.1 new
      cases List.mem_singleton.1 new'
      rfl

private theorem Numbered.of_same {c c' : Connection} (numbered : Numbered c) (nextId : c'.nextId = c.nextId)
    (same : ∀ (i : Nat) (k' : Call) (n : Nat), c'.calls[i]? = some k' → k'.phase.number? = some n →
      ∃ k, c.calls[i]? = some k ∧ k.phase.number? = some n) : Numbered c' where
  lt i k' n found number := by
    obtain ⟨k, earlier, own⟩ := same i k' n found number
    rw [nextId]
    exact numbered.lt i k n earlier own
  unique i j k' l' n found found' number number' := by
    obtain ⟨k, earlier, own⟩ := same i k' n found number
    obtain ⟨l, earlier', own'⟩ := same j l' n found' number'
    exact numbered.unique i j k l n earlier earlier' own own'

private theorem Consistent.unchanged {c c' : Connection} (consistent : Consistent c)
    (nextId : c'.nextId = c.nextId) (pending : c'.pending = c.pending) (calls : c'.calls = c.calls) :
    Consistent c' where
  lt := by rw [nextId, calls]; exact consistent.lt
  unique := by rw [calls]; exact consistent.unique
  toKeyed := by rw [pending, nextId]; exact consistent.toKeyed
  absent := by rw [calls, pending]; exact consistent.absent
  owner := by rw [pending, calls]; exact consistent.owner
  early := by rw [calls]; exact consistent.early
  kept := by rw [calls, pending]; exact consistent.kept

/-- A step of one call that leaves its entry in the table. -/
theorem Consistent.keeps {c c' : Connection} (consistent : Consistent c) {i : Nat} {k k' : Call}
    (found : c.calls[i]? = some k) (calls : c'.calls = c.calls.set i k') (keeps : Keeps k k'.phase)
    (purpose : k'.purpose = k.purpose) (answer : k'.answer = k.answer)
    (nextId : c'.nextId = c.nextId) (pending : c'.pending = c.pending) : Consistent c' where
  toNumbered := by
    refine consistent.of_same nextId fun j l' n found' number => ?_
    rw [calls] at found'
    rcases getElem?_set_cases found' with ⟨rfl, rfl⟩ | ⟨_, earlier⟩
    · exact ⟨k, found, number?_of_held? (keeps.held n number).2⟩
    · exact ⟨l', earlier, number⟩
  toKeyed := by rw [pending, nextId]; exact consistent.toKeyed
  absent j l n j' found' phase := by
    rw [calls] at found'
    rw [pending]
    rcases getElem?_set_cases found' with ⟨rfl, rfl⟩ | ⟨_, earlier⟩
    · have held := (keeps.held n (by rw [phase]; rfl)).1
      rw [phase] at held
      contradiction
    · exact consistent.absent j l n j' earlier phase
  owner n j inside := by
    rw [pending] at inside
    obtain ⟨l, earlier, unanswered, own⟩ := consistent.owner n j inside
    rw [calls]
    by_cases same : i = j
    · subst same
      cases found.symm.trans earlier
      have inRange := (List.getElem?_eq_some_iff.1 found).1
      refine ⟨k', by simp [inRange], answer.trans unanswered, ?_⟩
      rw [purpose]
      rcases own with held | ⟨shutdown, leaving⟩
      · exact keeps.owned n held unanswered
      · exact .inr ⟨shutdown, keeps.leaving shutdown leaving⟩
    · exact ⟨l, by rw [List.getElem?_set_ne same]; exact earlier, unanswered, own⟩
  early j l found' early := by
    rw [calls] at found'
    rcases getElem?_set_cases found' with ⟨rfl, rfl⟩ | ⟨_, earlier⟩
    · exact answer.trans (consistent.early j k found (keeps.early early))
    · exact consistent.early j l earlier early
  kept j l n found' held unanswered := by
    rw [calls] at found'
    rw [pending]
    rcases getElem?_set_cases found' with ⟨rfl, rfl⟩ | ⟨_, earlier⟩
    · exact consistent.kept j k n found (keeps.held n (number?_of_held? held)).2
        (answer.symm.trans unanswered)
    · exact consistent.kept j l n earlier held unanswered

theorem callOf_unnumbered (purpose : Purpose) : (callOf purpose).phase.number? = none := by
  cases purpose <;> rfl

private theorem Consistent.begun {c c' : Connection} (consistent : Consistent c) {purpose : Purpose}
    (nextId : c'.nextId = c.nextId) (pending : c'.pending = c.pending)
    (calls : c'.calls = c.calls ++ [callOf purpose]) : Consistent c' where
  toNumbered := by
    refine consistent.of_same nextId fun j l' n found number => ?_
    rw [calls] at found
    rcases getElem?_concat_cases found with earlier | rfl
    · exact ⟨l', earlier, number⟩
    · simp [callOf_unnumbered] at number
  toKeyed := by rw [pending, nextId]; exact consistent.toKeyed
  absent j l n j' found phase := by
    rw [calls] at found
    rw [pending]
    rcases getElem?_concat_cases found with earlier | rfl
    · exact consistent.absent j l n j' earlier phase
    · have number := callOf_unnumbered purpose
      rw [phase] at number
      contradiction
  owner n j inside := by
    rw [pending] at inside
    obtain ⟨l, earlier, unanswered, own⟩ := consistent.owner n j inside
    have inRange := (List.getElem?_eq_some_iff.1 earlier).1
    rw [calls]
    exact ⟨l, by rw [List.getElem?_append_left inRange]; exact earlier, unanswered, own⟩
  early j l found early := by
    rw [calls] at found
    rcases getElem?_concat_cases found with earlier | rfl
    · exact consistent.early j l earlier early
    · rfl
  kept j l n found held unanswered := by
    rw [calls] at found
    rw [pending]
    rcases getElem?_concat_cases found with earlier | rfl
    · exact consistent.kept j l n earlier held unanswered
    · have none := held?_of_number? (callOf_unnumbered purpose)
      simp [none] at held

/-- A call that has not come to the table has no entry in it. -/
theorem Consistent.not_entered {c : Connection} (consistent : Consistent c) {i : Nat} {k : Call}
    (found : c.calls[i]? = some k) (early : k.phase.isEarly = true) (n : Nat) : (n, i) ∉ c.pending := by
  intro inside
  obtain ⟨l, same, _, own⟩ := consistent.owner n i inside
  cases found.symm.trans same
  rcases own with held | ⟨_, leaving⟩
  · simp [not_early_of_held? held] at early
  · simp [not_early_of_leaving leaving] at early

private theorem Consistent.numbered {c c' : Connection} (consistent : Consistent c) {i : Nat} {k : Call}
    (found : c.calls[i]? = some k) (phase : k.phase = .numbering) (nextId : c'.nextId = c.nextId + 1)
    (pending : c'.pending = c.pending)
    (calls : c'.calls = c.calls.set i { k with phase := .registering c.nextId }) : Consistent c' where
  lt j l n found' number := by
    rw [calls] at found'
    rw [nextId]
    rcases getElem?_set_cases found' with ⟨rfl, rfl⟩ | ⟨_, earlier⟩
    · cases number
      omega
    · have before := consistent.lt j l n earlier number
      omega
  unique j j' l l' n found₁ found₂ number₁ number₂ := by
    rw [calls] at found₁ found₂
    rcases getElem?_set_cases found₁ with ⟨rfl, rfl⟩ | ⟨_, earlier₁⟩
    · rcases getElem?_set_cases found₂ with ⟨rfl, rfl⟩ | ⟨_, earlier₂⟩
      · rfl
      · cases number₁
        exact absurd (consistent.lt _ _ _ earlier₂ number₂) (Nat.lt_irrefl _)
    · rcases getElem?_set_cases found₂ with ⟨rfl, rfl⟩ | ⟨_, earlier₂⟩
      · cases number₂
        exact absurd (consistent.lt _ _ _ earlier₁ number₁) (Nat.lt_irrefl _)
      · exact consistent.unique j j' l l' n earlier₁ earlier₂ number₁ number₂
  toKeyed := by
    rw [pending, nextId]
    exact consistent.toKeyed.mono (Nat.le_succ _) fun _ inside => inside
  absent j l n j' found' phase' := by
    rw [calls] at found'
    rw [pending]
    rcases getElem?_set_cases found' with ⟨rfl, rfl⟩ | ⟨_, earlier⟩
    · cases phase'
      exact fun inside => absurd (consistent.entry_lt _ _ inside) (Nat.lt_irrefl _)
    · exact consistent.absent j l n j' earlier phase'
  owner n j inside := by
    rw [pending] at inside
    obtain ⟨l, earlier, unanswered, own⟩ := consistent.owner n j inside
    have other : i ≠ j := by
      rintro rfl
      exact consistent.not_entered found (by rw [phase]; rfl) n inside
    rw [calls]
    exact ⟨l, by rw [List.getElem?_set_ne other]; exact earlier, unanswered, own⟩
  early j l found' early := by
    rw [calls] at found'
    rcases getElem?_set_cases found' with ⟨rfl, rfl⟩ | ⟨_, earlier⟩
    · exact consistent.early j k found (by rw [phase]; rfl)
    · exact consistent.early j l earlier early
  kept j l n found' held unanswered := by
    rw [calls] at found'
    rw [pending]
    rcases getElem?_set_cases found' with ⟨rfl, rfl⟩ | ⟨_, earlier⟩
    · contradiction
    · exact consistent.kept j l n earlier held unanswered

private theorem Consistent.registered {c c' : Connection} (consistent : Consistent c) {i : Nat} {k : Call}
    {n : Nat} (found : c.calls[i]? = some k) (phase : k.phase = .registering n)
    (nextId : c'.nextId = c.nextId) (pending : c'.pending = c.pending ++ [(n, i)])
    (calls : c'.calls = c.calls.set i { k with phase := .probing n }) : Consistent c' where
  toNumbered := by
    refine consistent.of_same nextId fun j l' m found' number => ?_
    rw [calls] at found'
    rcases getElem?_set_cases found' with ⟨rfl, rfl⟩ | ⟨_, earlier⟩
    · exact ⟨k, found, by rw [phase]; exact number⟩
    · exact ⟨l', earlier, number⟩
  toKeyed := by
    rw [pending, nextId]
    exact consistent.toKeyed.concat (consistent.lt i k n found (by rw [phase]; rfl))
      (fun j => consistent.absent i k n j found phase)
      (consistent.not_entered found (by rw [phase]; rfl))
  absent j l m j' found' phase' inside := by
    rw [calls] at found'
    rw [pending] at inside
    rcases getElem?_set_cases found' with ⟨rfl, rfl⟩ | ⟨differs, earlier⟩
    · contradiction
    · rcases List.mem_append.1 inside with old | new
      · exact consistent.absent j l m j' earlier phase' old
      · cases List.mem_singleton.1 new
        exact differs (consistent.unique j i l k n earlier found (by rw [phase']; rfl)
          (by rw [phase]; rfl))
  owner m j inside := by
    rw [pending] at inside
    rw [calls]
    rcases List.mem_append.1 inside with old | new
    · obtain ⟨l, earlier, unanswered, own⟩ := consistent.owner m j old
      have other : i ≠ j := by
        rintro rfl
        exact consistent.not_entered found (by rw [phase]; rfl) m old
      exact ⟨l, by rw [List.getElem?_set_ne other]; exact earlier, unanswered, own⟩
    · cases List.mem_singleton.1 new
      have inRange := (List.getElem?_eq_some_iff.1 found).1
      exact ⟨_, List.getElem?_set_self inRange, consistent.early i k found (by rw [phase]; rfl),
        .inl rfl⟩
  early j l found' early := by
    rw [calls] at found'
    rcases getElem?_set_cases found' with ⟨rfl, rfl⟩ | ⟨_, earlier⟩
    · contradiction
    · exact consistent.early j l earlier early
  kept j l m found' held unanswered := by
    rw [calls] at found'
    rw [pending]
    rcases getElem?_set_cases found' with ⟨rfl, rfl⟩ | ⟨_, earlier⟩
    · cases held
      simp
    · exact List.mem_append_left _ (consistent.kept j l m earlier held unanswered)

theorem mem_filter_number {pending : List (Nat × Nat)} {m n j : Nat} :
    (m, j) ∈ pending.filter (fun entry => entry.1 ≠ n) ↔ (m, j) ∈ pending ∧ m ≠ n := by
  simp

/-- A refused request takes back its own entry, and only that. -/
theorem Consistent.withdrawn {c c' : Connection} (consistent : Consistent c) {i : Nat} {k k' : Call}
    {n : Nat} (found : c.calls[i]? = some k) (phase : k.phase = .withdrawing n)
    (gone : k'.phase.number? = none) (late : k'.phase.isEarly = false)
    (nextId : c'.nextId = c.nextId)
    (pending : c'.pending = c.pending.filter fun entry => entry.1 ≠ n)
    (calls : c'.calls = c.calls.set i k') : Consistent c' where
  toNumbered := by
    refine consistent.of_same nextId fun j l' m found' number => ?_
    rw [calls] at found'
    rcases getElem?_set_cases found' with ⟨rfl, rfl⟩ | ⟨_, earlier⟩
    · simp [gone] at number
    · exact ⟨l', earlier, number⟩
  toKeyed := by
    rw [pending, nextId]
    exact consistent.toKeyed.mono (Nat.le_refl _) fun _ => List.mem_of_mem_filter
  absent j l m j' found' phase' inside := by
    rw [calls] at found'
    rw [pending, mem_filter_number] at inside
    rcases getElem?_set_cases found' with ⟨rfl, rfl⟩ | ⟨_, earlier⟩
    · rw [phase'] at gone
      contradiction
    · exact consistent.absent j l m j' earlier phase' inside.1
  owner m j inside := by
    rw [pending, mem_filter_number] at inside
    obtain ⟨l, earlier, unanswered, own⟩ := consistent.owner m j inside.1
    have other : i ≠ j := by
      rintro rfl
      cases found.symm.trans earlier
      rw [phase] at own
      rcases own with held | ⟨_, leaving⟩
      · exact inside.2 (Option.some.inj held).symm
      · contradiction
    rw [calls]
    exact ⟨l, by rw [List.getElem?_set_ne other]; exact earlier, unanswered, own⟩
  early j l found' early := by
    rw [calls] at found'
    rcases getElem?_set_cases found' with ⟨rfl, rfl⟩ | ⟨_, earlier⟩
    · simp [late] at early
    · exact consistent.early j l earlier early
  kept j l m found' held unanswered := by
    rw [calls] at found'
    rw [pending, mem_filter_number]
    rcases getElem?_set_cases found' with ⟨rfl, rfl⟩ | ⟨differs, earlier⟩
    · simp [held?_of_number? gone] at held
    -- No other entry has the number that is taken back, since no other call holds it.
    · refine ⟨consistent.kept j l m earlier held unanswered, ?_⟩
      rintro rfl
      exact differs (consistent.unique j i l k m earlier found (number?_of_held? held)
        (by rw [phase]; rfl))

private theorem Consistent.matched {c c' : Connection} (consistent : Consistent c) {r : Response} {n i : Nat}
    (entry : (n, i) ∈ c.pending) (nextId : c'.nextId = c.nextId)
    (pending : c'.pending = c.pending.filter fun entry => entry.1 ≠ n)
    (calls : c'.calls = c.calls.modify i fun k => { k with answer := some r }) : Consistent c' := by
  obtain ⟨k, found, _, own⟩ := consistent.owner n i entry
  rw [modify_found found] at calls
  have late : k.phase.isEarly = false := by
    rcases own with held | ⟨_, leaving⟩
    · exact not_early_of_held? held
    · exact not_early_of_leaving leaving
  exact {
    toNumbered := by
      refine consistent.of_same nextId fun j l' m found' number => ?_
      rw [calls] at found'
      rcases getElem?_set_cases found' with ⟨rfl, rfl⟩ | ⟨_, earlier⟩
      · exact ⟨k, found, number⟩
      · exact ⟨l', earlier, number⟩
    toKeyed := by
      rw [pending, nextId]
      exact consistent.toKeyed.mono (Nat.le_refl _) fun _ => List.mem_of_mem_filter
    absent := by
      intro j l m j' found' phase inside
      rw [calls] at found'
      rw [pending, mem_filter_number] at inside
      rcases getElem?_set_cases found' with ⟨rfl, rfl⟩ | ⟨_, earlier⟩
      · exact consistent.absent j k m j' found phase inside.1
      · exact consistent.absent j l m j' earlier phase inside.1
    owner := by
      intro m j inside
      rw [pending, mem_filter_number] at inside
      have other : i ≠ j := by
        rintro rfl
        exact inside.2 (consistent.entry_call m n i inside.1 entry)
      rw [calls, List.getElem?_set_ne other]
      exact consistent.owner m j inside.1
    early := by
      intro j l found' early
      rw [calls] at found'
      rcases getElem?_set_cases found' with ⟨rfl, rfl⟩ | ⟨_, earlier⟩
      · simp [late] at early
      · exact consistent.early j l earlier early
    kept := by
      intro j l m found' held unanswered
      rw [calls] at found'
      rw [pending, mem_filter_number]
      rcases getElem?_set_cases found' with ⟨rfl, rfl⟩ | ⟨differs, earlier⟩
      · contradiction
      · have inside := consistent.kept j l m earlier held unanswered
        refine ⟨inside, ?_⟩
        rintro rfl
        exact differs (consistent.entry_number m j i inside entry) }

/-- Draining answers whatever is pending, and leaves nothing pending. -/
theorem Consistent.drained {c c' : Connection} (consistent : Consistent c) {code : Int32}
    {reason : String} (nextId : c'.nextId = c.nextId) (pending : c'.pending = [])
    (calls : ∀ (j : Nat) (k' : Call), c'.calls[j]? = some k' →
      ∃ k, c.calls[j]? = some k ∧ Drained c code reason j k k') : Consistent c' where
  toNumbered := by
    refine consistent.of_same nextId fun j l' n found number => ?_
    obtain ⟨k, earlier, drained⟩ := calls j l' found
    rcases drained.phase with same | ⟨_, _, _, finished⟩
    · exact ⟨k, earlier, by rw [← same]; exact number⟩
    · rw [finished] at number
      contradiction
  toKeyed := by
    rw [pending, nextId]
    exact consistent.toKeyed.mono (Nat.le_refl _) nofun
  absent j l n j' found phase := by simp [pending]
  owner n j inside := by simp [pending] at inside
  early j l' found early := by
    obtain ⟨k, earlier, drained⟩ := calls j l' found
    have before : k.phase.isEarly = true := by
      rcases drained.phase with same | ⟨_, _, _, finished⟩
      · exact same ▸ early
      · rw [finished] at early
        contradiction
    rcases drained.answer with ⟨same, _⟩ | ⟨n, inside, _⟩
    · exact same.trans (consistent.early j k earlier before)
    · exact absurd inside (consistent.not_entered earlier before n)
  kept j l' n found held unanswered := by
    obtain ⟨k, earlier, drained⟩ := calls j l' found
    have before : k.phase.held? = some n := by
      rcases drained.phase with same | ⟨_, _, _, finished⟩
      · exact same ▸ held
      · rw [finished] at held
        contradiction
    rcases drained.answer with ⟨same, outside⟩ | ⟨m, _, answered⟩
    · exact absurd (consistent.kept j k n earlier before (same.symm.trans unanswered)) (outside n)
    · rw [answered] at unanswered
      contradiction

theorem Consistent.change {c c' : Connection} {e : Option Event} (consistent : Consistent c)
    (change : Change c c' e) : Consistent c' := by
  cases change with
  | idle nextId pending calls =>
    exact consistent.unchanged nextId pending calls
  | begun purpose nextId pending calls => exact consistent.begun nextId pending calls
  | passed i k phase deadline found pass nextId pending calls =>
    exact consistent.keeps found calls pass.keeps rfl rfl nextId pending
  | numbered i k found phase nextId pending calls =>
    exact consistent.numbered found phase nextId pending calls
  | registered i k n found phase nextId pending calls =>
    exact consistent.registered found phase nextId pending calls
  | sent i k n found phase nextId pending calls =>
    exact consistent.keeps found calls (.of_held (by rw [phase]; rfl) rfl) rfl rfl nextId pending
  | withdrawn i k n found phase nextId pending calls =>
    exact consistent.withdrawn found phase (by simp) (by simp) nextId pending calls
  | matched r n i number entry nextId pending calls =>
    exact consistent.matched entry nextId pending calls
  | unmatched r stray nextId pending calls =>
    exact consistent.unchanged nextId pending calls
  | drained code reason nextId pending length calls => exact consistent.drained nextId pending calls

end LanguageClient.Connection
