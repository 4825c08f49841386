import LanguageClient.Proofs.Connection.Pending

/-! Which calls have come to the table of pending requests in a run, and under which numbers. Every
call comes to it at most once, no number is used twice, and what is put into the queue carries the
number of the call, once. -/
namespace LanguageClient

def CallPhase.unsent? : CallPhase → Option Nat
  | .probing n => some n
  | .sending n => some n
  | _ => none

namespace Event

def registration? : Event → Option (Nat × Nat)
  | .registered call number => some (call, number)
  | _ => none

def sentNumber? : Event → Option Nat
  | .sent _ number => some number
  | _ => none

end Event

namespace Connection

def registrations (t : List Event) : List (Nat × Nat) := t.filterMap Event.registration?

def sentNumbers (t : List Event) : List Nat := t.filterMap Event.sentNumber?

theorem mem_registrations_append {t : List Event} {entry : Nat × Nat} (inside : entry ∈ registrations t)
    (more : List Event) : entry ∈ registrations (t ++ more) := by
  rw [registrations, List.filterMap_append]
  exact List.mem_append_left _ inside

theorem not_mem_registrations_append {t : List Event} {e : Option Event} {i : Nat}
    (outside : ∀ n, (i, n) ∉ registrations t) (silent : ∀ n, e ≠ some (.registered i n)) (n : Nat) :
    (i, n) ∉ registrations (t ++ e.toList) := by
  intro inside
  rw [registrations, List.filterMap_append] at inside
  rcases List.mem_append.1 inside with old | new
  · exact outside n old
  · obtain ⟨e', listed, own⟩ := List.mem_filterMap.1 new
    cases Option.mem_toList.1 listed
    cases e' with
    | registered j m =>
      cases own
      exact silent n rfl
    | _ => contradiction

structure Entered (entries : List (Nat × Nat)) (c : Connection) : Prop where
  calls : (entries.map Prod.fst).Nodup
  numbers : (entries.map Prod.snd).Nodup
  begun : ∀ i n, (i, n) ∈ entries → i < c.calls.length
  handed : ∀ i n, (i, n) ∈ entries → n < c.nextId
  early : ∀ (i : Nat) (k : Call) (n : Nat), c.calls[i]? = some k → k.phase.isEarly = true →
    (i, n) ∉ entries
  fresh : ∀ (i : Nat) (k : Call) (n j : Nat), c.calls[i]? = some k → k.phase = .registering n →
    (j, n) ∉ entries
  held : ∀ (i : Nat) (k : Call) (n : Nat), c.calls[i]? = some k → k.phase.held? = some n →
    (i, n) ∈ entries

structure Calm (c c' : Connection) : Prop where
  nextId : c.nextId ≤ c'.nextId
  length : c.calls.length ≤ c'.calls.length
  early : ∀ (j : Nat) (l' : Call), c'.calls[j]? = some l' → l'.phase.isEarly = true →
    c.calls.length ≤ j ∨ ∃ l, c.calls[j]? = some l ∧ l.phase.isEarly = true
  fresh : ∀ (j : Nat) (l' : Call) (n : Nat), c'.calls[j]? = some l' → l'.phase = .registering n →
    c.nextId ≤ n ∨ ∃ l, c.calls[j]? = some l ∧ l.phase = .registering n
  held : ∀ (j : Nat) (l' : Call) (n : Nat), c'.calls[j]? = some l' → l'.phase.held? = some n →
    ∃ l, c.calls[j]? = some l ∧ l.phase.held? = some n

section Advance
variable {c c' : Connection} {e : Option Event} {i n : Nat} {k k' : Call}

private theorem Advance.early (advance : Advance c c' i k k' e) (early : k'.phase.isEarly = true) :
    k.phase.isEarly = true := by
  cases advance with
  | stayed e phase => exact phase ▸ early
  | passed pass => exact pass.keeps.early early
  | numbered start | registered n start =>
    rw [start]
    rfl
  | withdrawn n start phase => simp [phase] at early
  | sent n start phase | drained code reason failure result start phase =>
    rw [phase] at early
    contradiction

private theorem Advance.fresh (advance : Advance c c' i k k' e) (now : k'.phase = .registering n) :
    c.nextId ≤ n ∨ k.phase = .registering n := by
  cases advance with
  | stayed e phase => exact .inr (phase.symm.trans now)
  | passed pass =>
    have held := (pass.keeps.held n (by rw [now]; rfl)).1
    rw [now] at held
    contradiction
  | numbered start phase =>
    cases phase.symm.trans now
    exact .inl (Nat.le_refl _)
  | withdrawn m start phase =>
    have number := number?_afterResult k.purpose (.error .notConnected)
    rw [← phase, now] at number
    contradiction
  | registered m start phase | sent m start phase | drained code reason failure result start phase =>
    cases phase.symm.trans now

private theorem Advance.held (advance : Advance c c' i k k' e) (other : e.bind Event.registration? = none)
    (held : k'.phase.held? = some n) : k.phase.held? = some n := by
  cases advance with
  | stayed e phase => exact phase ▸ held
  | passed pass => exact (pass.keeps.held n (number?_of_held? held)).2
  | registered => contradiction
  | sent m start phase =>
    rw [phase] at held
    rw [start]
    exact held
  | withdrawn m start phase =>
    rw [phase, held?_of_number? (number?_afterResult _ _)] at held
    contradiction
  | numbered start phase | drained code reason failure result start phase =>
    rw [phase] at held
    contradiction

end Advance

/-- Only a call that is about to come to the table comes to it. -/
theorem Change.calm {c c' : Connection} {e : Option Event} (change : Change c c' e)
    (other : e.bind Event.registration? = none) : Calm c c' where
  nextId := change.nextId_le
  length := change.length_le
  early j l' found' early := by
    rcases change.advance found' with ⟨new, _⟩ | ⟨l, earlier, _, advance⟩
    · exact .inl new
    · exact .inr ⟨l, earlier, advance.early early⟩
  fresh j l' n found' phase := by
    rcases change.advance found' with ⟨_, _, purpose, rfl⟩ | ⟨l, earlier, _, advance⟩
    · have number := callOf_unnumbered purpose
      rw [phase] at number
      contradiction
    · exact (advance.fresh phase).imp_right fun before => ⟨l, earlier, before⟩
  held j l' n found' held := by
    rcases change.advance found' with ⟨_, _, purpose, rfl⟩ | ⟨l, earlier, _, advance⟩
    · have none := held?_of_number? (callOf_unnumbered purpose)
      simp [none] at held
    · exact ⟨l, earlier, advance.held other held⟩

namespace Entered

private theorem calm {entries : List (Nat × Nat)} {c c' : Connection} (entered : Entered entries c)
    (calm : Calm c c') : Entered entries c' where
  calls := entered.calls
  numbers := entered.numbers
  begun i n inside := Nat.lt_of_lt_of_le (entered.begun i n inside) calm.length
  handed i n inside := Nat.lt_of_lt_of_le (entered.handed i n inside) calm.nextId
  early i k n found early inside := by
    rcases calm.early i k found early with new | ⟨l, earlier, before⟩
    · exact absurd (entered.begun i n inside) (Nat.not_lt.2 new)
    · exact entered.early i l n earlier before inside
  fresh i k n j found phase inside := by
    rcases calm.fresh i k n found phase with new | ⟨l, earlier, before⟩
    · exact absurd (entered.handed j n inside) (Nat.not_lt.2 new)
    · exact entered.fresh i l n j earlier before inside
  held i k n found held := by
    obtain ⟨l, earlier, before⟩ := calm.held i k n found held
    exact entered.held i l n earlier before

private theorem registered {entries : List (Nat × Nat)} {c c' : Connection} {i n : Nat} {k : Call}
    (entered : Entered entries c) (consistent : Consistent c) (found : c.calls[i]? = some k)
    (phase : k.phase = .registering n) (nextId : c'.nextId = c.nextId)
    (calls : c'.calls = c.calls.set i { k with phase := .probing n }) :
    Entered (entries ++ [(i, n)]) c' where
  calls := by
    have outside : i ∉ entries.map Prod.fst := by
      intro listed
      obtain ⟨⟨i', m⟩, inside, rfl⟩ := List.mem_map.1 listed
      exact entered.early i' k m found (by rw [phase]; rfl) inside
    simpa [List.nodup_append] using ⟨entered.calls, fun a m inside same => outside
      (List.mem_map.2 ⟨(a, m), inside, same⟩)⟩
  numbers := by
    have outside : n ∉ entries.map Prod.snd := by
      intro listed
      obtain ⟨⟨j, n'⟩, inside, rfl⟩ := List.mem_map.1 listed
      exact entered.fresh i k n' j found phase inside
    simpa [List.nodup_append] using ⟨entered.numbers, fun a m inside same => outside
      (List.mem_map.2 ⟨(m, a), inside, same⟩)⟩
  begun j m inside := by
    rw [calls, List.length_set]
    rcases List.mem_append.1 inside with old | new
    · exact entered.begun j m old
    · cases List.mem_singleton.1 new
      exact (List.getElem?_eq_some_iff.1 found).1
  handed j m inside := by
    rw [nextId]
    rcases List.mem_append.1 inside with old | new
    · exact entered.handed j m old
    · cases List.mem_singleton.1 new
      exact consistent.lt i k n found (by rw [phase]; rfl)
  early j l m found' early inside := by
    rw [calls] at found'
    rcases getElem?_set_cases found' with ⟨rfl, rfl⟩ | ⟨differs, earlier⟩
    · contradiction
    · rcases List.mem_append.1 inside with old | new
      · exact entered.early j l m earlier early old
      · cases List.mem_singleton.1 new
        exact differs rfl
  fresh j l m j' found' phase' inside := by
    rw [calls] at found'
    rcases getElem?_set_cases found' with ⟨rfl, rfl⟩ | ⟨differs, earlier⟩
    · contradiction
    · rcases List.mem_append.1 inside with old | new
      · exact entered.fresh j l m j' earlier phase' old
      · cases List.mem_singleton.1 new
        exact differs (consistent.unique j i l k n earlier found (by rw [phase']; rfl)
          (by rw [phase]; rfl))
  held j l m found' held := by
    rw [calls] at found'
    rcases getElem?_set_cases found' with ⟨rfl, rfl⟩ | ⟨_, earlier⟩
    · cases held
      simp
    · exact List.mem_append_left _ (entered.held j l m earlier held)

theorem change {t : List Event} {c c' : Connection} {e : Option Event}
    (entered : Entered (registrations t) c) (consistent : Consistent c) (change : Change c c' e) :
    Entered (registrations (t ++ e.toList)) c' := by
  cases other : e.bind Event.registration? with
  | none =>
    have same : registrations (t ++ e.toList) = registrations t := by
      cases e <;> simp_all [registrations]
    rw [same]
    exact entered.calm (change.calm other)
  | some entry =>
    cases change with
    | registered i k n found phase nextId pending calls =>
      have more : registrations (t ++ [.registered i n]) = registrations t ++ [(i, n)] := by
        simp [registrations, Event.registration?]
      exact more ▸ entered.registered consistent found phase nextId calls
    | _ => contradiction

theorem connect (options : ClientOptions) (grace : Nat) : Entered [] (connect options grace) := by
  constructor <;> simp [Connection.connect]

end Entered

private theorem unsent?_of_held? {phase : CallPhase} (free : phase.held? = none) : phase.unsent? = none := by
  cases phase <;> first | rfl | contradiction

private theorem Pass.unsent {c c' : Connection} {k : Call} {phase : CallPhase} (pass : Pass c c' k phase)
    {n : Nat} (unsent : phase.unsent? = some n) : k.phase.unsent? = some n := by
  cases pass with
  | admitted m start isOpen =>
    cases unsent
    rw [start]
    rfl
  | rejected start gone =>
    simp [unsent?_of_held? (held?_of_number? (number?_afterResult _ _))] at unsent
  | answered m r start given =>
    simp [unsent?_of_held? (held?_of_number? (number?_afterResult _ _))] at unsent
  | told method params result start =>
    simp [unsent?_of_held? (held?_of_number? (number?_afterTelling _ _))] at unsent
  | refused | dropped | telling | closing | closed | reaped | expired => contradiction
  | announced | spared | decided | checked => contradiction

/-- What waits to be sent has waited before, unless it has just come to the table. -/
theorem Change.unsent {c c' : Connection} {e : Option Event} (change : Change c c' e)
    (other : e.bind Event.registration? = none) {j n : Nat} {l' : Call}
    (found' : c'.calls[j]? = some l') (unsent : l'.phase.unsent? = some n) :
    ∃ l, c.calls[j]? = some l ∧ l.phase.unsent? = some n := by
  rcases change.advance found' with ⟨_, _, purpose, rfl⟩ | ⟨l, earlier, _, advance⟩
  · simp [unsent?_of_held? (held?_of_number? (callOf_unnumbered purpose))] at unsent
  · refine ⟨l, earlier, ?_⟩
    cases advance with
    | stayed e phase => exact phase ▸ unsent
    | passed pass => exact pass.unsent unsent
    | registered => contradiction
    | withdrawn m start phase =>
      simp [phase, unsent?_of_held? (held?_of_number? (number?_afterResult _ _))] at unsent
    | numbered start phase | sent m start phase | drained _ _ _ _ start phase =>
      rw [phase] at unsent
      contradiction

structure Sent (t : List Event) (c : Connection) : Prop where
  numbers : (sentNumbers t).Nodup
  entered : ∀ n ∈ sentNumbers t, n ∈ (registrations t).map Prod.snd
  unsent : ∀ (i : Nat) (k : Call) (n : Nat), c.calls[i]? = some k → k.phase.unsent? = some n →
    n ∉ sentNumbers t

private theorem number?_of_unsent? {phase : CallPhase} {n : Nat} (unsent : phase.unsent? = some n) :
    phase.number? = some n := by
  cases phase <;> first | exact unsent | contradiction

namespace Sent

private theorem quiet {t : List Event} {c c' : Connection} {e : Option Event} (sent : Sent t c)
    (change : Change c c' e) (other : e.bind Event.registration? = none)
    (silent : e.bind Event.sentNumber? = none) : Sent (t ++ e.toList) c' := by
  have sameNumbers : sentNumbers (t ++ e.toList) = sentNumbers t := by
    cases e <;> simp_all [sentNumbers]
  have sameEntries : registrations (t ++ e.toList) = registrations t := by
    cases e <;> simp_all [registrations]
  refine ⟨sameNumbers ▸ sent.numbers, ?_, fun j l' n found' unsent => ?_⟩
  · rw [sameNumbers, sameEntries]
    exact sent.entered
  · obtain ⟨l, earlier, before⟩ := change.unsent other found' unsent
    rw [sameNumbers]
    exact sent.unsent j l n earlier before

private theorem sent {t : List Event} {c c' : Connection} {i n : Nat} {k : Call} (sent : Sent t c)
    (consistent : Consistent c) (entered : Entered (registrations t) c) (found : c.calls[i]? = some k)
    (phase : k.phase = .sending n) (calls : c'.calls = c.calls.set i { k with phase := .waiting n }) :
    Sent (t ++ [.sent i n]) c' := by
  have more : sentNumbers (t ++ [.sent i n]) = sentNumbers t ++ [n] := by
    simp [sentNumbers, Event.sentNumber?]
  have sameEntries : registrations (t ++ [.sent i n]) = registrations t := by
    simp [registrations, Event.registration?]
  have outside := sent.unsent i k n found (by rw [phase]; rfl)
  refine ⟨?_, fun m inside => ?_, fun j l m found' unsent inside => ?_⟩
  · rw [more]
    simpa [List.nodup_append] using ⟨sent.numbers, fun a inside same => outside (same ▸ inside)⟩
  · rw [sameEntries]
    rw [more] at inside
    rcases List.mem_append.1 inside with old | new
    · exact sent.entered m old
    · cases List.mem_singleton.1 new
      exact List.mem_map.2 ⟨(i, n), entered.held i k n found (by rw [phase]; rfl), rfl⟩
  · rw [calls] at found'
    rw [more] at inside
    rcases getElem?_set_cases found' with ⟨rfl, rfl⟩ | ⟨differs, earlier⟩
    · contradiction
    · rcases List.mem_append.1 inside with old | new
      · exact sent.unsent j l m earlier unsent old
      · cases List.mem_singleton.1 new
        exact differs (consistent.unique j i l k n earlier found (number?_of_unsent? unsent)
          (by rw [phase]; rfl))

private theorem registered {t : List Event} {c c' : Connection} {i n : Nat} {k : Call} (sent : Sent t c)
    (entered : Entered (registrations t) c) (found : c.calls[i]? = some k)
    (phase : k.phase = .registering n) (calls : c'.calls = c.calls.set i { k with phase := .probing n }) :
    Sent (t ++ [.registered i n]) c' := by
  have sameNumbers : sentNumbers (t ++ [.registered i n]) = sentNumbers t := by
    simp [sentNumbers, Event.sentNumber?]
  have more : registrations (t ++ [.registered i n]) = registrations t ++ [(i, n)] := by
    simp [registrations, Event.registration?]
  refine ⟨sameNumbers ▸ sent.numbers, fun m inside => ?_, fun j l m found' unsent inside => ?_⟩
  · rw [more, List.map_append]
    exact List.mem_append_left _ (sent.entered m (sameNumbers ▸ inside))
  · rw [calls] at found'
    rw [sameNumbers] at inside
    rcases getElem?_set_cases found' with ⟨rfl, rfl⟩ | ⟨_, earlier⟩
    · cases unsent
      obtain ⟨⟨i', n'⟩, known, rfl⟩ := List.mem_map.1 (sent.entered n inside)
      exact entered.fresh j k n' i' found phase known
    · exact sent.unsent j l m earlier unsent inside

theorem change {t : List Event} {c c' : Connection} {e : Option Event} (sent : Sent t c)
    (consistent : Consistent c) (entered : Entered (registrations t) c) (change : Change c c' e) :
    Sent (t ++ e.toList) c' := by
  cases e with
  | none => exact sent.quiet change rfl rfl
  | some e =>
    cases e with
    | registered i n =>
      cases change with
      | registered i k n found phase nextId pending calls =>
        exact sent.registered entered found phase calls
    | sent i n =>
      cases change with
      | sent i k n found phase nextId pending calls =>
        exact sent.sent consistent entered found phase calls
    | handled r => exact sent.quiet change rfl rfl
    | drained code reason => exact sent.quiet change rfl rfl

theorem connect (options : ClientOptions) (grace : Nat) : Sent [] (connect options grace) := by
  constructor <;> simp [sentNumbers, Connection.connect]

end Sent

end Connection

end LanguageClient
