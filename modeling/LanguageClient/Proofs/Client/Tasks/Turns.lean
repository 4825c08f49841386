import LanguageClient.Client.Rehearsal
import LanguageClient.Proofs.Client.Tasks.Lock

/-! Calls that start and stop a client and begin in the order of a list take their turns in that
order. `rest` is what a call inside the guarded section still comes to; no step of that call changes
it, and no other call touches the client meanwhile, so the client and the results come out as if the
calls had been made one after another. -/
namespace LanguageClient

variable {W P : Type}

def LifecycleCall.toCall : LifecycleCall → ClientCall P
  | .restart => .restart
  | .stop => .stop

namespace Client

private theorem perform_of_lifecycle (host : Host W P) (c : Client W P) {call : ClientCall P}
    {turn : LifecycleCall} (begun : call.lifecycle? = some turn) :
    c.perform host call = c.perform host turn.toCall := by
  cases call with
  | start | restart | stop =>
    cases begun
    rfl
  | _ => simp [ClientCall.lifecycle?] at begun

/-- What calls come to that are made one after another, in the form in which tasks end. -/
def answers (host : Host W P) (c : Client W P) (calls : List (ClientCall P)) :
    List (Except ClientError Bool) :=
  (c.outcomes host calls).map fun outcome => outcome.2.map fun _ => true

private theorem answers_concat (host : Host W P) (c : Client W P) (calls : List (ClientCall P))
    (call : ClientCall P) : c.answers host (calls ++ [call]) =
      c.answers host calls ++ [((c.run host calls).perform host call).1.map fun _ => true] := by
  simp [answers, outcomes_append_singleton]

private theorem length_answers (host : Host W P) (c : Client W P) (calls : List (ClientCall P)) :
    (c.answers host calls).length = calls.length := by
  induction calls using List.reverseRecOn with
  | nil => rfl
  | append_singleton calls call ih =>
    rw [answers_concat, List.length_append, List.length_append, ih]
    rfl

/-- A start is a restart, also within a run. -/
theorem run_turns (host : Host W P) {calls : List (ClientCall P)} {turns : List LifecycleCall}
    (begun : calls.map ClientCall.lifecycle? = turns.map some) (c : Client W P) :
    c.run host (turns.map LifecycleCall.toCall) = c.run host calls ∧
      c.answers host (turns.map LifecycleCall.toCall) = c.answers host calls := by
  induction calls generalizing turns c with
  | nil =>
    obtain rfl : turns = [] := by simpa using begun.symm
    exact ⟨rfl, rfl⟩
  | cons call calls ih =>
    cases turns with
    | nil => simp at begun
    | cons turn turns =>
      obtain ⟨first, others⟩ := List.cons.inj begun
      have same := c.perform_of_lifecycle host first
      obtain ⟨client, results⟩ := ih others (c.perform host call).2
      constructor
      · rw [List.map_cons, run_cons, run_cons, ← same]
        exact client
      · simp only [answers, List.map_cons, outcomes] at results ⊢
        rw [← same, results]

end Client

namespace Tasks

open Client

def afterStop (host : Host W P) :
    LifecycleCall → Except ClientError Unit × Client W P → Except ClientError Unit × Client W P
  | .restart, (.ok (), c) => c.launchNew host
  | _, outcome => outcome

def rest (host : Host W P) : TaskPhase P → Client W P → Except ClientError Unit × Client W P
  | .entering call, c => c.perform host call.toCall
  | .fetching call, c => afterStop host call (c.stopActive host)
  | .stopping call id peer, c =>
    afterStop host call ((c.stopPeer host id peer).1, (c.stopPeer host id peer).2.clearActive.markStopped)
  | .clearing call result, c => afterStop host call (result, c.clearActive.markStopped)
  | .lowering call result, c => afterStop host call (result, c.markStopped)
  | .preparing, c => c.launchNew host
  | .launching, c =>
    match c.launchPeer host with
    | (.error e, c) => (.error e, c)
    | (.ok (id, peer), c) => (.ok (), (((c.install id peer).markStarted).reopen host peer).announce id)
  | .installing id peer, c => (.ok (), (((c.install id peer).markStarted).reopen host peer).announce id)
  | .raising id peer, c => (.ok (), (c.markStarted.reopen host peer).announce id)
  | .reopening id peer, c => (.ok (), (c.reopen host peer).announce id)
  | .announcing id, c => (.ok (), c.announce id)
  | _, c => (.ok (), c)

private theorem rest_entering (host : Host W P) {c : Client W P} (started : c.isStarted = true)
    (call : LifecycleCall) : rest host (.entering call) c = rest host (.fetching call) c := by
  cases call with
  | stop =>
    change c.stop host = _
    rw [stop, if_pos started]
    rfl
  | restart =>
    change c.restart host = _
    rw [restart, if_pos started, rest]
    rcases c.stopActive host with ⟨_ | _, _⟩ <;> rfl

private theorem Moves.rest {host : Host W P} {c c' : Client W P} {phase next : TaskPhase P}
    (moves : Moves host c phase next c') : rest host next c' = Tasks.rest host phase c := by
  cases moves with
  | started call started => exact (rest_entering host started call).symm
  | notStarted stopped =>
    change _ = c.restart host
    rw [restart, stopped]
    rfl
  | missing call vacant =>
    rw [Tasks.rest, Tasks.rest, stopActive, vacant]
  | fetched call id peer inUse =>
    rw [Tasks.rest, Tasks.rest, stopActive, inUse]
  | launched id peer c' launch => rw [Tasks.rest, Tasks.rest, launch]
  | stopped | cleared | lowered | prepared | installed | raised | reopened => rfl

private theorem Ends.rest {host : Host W P} {c c' : Client W P} {phase : TaskPhase P}
    {result : Except ClientError Unit} (ends : Ends host c phase result c') :
    rest host phase c = (result, c') := by
  cases ends with
  | notStarted stopped =>
    change c.stop host = _
    rw [stop, stopped]
    rfl
  | launchFailed e c' launch => rw [Tasks.rest, launch]
  | stopped | stopFailed | announced => rfl

/-- The phases of calls that have taken their turns, of one whose turn it is, of those that wait and
of those that have not begun. -/
def lineUp (done : List (Except ClientError Bool)) (present : List (TaskPhase P))
    (waiting later : List LifecycleCall) : List (TaskPhase P) :=
  done.map .finished ++ (present ++ (waiting.map .queued ++ later.map .arriving))

inductive Place (done : List (Except ClientError Bool)) (present : List (TaskPhase P))
    (waiting later : List LifecycleCall) : Nat → TaskPhase P → Prop
  | done (task : Nat) (result : Except ClientError Bool) :
      Place done present waiting later task (.finished result)
  | present (k : Nat) (phase : TaskPhase P) (found : present[k]? = some phase) :
      Place done present waiting later (done.length + k) phase
  | waiting (k : Nat) (turn : LifecycleCall) (found : waiting[k]? = some turn) :
      Place done present waiting later (done.length + present.length + k) (.queued turn)
  | later (k : Nat) (turn : LifecycleCall) (found : later[k]? = some turn) :
      Place done present waiting later (done.length + present.length + waiting.length + k) (.arriving turn)

private theorem getElem?_append_cases {α : Type} {front back : List α} {i : Nat} {a : α}
    (found : (front ++ back)[i]? = some a) :
    front[i]? = some a ∨ ∃ k, i = front.length + k ∧ back[k]? = some a := by
  rcases Nat.lt_or_ge i front.length with inside | behind
  · rw [List.getElem?_append_left inside] at found
    exact .inl found
  · rw [List.getElem?_append_right behind] at found
    exact .inr ⟨i - front.length, by omega, found⟩

section Line
variable {done : List (Except ClientError Bool)} {present : List (TaskPhase P)}
  {waiting later : List LifecycleCall} {task : Nat} {phase : TaskPhase P}

private theorem place (found : (lineUp done present waiting later)[task]? = some phase) :
    Place done present waiting later task phase := by
  rcases getElem?_append_cases found with early | ⟨k, rfl, behind⟩
  · obtain ⟨result, _, rfl⟩ := Option.map_eq_some_iff.1 (List.getElem?_map .. ▸ early)
    exact .done _ result
  · rw [List.length_map]
    rcases getElem?_append_cases behind with inside | ⟨k, rfl, behind'⟩
    · exact .present k phase inside
    · rw [← Nat.add_assoc]
      rcases getElem?_append_cases behind' with inLine | ⟨k, rfl, last⟩
      · obtain ⟨turn, inside, rfl⟩ := Option.map_eq_some_iff.1 (List.getElem?_map .. ▸ inLine)
        exact .waiting k turn inside
      · obtain ⟨turn, inside, rfl⟩ := Option.map_eq_some_iff.1 (List.getElem?_map .. ▸ last)
        rw [← Nat.add_assoc, List.length_map]
        exact .later k turn inside

/-- The call inside the guarded section is the one whose turn it is. -/
theorem Place.inside (stands : Place done present waiting later task phase)
    (inside : phase.holdsLock = true) : ∃ k, task = done.length + k ∧ present[k]? = some phase := by
  cases stands with
  | present k phase found => exact ⟨k, rfl, found⟩
  | done | waiting | later => simp [TaskPhase.holdsLock] at inside

private theorem Place.present_eq {current : TaskPhase P} (stands : Place done [current] waiting later task phase)
    (inside : phase.holdsLock = true) : task = done.length ∧ phase = current := by
  obtain ⟨k, rfl, found⟩ := stands.inside inside
  cases k with
  | zero => exact ⟨rfl, (Option.some.inj found).symm⟩
  | succ k => simp at found

/-- A call that neither waits nor is inside the guarded section has come to its end. -/
theorem Place.finished (stands : Place done present waiting later task phase)
    (inside : ∀ phase ∈ present, phase.holdsLock = true) (aside : phase.isAside = true) :
    phase.stepsLeft = 0 := by
  cases stands with
  | done => rfl
  | present k phase among =>
    have holds := inside _ (List.mem_of_getElem? among)
    cases phase <;> simp [TaskPhase.holdsLock, TaskPhase.isAside] at holds aside
  | waiting | later => simp [TaskPhase.isAside] at aside

private theorem set_middle {α : Type} (front : List α) (a b : α) (back : List α) :
    (front ++ a :: back).set front.length b = front ++ b :: back := by
  simp

private theorem getElem?_middle {α : Type} (front : List α) (a : α) (back : List α) :
    (front ++ a :: back)[front.length]? = some a := by
  simp

private theorem set_present (phase next : TaskPhase P) : (lineUp done [phase] waiting later).set done.length next =
    lineUp done [next] waiting later := by
  have place : done.length = (done.map .finished : List (TaskPhase P)).length := by simp
  rw [place]
  exact set_middle _ _ _ _

private theorem getElem?_present (done : List (Except ClientError Bool)) (phase : TaskPhase P)
    (waiting later : List LifecycleCall) :
    (lineUp done [phase] waiting later)[done.length]? = some phase := by
  have place : done.length = (done.map .finished : List (TaskPhase P)).length := by simp
  rw [place]
  exact getElem?_middle _ _ _

/-- The calls in front of the first that has not begun. -/
theorem lineUp_later (done : List (Except ClientError Bool)) (present : List (TaskPhase P))
    (waiting later : List LifecycleCall) (turn : LifecycleCall) : ∃ front : List (TaskPhase P),
    front.length = done.length + present.length + waiting.length ∧
    lineUp done present waiting (turn :: later) = front ++ .arriving turn :: later.map .arriving ∧
    lineUp done present (waiting ++ [turn]) later = front ++ .queued turn :: later.map .arriving := by
  refine ⟨done.map .finished ++ present ++ waiting.map .queued, ?_, ?_, ?_⟩
  · simp [Nat.add_assoc]
  · simp [lineUp]
  · simp [lineUp]

private theorem set_later (turn : LifecycleCall) :
    (lineUp done present waiting (turn :: later)).set (done.length + present.length + waiting.length)
      (.queued turn) = lineUp done present (waiting ++ [turn]) later := by
  obtain ⟨front, length, before, after⟩ := lineUp_later done present waiting later turn
  rw [← length, before, after]
  exact set_middle _ _ _ _

/-- The first of the calls that have not begun is the next to begin. -/
theorem first_later {turn : LifecycleCall}
    (found : (lineUp done present waiting later)[task]? = some (.arriving turn))
    (inside : ∀ phase ∈ present, phase.holdsLock = true)
    (first : ∀ earlier < task, ∀ other, (lineUp done present waiting later)[earlier]? ≠ some (.arriving other)) :
    task = done.length + present.length + waiting.length ∧ ∃ others, later = turn :: others := by
  cases place found with
  | present k phase among =>
    have holds := inside _ (List.mem_of_getElem? among)
    simp [TaskPhase.holdsLock] at holds
  | later k turn among =>
    cases later with
    | nil => simp at among
    | cons next others =>
      cases k with
      | zero =>
        cases among
        exact ⟨rfl, others, rfl⟩
      | succ k =>
        -- One in front of it has not begun either.
        obtain ⟨front, length, before, _⟩ := lineUp_later done present waiting others next
        refine absurd ?_ (first front.length (by omega) next)
        rw [before]
        exact getElem?_middle _ _ _

end Line

/-- The calls up to some place in the list have come to what they come to one after another, and so
will the next, if it has the lock. -/
inductive InTurn (host : Host W P) (c : Client W P) (turns : List LifecycleCall) (t : Tasks W P) : Prop
  | free (past waiting later : List LifecycleCall) (all : turns = past ++ (waiting ++ later))
      (client : t.client = c.run host (past.map LifecycleCall.toCall))
      (phases : t.phases = lineUp (c.answers host (past.map LifecycleCall.toCall)) [] waiting later)
      (holder : t.holder = none) (queue : t.queue = List.range' past.length waiting.length)
  | held (past : List LifecycleCall) (turn : LifecycleCall) (waiting later : List LifecycleCall)
      (all : turns = past ++ turn :: (waiting ++ later)) (phase : TaskPhase P)
      (inside : phase.holdsLock = true)
      (comes : rest host phase t.client =
        (c.run host (past.map LifecycleCall.toCall)).perform host turn.toCall)
      (phases : t.phases = lineUp (c.answers host (past.map LifecycleCall.toCall)) [phase] waiting later)
      (holder : t.holder = some past.length)
      (queue : t.queue = List.range' (past.length + 1) waiting.length)

private theorem InTurn.begin (host : Host W P) (c : Client W P) (turns : List LifecycleCall) :
    InTurn host c turns (Tasks.begin c (turns.map .arriving)) :=
  .free [] [] turns rfl rfl rfl rfl rfl

section InTurn
variable {host : Host W P} {c : Client W P} {turns : List LifecycleCall} {t t' : Tasks W P}

/-- The next in the list gets the lock. -/
theorem InTurn.enter (past : List LifecycleCall) (turn : LifecycleCall) (waiting later : List LifecycleCall)
    (all : turns = past ++ turn :: (waiting ++ later))
    (client : t.client = c.run host (past.map LifecycleCall.toCall)) {phase : TaskPhase P}
    (phases : t.phases = lineUp (c.answers host (past.map LifecycleCall.toCall)) [phase] waiting later) :
    InTurn host c turns
      ({ t with
        holder := some past.length
        queue := List.range' (past.length + 1) waiting.length }.setPhase past.length (.entering turn)) := by
  have count := c.length_answers host (past.map LifecycleCall.toCall)
  rw [List.length_map] at count
  refine .held past turn waiting later all (.entering turn) rfl ?_ ?_ rfl rfl
  · change Client.perform host t.client _ = _
    rw [client]
  · change t.phases.set _ _ = _
    rw [phases, ← count, set_present]

private theorem InTurn.change {task : Nat} (inTurn : InTurn host c turns t) (change : Change host t task t')
    (first : ∀ turn, t.phases[task]? = some (.arriving turn) → ∀ earlier < task, ∀ other,
      t.phases[earlier]? ≠ some (.arriving other)) : InTurn host c turns t' := by
  cases inTurn with
  | free past waiting later all client phases holder queue =>
    have count := c.length_answers host (past.map LifecycleCall.toCall)
    have vacant : ∀ phase ∈ ([] : List (TaskPhase P)), phase.holdsLock = true := by simp
    rw [List.length_map] at count
    rw [phases] at first
    cases change with
    | entered turn found free empty =>
      rw [phases] at found
      obtain ⟨rfl, others, rfl⟩ := first_later found vacant (first turn found)
      obtain rfl : waiting = [] := by simpa [queue] using empty
      rw [count, empty]
      exact .enter past turn [] others all client phases
    | queued turn found taken =>
      rw [phases] at found
      obtain ⟨rfl, others, rfl⟩ := first_later found vacant (first turn found)
      refine .free past (waiting ++ [turn]) others (by simpa using all) client ?_ holder ?_
      · change t.phases.set _ _ = _
        rw [phases, set_later]
      · change t.queue ++ [_] = _
        rw [queue, count]
        simp [List.range'_concat]
    | granted turn found free others head =>
      rw [phases] at found
      cases waiting with
      | nil => simp [queue] at head
      | cons next waiting =>
        obtain ⟨rfl, rfl⟩ := List.cons.inj (queue.symm.trans head)
        have waits := getElem?_present (c.answers host (past.map LifecycleCall.toCall))
          (.queued next : TaskPhase P) waiting later
        rw [count] at waits
        cases waits.symm.trans found
        exact .enter past turn waiting later all client phases
    -- Nobody is inside who could move or end.
    | moved phase next client found moves =>
      rw [phases] at found
      obtain ⟨k, _, among⟩ := (place found).inside moves.inside.1
      simp at among
    | ended phase result client found ends =>
      rw [phases] at found
      obtain ⟨k, _, among⟩ := (place found).inside ends.inside
      simp at among
    | aside phase next client found before after kept fewer =>
      rw [phases] at found
      have finished := (place found).finished vacant before
      omega
  | held past current waiting later all phase inside comes phases holder queue =>
    have count := c.length_answers host (past.map LifecycleCall.toCall)
    have one : ∀ phase' ∈ [phase], phase'.holdsLock = true := by simpa using inside
    rw [List.length_map] at count
    rw [phases] at first
    cases change with
    | entered turn found free empty => simp [holder] at free
    | granted turn found free queue head => simp [holder] at free
    | queued turn found taken =>
      rw [phases] at found
      obtain ⟨rfl, others, rfl⟩ := first_later found one (first _ found)
      refine .held past current (waiting ++ [turn]) others (by simpa using all) phase inside comes ?_ holder ?_
      · change t.phases.set _ _ = _
        rw [phases, set_later]
      · change t.queue ++ [_] = _
        rw [queue, count]
        simp [List.range'_concat]
    | moved phase next client found moves =>
      rw [phases] at found
      obtain ⟨rfl, rfl⟩ := (place found).present_eq moves.inside.1
      refine .held past current waiting later all next moves.inside.2 (moves.rest.trans comes) ?_ holder queue
      change t.phases.set _ _ = _
      rw [phases, set_present]
    | ended phase result client found ends =>
      rw [phases] at found
      obtain ⟨rfl, rfl⟩ := (place found).present_eq ends.inside
      -- What the call came to is what it was bound to come to since it got the lock.
      have outcome := ends.rest.symm.trans comes
      refine .free (past ++ [current]) waiting later (by simpa using all) ?_ ?_ rfl ?_
      · change client = _
        rw [List.map_append, List.map_singleton, run_append_singleton, ← outcome]
      · change t.phases.set _ _ = _
        rw [phases, set_present, List.map_append, List.map_singleton, answers_concat, ← outcome]
        simp [lineUp]
      · change t.queue = _
        rw [queue, List.length_append]
        rfl
    | aside phase next client found before after kept fewer =>
      rw [phases] at found
      have finished := (place found).finished one before
      omega

end InTurn

/-- Calls make their first steps in the order of their numbers. -/
def ArrivesInOrder (tasks : Nat) (schedule : List Nat) : Prop :=
  ∀ before task after, schedule = before ++ task :: after → task < tasks →
    ∀ earlier < task, earlier ∈ before

private theorem ArrivesInOrder.init {tasks task : Nat} {schedule : List Nat}
    (inOrder : ArrivesInOrder tasks (schedule ++ [task])) : ArrivesInOrder tasks schedule := by
  intro before other after split
  apply inOrder before other (after ++ [task])
  rw [split]
  simp

/-- Calls that begin at the same time, in the order of their numbers, whatever their order is then. -/
theorem arrivesInOrder_range_append (tasks : Nat) (schedule : List Nat) :
    ArrivesInOrder tasks (List.range tasks ++ schedule) := by
  intro before task after split bound earlier less
  have here : (List.range tasks ++ schedule)[before.length]? = some task := by
    rw [split]
    exact getElem?_middle before task after
  have behind : earlier < before.length := by
    rcases Nat.lt_or_ge before.length tasks with inside | _
    · rw [List.getElem?_append_left (by simpa using inside), List.getElem?_range inside] at here
      cases here
      exact less
    · omega
  have found : (List.range tasks ++ schedule)[earlier]? = some earlier := by
    rw [List.getElem?_append_left (by simp; omega), List.getElem?_range (by omega)]
  rw [split, List.getElem?_append_left behind] at found
  exact List.mem_of_getElem? found

private theorem Change.set {host : Host W P} {t t' : Tasks W P} {task : Nat} (change : Change host t task t') :
    ∃ phase next, t.phases[task]? = some phase ∧ t'.phases = t.phases.set task next ∧
      ∀ turn, next ≠ .arriving turn := by
  cases change with
  | entered turn found | queued turn found | granted turn found => exact ⟨_, _, found, rfl, by simp⟩
  | ended phase result client found ends => exact ⟨_, _, found, rfl, by simp⟩
  | moved phase next client found moves =>
    refine ⟨_, _, found, rfl, ?_⟩
    rintro turn rfl
    have inside := moves.inside.2
    simp [TaskPhase.holdsLock] at inside
  | aside phase next client found before after =>
    refine ⟨_, _, found, rfl, ?_⟩
    rintro turn rfl
    simp [TaskPhase.isAside] at after

theorem run_concat (host : Host W P) (t : Tasks W P) (schedule : List Nat) (task : Nat) :
    t.run host (schedule ++ [task]) =
      ((t.run host schedule).step? host task).getD (t.run host schedule) := by
  rw [run_append]
  rfl

/-- A call that had its turn has begun. -/
theorem begun_of_mem (host : Host W P) (t : Tasks W P) {schedule : List Nat} {task : Nat}
    (seen : task ∈ schedule) (turn : LifecycleCall) :
    (t.run host schedule).phases[task]? ≠ some (.arriving turn) := by
  induction schedule using List.reverseRecOn with
  | nil => simp at seen
  | append_singleton schedule last ih =>
    rw [run_concat]
    intro arriving
    cases step : (t.run host schedule).step? host last with
    | none =>
      rw [step, Option.getD_none] at arriving
      rcases List.mem_append.1 seen with before | now
      · exact ih before arriving
      · obtain rfl := List.mem_singleton.1 now
        have able := step?_isSome host arriving (by simp [TaskPhase.stepsLeft]) (by simp)
        simp [step] at able
    | some t' =>
      obtain ⟨phase, next, found, phases, begun⟩ := (step?_change step).set
      rw [step, Option.getD_some, phases, getElem?_set_found found] at arriving
      by_cases same : task = last
      · rw [if_pos same] at arriving
        exact begun turn (Option.some.inj arriving)
      · rw [if_neg same] at arriving
        have before : task ∈ schedule := by simpa [same] using seen
        exact ih before arriving

private theorem InTurn.run (host : Host W P) (c : Client W P) {turns : List LifecycleCall} {schedule : List Nat}
    (inOrder : ArrivesInOrder turns.length schedule) :
    InTurn host c turns ((Tasks.begin c (turns.map .arriving)).run host schedule) := by
  induction schedule using List.reverseRecOn with
  | nil => exact .begin host c turns
  | append_singleton schedule task ih =>
    have inTurn := ih inOrder.init
    rw [run_concat]
    cases step : ((Tasks.begin c (turns.map .arriving)).run host schedule).step? host task with
    | none => exact inTurn
    | some t' =>
      apply inTurn.change (step?_change step)
      intro turn found earlier less other
      have bound : task < turns.length := by
        have inRange := (List.getElem?_eq_some_iff.1 found).1
        simpa [length_run, Tasks.begin] using inRange
      exact begun_of_mem host _ (inOrder schedule task [] rfl bound earlier less) other

private theorem InTurn.finished {host : Host W P} {c : Client W P} {turns : List LifecycleCall} {t : Tasks W P}
    (inTurn : InTurn host c turns t) (finished : t.AllFinished) :
    t.client = c.run host (turns.map LifecycleCall.toCall) ∧
      t.results = c.answers host (turns.map LifecycleCall.toCall) := by
  cases inTurn with
  | free past waiting later all client phases holder queue =>
    unfold AllFinished at finished
    rw [phases] at finished
    obtain rfl : waiting = [] := by
      apply List.eq_nil_iff_forall_not_mem.2
      intro turn inside
      have ended := finished (.queued turn) (by simp [lineUp, inside])
      simp [TaskPhase.result?] at ended
    obtain rfl : later = [] := by
      apply List.eq_nil_iff_forall_not_mem.2
      intro turn inside
      have ended := finished (.arriving turn) (by simp [lineUp, inside])
      simp [TaskPhase.result?] at ended
    obtain rfl : turns = past := by simpa using all
    refine ⟨client, ?_⟩
    rw [results, phases]
    simp [lineUp, List.filterMap_map, TaskPhase.result?]
  | held past current waiting later all phase inside comes phases =>
    have ended := finished phase (by simp [phases, lineUp])
    cases phase <;> simp [TaskPhase.result?, TaskPhase.holdsLock] at ended inside

/-- Calls that start and stop a client and begin in the order of a list, side by side, end as if they
had been made one after another: with the same results, the same client and the same history. They
do end, if each of them can go on often enough. -/
theorem run_in_turn (host : Host W P) (c : Client W P) (calls : List (ClientCall P))
    (turns : List LifecycleCall) (begun : calls.map ClientCall.lifecycle? = turns.map some)
    (schedule : List Nat) (inOrder : ArrivesInOrder turns.length schedule) :
    (((Tasks.begin c (turns.map .arriving)).run host schedule).AllFinished →
      ((Tasks.begin c (turns.map .arriving)).run host schedule).client = c.run host calls ∧
      ((Tasks.begin c (turns.map .arriving)).run host schedule).results = c.answers host calls) ∧
    ∀ rounds : List (List Nat), schedule = rounds.flatten →
      (∀ round ∈ rounds, ∀ task < turns.length, task ∈ round) →
      stepBound * turns.length ≤ rounds.length →
      ((Tasks.begin c (turns.map .arriving)).run host schedule).AllFinished := by
  refine ⟨fun finished => ?_, ?_⟩
  · obtain ⟨client, results⟩ := c.run_turns host begun
    rw [← client, ← results]
    exact (InTurn.run host c inOrder).finished finished
  · rintro rounds rfl all enough
    have fresh : ∀ phase ∈ (turns.map .arriving : List (TaskPhase P)), phase.isFresh = true := by
      simp [TaskPhase.isFresh]
    have guarded := Guarded.begin c fresh
    have bound := remaining_le (Tasks.begin c (turns.map .arriving))
    have length : (Tasks.begin c (turns.map .arriving)).phases.length = turns.length := by
      simp [Tasks.begin]
    rw [length] at bound
    apply guarded.finish host rounds
    · rw [length]
      exact all
    · exact Nat.le_trans bound enough

def stubborn : Client Rehearsal.World Nat :=
  Client.new .default "/work" ⟨{ Rehearsal.Policy.permissive with failStop := true }, []⟩

def opposed : Tasks Rehearsal.World Nat :=
  (Tasks.begin stubborn ([.restart, .stop, .restart].map .arriving)).run Rehearsal.host
    (List.range 3 ++ (List.replicate 47 [2, 1, 0]).flatten)

theorem run_in_turn_opposed : opposed.AllFinished ∧
    opposed.client = stubborn.run Rehearsal.host [.start, .stop, .restart] ∧
    opposed.results = [.ok true, .error (.shutdown "shutdown request timed out"), .ok true] := by
  obtain ⟨inTurn, ends⟩ := run_in_turn Rehearsal.host stubborn [.start, .stop, .restart]
    [.restart, .stop, .restart] rfl _ (arrivesInOrder_range_append 3 (List.replicate 47 [2, 1, 0]).flatten)
  have finished : opposed.AllFinished := by
    apply ends (List.range 3 :: List.replicate 47 [2, 1, 0]) List.flatten_cons
    · decide +kernel
    · decide
  obtain ⟨client, results⟩ := inTurn finished
  refine ⟨finished, client, results.trans ?_⟩
  rfl

end Tasks

end LanguageClient
