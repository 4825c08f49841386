import Mathlib.Algebra.Order.BigOperators.Group.List
import Mathlib.Algebra.Order.Ring.Nat
import LanguageClient.Proofs.Client.Course

/-! Calls that run side by side. What one step of one call can do is said once, in `Change`; inside
the section that the lifecycle lock guards, `Moves` and `Ends` say it phase by phase. At most one call
is inside that section, the others wait in the order of their arrival, and as long as a call is not
finished some call can make a step, so all calls come to their end under every schedule that lets
each of them go on again and again. -/
namespace LanguageClient

variable {W P : Type}

namespace TaskPhase

/-- A call that has not begun. -/
def isFresh : TaskPhase P → Bool
  | .arriving _ | .seeking _ | .seekingRefresh _ | .seekingClose _ => true
  | _ => false

/-- A call that has to do with documents, or that is finished. -/
def isAside : TaskPhase P → Bool
  | .seeking _ | .syncing _ _ | .seekingRefresh _ | .refreshing _ _ | .seekingClose _
  | .forgetting _ _ | .dismissing _ _ | .finished _ => true
  | _ => false

def stepsLeft : TaskPhase P → Nat
  | .arriving _ => 13
  | .queued _ => 12
  | .entering _ => 11
  | .fetching _ => 10
  | .stopping _ _ _ => 9
  | .clearing _ _ => 8
  | .lowering _ _ => 7
  | .preparing => 6
  | .launching => 5
  | .installing _ _ => 4
  | .raising _ _ => 3
  | .reopening _ _ => 2
  | .announcing _ => 1
  | .seeking _ => 2
  | .syncing _ _ => 1
  | .seekingRefresh _ => 2
  | .refreshing _ _ => 1
  | .seekingClose _ => 3
  | .forgetting _ _ => 2
  | .dismissing _ _ => 1
  | .finished _ => 0

end TaskPhase

namespace Tasks

inductive Moves (host : Host W P) (c : Client W P) : TaskPhase P → TaskPhase P → Client W P → Prop
  | started (call : LifecycleCall) (started : c.isStarted = true) :
      Moves host c (.entering call) (.fetching call) c
  | notStarted (stopped : c.isStarted = false) : Moves host c (.entering .restart) .preparing c
  | missing (call : LifecycleCall) (vacant : c.active = none) :
      Moves host c (.fetching call) (.lowering call (.error .notStarted)) c
  | fetched (call : LifecycleCall) (id : Nat) (peer : P) (inUse : c.active = some (id, peer)) :
      Moves host c (.fetching call) (.stopping call id peer) (c.beginStop id peer)
  | stopped (call : LifecycleCall) (id : Nat) (peer : P) :
      Moves host c (.stopping call id peer) (.clearing call (c.stopPeer host id peer).1)
        (c.stopPeer host id peer).2
  | cleared (call : LifecycleCall) (result : Except ClientError Unit) :
      Moves host c (.clearing call result) (.lowering call result) c.clearActive
  | lowered : Moves host c (.lowering .restart (.ok ())) .preparing c.markStopped
  | prepared : Moves host c .preparing .launching c.beginLaunch
  | launched (id : Nat) (peer : P) (c' : Client W P) (launch : c.launchPeer host = (.ok (id, peer), c')) :
      Moves host c .launching (.installing id peer) c'
  | installed (id : Nat) (peer : P) : Moves host c (.installing id peer) (.raising id peer) (c.install id peer)
  | raised (id : Nat) (peer : P) : Moves host c (.raising id peer) (.reopening id peer) c.markStarted
  | reopened (id : Nat) (peer : P) :
      Moves host c (.reopening id peer) (.announcing id) (c.reopen host peer)

inductive Ends (host : Host W P) (c : Client W P) :
    TaskPhase P → Except ClientError Unit → Client W P → Prop
  | notStarted (stopped : c.isStarted = false) : Ends host c (.entering .stop) (.error .notStarted) c
  | stopped (result : Except ClientError Unit) : Ends host c (.lowering .stop result) result c.markStopped
  | stopFailed (e : ClientError) : Ends host c (.lowering .restart (.error e)) (.error e) c.markStopped
  | launchFailed (e : ClientError) (c' : Client W P) (launch : c.launchPeer host = (.error e, c')) :
      Ends host c .launching (.error e) c'
  | announced (id : Nat) : Ends host c (.announcing id) (.ok ()) (c.announce id)

inductive Change (host : Host W P) (t : Tasks W P) (task : Nat) : Tasks W P → Prop
  | entered (call : LifecycleCall) (found : t.phases[task]? = some (.arriving call))
      (free : t.holder = none) (none : t.queue = []) :
      Change host t task ({ t with holder := some task }.setPhase task (.entering call))
  | queued (call : LifecycleCall) (found : t.phases[task]? = some (.arriving call))
      (taken : t.holder ≠ none ∨ t.queue ≠ []) :
      Change host t task ({ t with queue := t.queue ++ [task] }.setPhase task (.queued call))
  | granted (call : LifecycleCall) (found : t.phases[task]? = some (.queued call))
      (free : t.holder = none) (rest : List Nat) (first : t.queue = task :: rest) :
      Change host t task ({ t with holder := some task, queue := rest }.setPhase task (.entering call))
  | moved (phase next : TaskPhase P) (client : Client W P) (found : t.phases[task]? = some phase)
      (moves : Moves host t.client phase next client) : Change host t task (t.go task client next)
  | ended (phase : TaskPhase P) (result : Except ClientError Unit) (client : Client W P)
      (found : t.phases[task]? = some phase) (ends : Ends host t.client phase result client) :
      Change host t task (t.release task client result)
  | aside (phase next : TaskPhase P) (client : Client W P) (found : t.phases[task]? = some phase)
      (before : phase.isAside = true) (after : next.isAside = true)
      (kept : Client.SameConnection t.client client) (fewer : next.stepsLeft < phase.stepsLeft) :
      Change host t task (t.go task client next)

theorem step?_change {host : Host W P} {t t' : Tasks W P} {task : Nat}
    (step : t.step? host task = some t') : Change host t task t' := by
  unfold step? at step
  obtain ⟨phase, found, step⟩ := Option.bind_eq_some_iff.1 step
  cases phase with
  | arriving call =>
    dsimp only at step
    split at step
    · next free =>
      cases step
      obtain ⟨noHolder, noQueue⟩ : t.holder = none ∧ t.queue = [] := by simpa using free
      exact .entered call found noHolder noQueue
    · next taken =>
      cases step
      refine .queued call found ?_
      by_contra both
      exact taken (by simpa using both)
  | queued call =>
    dsimp only at step
    split at step
    · next free =>
      cases step
      obtain ⟨noHolder, first⟩ : t.holder = none ∧ t.queue.head? = some task := by simpa using free
      obtain ⟨rest, whole⟩ := List.head?_eq_some_iff.1 first
      rw [whole]
      exact .granted call found noHolder rest whole
    · contradiction
  | entering call =>
    dsimp only at step
    split at step
    · next started =>
      cases step
      exact .moved _ _ _ found (.started call started)
    · next notStarted =>
      have stopped : t.client.isStarted = false := by simpa using notStarted
      cases call with
      | restart =>
        cases step
        exact .moved _ _ _ found (.notStarted stopped)
      | stop =>
        cases step
        exact .ended _ _ _ found (.notStarted stopped)
  | fetching call =>
    dsimp only at step
    cases inUse : t.client.active with
    | none =>
      rw [inUse] at step
      cases step
      exact .moved _ _ _ found (.missing call inUse)
    | some connection =>
      rw [inUse] at step
      cases step
      exact .moved _ _ _ found (.fetched call _ _ inUse)
  | stopping call id peer =>
    cases step
    exact .moved _ _ _ found (.stopped call id peer)
  | clearing call result =>
    cases step
    exact .moved _ _ _ found (.cleared call result)
  | lowering call result =>
    cases call with
    | stop =>
      cases step
      exact .ended _ _ _ found (.stopped result)
    | restart =>
      cases result with
      | ok done =>
        cases step
        exact .moved _ _ _ found .lowered
      | error e =>
        cases step
        exact .ended _ _ _ found (.stopFailed e)
  | preparing =>
    cases step
    exact .moved _ _ _ found .prepared
  | launching =>
    dsimp only at step
    split at step
    · next e client launch =>
      cases step
      exact .ended _ _ _ found (.launchFailed e client launch)
    · next id peer client launch =>
      cases step
      exact .moved _ _ _ found (.launched id peer client launch)
  | installing id peer =>
    cases step
    exact .moved _ _ _ found (.installed id peer)
  | raising id peer =>
    cases step
    exact .moved _ _ _ found (.raised id peer)
  | reopening id peer =>
    cases step
    exact .moved _ _ _ found (.reopened id peer)
  | announcing id =>
    cases step
    exact .ended _ _ _ found (.announced id)
  | seeking d =>
    dsimp only at step
    split at step
    · cases step
      exact .aside _ _ _ found rfl rfl (.refl _) (by simp [TaskPhase.stepsLeft])
    · split at step <;> cases step <;> exact .aside _ _ _ found rfl rfl (.refl _) (by simp [TaskPhase.stepsLeft])
  | syncing peer d =>
    cases step
    exact .aside _ _ _ found rfl rfl (t.client.syncOn_same host peer d) (by simp [TaskPhase.stepsLeft])
  | seekingRefresh d =>
    dsimp only at step
    split at step
    · cases step
      exact .aside _ _ _ found rfl rfl (.refl _) (by simp [TaskPhase.stepsLeft])
    · cases step
      have noted : Client.SameConnection t.client (t.client.note (.refreshing d.uri)) :=
        ⟨rfl, rfl, rfl, _, rfl, by simp [Happening.isMilestone]⟩
      exact .aside _ _ _ found rfl rfl noted (by simp [TaskPhase.stepsLeft])
  | refreshing peer d =>
    cases step
    exact .aside _ _ _ found rfl rfl (t.client.refreshOn_same host peer d) (by simp [TaskPhase.stepsLeft])
  | seekingClose uri =>
    dsimp only at step
    split at step <;> cases step <;> exact .aside _ _ _ found rfl rfl (.refl _) (by simp [TaskPhase.stepsLeft])
  | forgetting peer uri =>
    have kept := t.client.forget_same uri
    dsimp only at step
    split at step
    · next client gone =>
      cases step
      rw [gone] at kept
      exact .aside _ _ _ found rfl rfl kept (by simp [TaskPhase.stepsLeft])
    · next client gone =>
      cases step
      rw [gone] at kept
      exact .aside _ _ _ found rfl rfl kept (by simp [TaskPhase.stepsLeft])
  | dismissing peer uri =>
    cases step
    exact .aside _ _ _ found rfl rfl (t.client.dismissOn_same host peer uri) (by simp [TaskPhase.stepsLeft])
  | finished result => contradiction

theorem Moves.inside {host : Host W P} {c c' : Client W P} {phase next : TaskPhase P}
    (moves : Moves host c phase next c') : phase.holdsLock = true ∧ next.holdsLock = true := by
  cases moves <;> exact ⟨rfl, rfl⟩

private theorem Moves.fewer {host : Host W P} {c c' : Client W P} {phase next : TaskPhase P}
    (moves : Moves host c phase next c') : next.stepsLeft < phase.stepsLeft := by
  cases moves <;> simp [TaskPhase.stepsLeft]

theorem Ends.inside {host : Host W P} {c c' : Client W P} {phase : TaskPhase P}
    {result : Except ClientError Unit} (ends : Ends host c phase result c') : phase.holdsLock = true := by
  cases ends <;> rfl

private theorem Ends.fewer {host : Host W P} {c c' : Client W P} {phase : TaskPhase P}
    {result : Except ClientError Unit} (ends : Ends host c phase result c')
    (end' : Except ClientError Bool) : (TaskPhase.finished end' : TaskPhase P).stepsLeft < phase.stepsLeft := by
  cases ends <;> simp [TaskPhase.stepsLeft]

theorem getElem?_set_found {α : Type} {items : List α} {i : Nat} {a : α} (found : items[i]? = some a)
    (b : α) (j : Nat) : (items.set i b)[j]? = if j = i then some b else items[j]? := by
  have bound : i < items.length := (List.getElem?_eq_some_iff.1 found).1
  rw [List.getElem?_set]
  by_cases same : i = j
  · simp [same, same ▸ bound]
  · simp [same, Ne.symm same]

/-- After a step, the call that is inside is the one that made the step or was inside before. -/
theorem inside_set {phases : List (TaskPhase P)} {task : Nat} {phase next : TaskPhase P}
    {Fitting : Nat → TaskPhase P → Prop} (found : phases[task]? = some phase)
    (own : next.holdsLock = true → Fitting task next)
    (kept : ∀ (other : Nat), other ≠ task → ∀ phase : TaskPhase P, phases[other]? = some phase →
      phase.holdsLock = true → Fitting other phase) :
    ∀ (other : Nat) (phase : TaskPhase P), (phases.set task next)[other]? = some phase →
      phase.holdsLock = true → Fitting other phase := by
  intro other phase found' inside
  rw [getElem?_set_found found] at found'
  by_cases same : other = task
  · subst same
    rw [if_pos rfl] at found'
    cases found'
    exact own inside
  · rw [if_neg same] at found'
    exact kept other same phase found' inside

/-- The holder of the lock is the one call inside the guarded section, and the queue is the line of the
calls that wait. -/
structure Guarded (t : Tasks W P) : Prop where
  held : ∀ task, t.holder = some task → ∃ phase, t.phases[task]? = some phase ∧ phase.holdsLock = true
  alone : ∀ task phase, t.phases[task]? = some phase → phase.holdsLock = true → t.holder = some task
  lined : ∀ task, task ∈ t.queue ↔ ∃ call, t.phases[task]? = some (.queued call)
  once : t.queue.Nodup

namespace Guarded

variable {t t' : Tasks W P} {task : Nat}

/-- At most one call is inside the section. -/
theorem not_inside (guarded : Guarded t) {phase : TaskPhase P} (found : t.phases[task]? = some phase)
    (inside : phase.holdsLock = true) {other : Nat} (differs : other ≠ task) {phase' : TaskPhase P}
    (found' : t.phases[other]? = some phase') : phase'.holdsLock ≠ true := by
  intro inside'
  have holder := guarded.alone task phase found inside
  have holder' := guarded.alone other phase' found' inside'
  exact differs (Option.some.inj (holder'.symm.trans holder))

theorem begin (client : Client W P) {phases : List (TaskPhase P)}
    (fresh : ∀ phase ∈ phases, phase.isFresh = true) : Guarded (Tasks.begin client phases) where
  held task holds := by simp [Tasks.begin] at holds
  alone task phase found holds := by
    have begun := fresh phase (List.mem_of_getElem? found)
    cases phase <;> simp [TaskPhase.isFresh, TaskPhase.holdsLock] at begun holds
  lined task := by
    simp only [Tasks.begin, List.not_mem_nil, false_iff, not_exists]
    intro call found
    have begun := fresh _ (List.mem_of_getElem? found)
    simp [TaskPhase.isFresh] at begun
  once := List.nodup_nil

/-- A call that neither enters nor leaves the section, nor the line for it, changes nothing. -/
theorem stay (guarded : Guarded t) {phase next : TaskPhase P} (found : t.phases[task]? = some phase)
    (client : Client W P) (lock : next.holdsLock = phase.holdsLock)
    (out : ∀ call, phase ≠ .queued call) (out' : ∀ call, next ≠ .queued call) :
    Guarded (t.go task client next) where
  held other holds := by
    obtain ⟨phase', found', inside⟩ := guarded.held other holds
    simp only [go, getElem?_set_found found]
    by_cases same : other = task
    · subst same
      cases found'.symm.trans found
      exact ⟨next, if_pos rfl, lock.trans inside⟩
    · exact ⟨phase', by rw [if_neg same]; exact found', inside⟩
  alone := inside_set found (fun inside => guarded.alone task phase found (lock.symm.trans inside))
    fun other _ => guarded.alone other
  lined other := by
    simp only [go, getElem?_set_found found]
    rw [guarded.lined]
    by_cases same : other = task
    · subst same
      rw [if_pos rfl, found]
      simp [out, out']
    · rw [if_neg same]
  once := guarded.once

/-- A call that gets the free lock leaves the line, if it was in it. -/
theorem taken (guarded : Guarded t) {phase : TaskPhase P} (found : t.phases[task]? = some phase)
    (free : t.holder = none) (call : LifecycleCall) {queue : List Nat} (once : queue.Nodup)
    (lined : ∀ other, other ∈ queue ↔ other ∈ t.queue ∧ other ≠ task) :
    Guarded ({ t with holder := some task, queue := queue }.setPhase task (.entering call)) where
  held other holds := by
    cases holds
    exact ⟨.entering call, by simp [setPhase, getElem?_set_found found], rfl⟩
  alone := by
    refine inside_set found (fun _ => rfl) fun other _ phase found' inside => ?_
    simp [guarded.alone other phase found' inside] at free
  lined other := by
    simp only [setPhase, getElem?_set_found found]
    rw [lined, guarded.lined]
    by_cases same : other = task
    · simp [same]
    · simp [same]
  once := once

private theorem queued (guarded : Guarded t) {call : LifecycleCall}
    (found : t.phases[task]? = some (.arriving call)) :
    Guarded ({ t with queue := t.queue ++ [task] }.setPhase task (.queued call)) where
  held other holds := by
    obtain ⟨phase, found', inside⟩ := guarded.held other holds
    have differs : other ≠ task := by
      rintro rfl
      cases found'.symm.trans found
      simp [TaskPhase.holdsLock] at inside
    exact ⟨phase, by simp [setPhase, getElem?_set_found found, differs, found'], inside⟩
  alone := by
    refine inside_set found (fun inside => ?_) fun other _ => guarded.alone other
    simp [TaskPhase.holdsLock] at inside
  lined other := by
    simp only [setPhase, getElem?_set_found found, List.mem_append, List.mem_singleton]
    by_cases same : other = task
    · simp [same]
    · simp [same, guarded.lined]
  once := by
    apply guarded.once.append (List.nodup_singleton task)
    simp [guarded.lined, found]

private theorem ended (guarded : Guarded t) {phase : TaskPhase P} (found : t.phases[task]? = some phase)
    (inside : phase.holdsLock = true) (client : Client W P) (result : Except ClientError Unit) :
    Guarded (t.release task client result) where
  held other holds := by simp [release] at holds
  alone := by
    refine inside_set found (fun inside' => ?_) fun other differs phase' found' inside' => ?_
    · simp [TaskPhase.holdsLock] at inside'
    · exact absurd inside' (guarded.not_inside found inside differs found')
  lined other := by
    simp only [release, getElem?_set_found found]
    rw [guarded.lined]
    by_cases same : other = task
    · subst same
      rw [found]
      cases phase <;> simp [TaskPhase.holdsLock] at inside ⊢
    · rw [if_neg same]
  once := guarded.once

theorem change {host : Host W P} (guarded : Guarded t) (change : Change host t task t') : Guarded t' := by
  cases change with
  | entered call found free none =>
    apply guarded.taken found free call guarded.once
    intro other
    rw [none]
    simp
  | queued call found taken => exact guarded.queued found
  | granted call found free rest first =>
    obtain ⟨absent, once⟩ := List.nodup_cons.1 (first ▸ guarded.once)
    apply guarded.taken found free call once
    intro other
    rw [first, List.mem_cons]
    by_cases same : other = task
    · simp [same, absent]
    · simp [same]
  | ended phase result client found ends => exact guarded.ended found ends.inside client result
  | moved phase next client found moves =>
    obtain ⟨inside, inside'⟩ := moves.inside
    apply guarded.stay found client (inside'.trans inside.symm)
    · rintro call rfl
      simp [TaskPhase.holdsLock] at inside
    · rintro call rfl
      simp [TaskPhase.holdsLock] at inside'
  | aside phase next client found before after kept fewer =>
    apply guarded.stay found client
    · cases phase <;> cases next <;> first | rfl | simp [TaskPhase.isAside] at before after
    · rintro call rfl
      simp [TaskPhase.isAside] at before
    · rintro call rfl
      simp [TaskPhase.isAside] at after

end Guarded

theorem run_append (host : Host W P) (t : Tasks W P) (schedule more : List Nat) :
    t.run host (schedule ++ more) = (t.run host schedule).run host more :=
  List.foldl_append

/-- What every step keeps is kept by a run. -/
theorem run_keeps {host : Host W P} (Kept : Tasks W P → Prop)
    (step : ∀ t t' task, Kept t → Change host t task t' → Kept t') {t : Tasks W P} (kept : Kept t)
    (schedule : List Nat) : Kept (t.run host schedule) := by
  induction schedule generalizing t with
  | nil => exact kept
  | cons task rest ih =>
    change Kept (((t.step? host task).getD t).run host rest)
    cases moved : t.step? host task with
    | none => exact ih kept
    | some t' => exact ih (step t t' task kept (step?_change moved))

private theorem Guarded.run {t : Tasks W P} (guarded : Guarded t) (host : Host W P) (schedule : List Nat) :
    Guarded (t.run host schedule) :=
  run_keeps Guarded (fun _ _ _ guarded change => guarded.change change) guarded schedule

private theorem Change.length {host : Host W P} {t t' : Tasks W P} {task : Nat} (change : Change host t task t') :
    t'.phases.length = t.phases.length := by
  cases change <;> simp [setPhase, go, release]

theorem length_run (host : Host W P) (t : Tasks W P) (schedule : List Nat) :
    (t.run host schedule).phases.length = t.phases.length :=
  run_keeps (fun t' => t'.phases.length = t.phases.length)
    (fun _ _ _ kept change => change.length.trans kept) rfl schedule

def AllFinished (t : Tasks W P) : Prop := ∀ phase ∈ t.phases, phase.result?.isSome = true

def remaining (t : Tasks W P) : Nat := (t.phases.map TaskPhase.stepsLeft).sum

private theorem result?_isSome_iff (phase : TaskPhase P) : phase.result?.isSome = true ↔ phase.stepsLeft = 0 := by
  cases phase <;> simp [TaskPhase.result?, TaskPhase.stepsLeft]

private theorem allFinished_iff (t : Tasks W P) : t.AllFinished ↔ t.remaining = 0 := by
  simp [AllFinished, remaining, result?_isSome_iff, List.sum_eq_zero_iff_forall_eq_nat]

theorem remaining_le (t : Tasks W P) : t.remaining ≤ stepBound * t.phases.length := by
  have bound : ∀ steps ∈ t.phases.map TaskPhase.stepsLeft, steps ≤ stepBound := by
    intro steps inside
    obtain ⟨phase, _, rfl⟩ := List.mem_map.1 inside
    cases phase <;> simp [TaskPhase.stepsLeft, stepBound]
  have sum := List.sum_le_card_nsmul _ _ bound
  simpa [remaining, Nat.mul_comm] using sum

private theorem sum_map_set {α : Type} (f : α → Nat) {items : List α} {i : Nat} {a : α}
    (found : items[i]? = some a) (b : α) :
    ((items.set i b).map f).sum + f a = (items.map f).sum + f b := by
  induction items generalizing i with
  | nil => simp at found
  | cons first rest ih =>
    cases i with
    | zero =>
      cases found
      simp only [List.set_cons_zero, List.map_cons, List.sum_cons]
      omega
    | succ i =>
      have tail := ih found
      simp only [List.set_cons_succ, List.map_cons, List.sum_cons]
      omega

private theorem Change.fewer {host : Host W P} {t t' : Tasks W P} {task : Nat} (change : Change host t task t') :
    t'.remaining < t.remaining := by
  have less : ∀ {phase next : TaskPhase P}, t.phases[task]? = some phase → next.stepsLeft < phase.stepsLeft →
      t'.phases = t.phases.set task next → t'.remaining < t.remaining := by
    intro phase next found fewer set
    have sum := sum_map_set TaskPhase.stepsLeft found next
    rw [remaining, remaining, set]
    omega
  cases change with
  | entered call found | queued call found | granted call found =>
    exact less found (by simp [TaskPhase.stepsLeft]) rfl
  | moved phase next client found moves => exact less found moves.fewer rfl
  | ended phase result client found ends => exact less found (ends.fewer _) rfl
  | aside phase next client found before after kept fewer => exact less found fewer rfl

private theorem remaining_run_le (host : Host W P) (t : Tasks W P) (schedule : List Nat) :
    (t.run host schedule).remaining ≤ t.remaining :=
  run_keeps (fun t' => t'.remaining ≤ t.remaining)
    (fun _ _ _ kept change => Nat.le_trans (Nat.le_of_lt change.fewer) kept) (Nat.le_refl _) schedule

/-- A call can make a step unless it is finished or waits for the lock. -/
theorem step?_isSome (host : Host W P) {t : Tasks W P} {task : Nat} {phase : TaskPhase P}
    (found : t.phases[task]? = some phase) (unfinished : phase.stepsLeft ≠ 0)
    (turn : ∀ call, phase = .queued call → t.holder = none ∧ t.queue.head? = some task) :
    (t.step? host task).isSome = true := by
  unfold step?
  rw [found]
  cases phase with
  | finished result => exact absurd rfl unfinished
  | queued call =>
    obtain ⟨free, first⟩ := turn call rfl
    simp [free, first]
  | lowering call result => cases call <;> cases result <;> rfl
  | entering call =>
    dsimp only [bind, Option.bind]
    cases call <;> split <;> rfl
  | arriving | fetching | launching | seeking | seekingRefresh | seekingClose | forgetting =>
    dsimp only [bind, Option.bind]
    repeat' split
    all_goals rfl
  | stopping | clearing | preparing | installing | raising | reopening | announcing | syncing
  | refreshing | dismissing => rfl

/-- As long as a call is not finished, some call can make a step. -/
theorem Guarded.exists_step {t : Tasks W P} (guarded : Guarded t) (host : Host W P)
    (unfinished : ¬ t.AllFinished) : ∃ task < t.phases.length, (t.step? host task).isSome = true := by
  have inRange {task : Nat} {phase : TaskPhase P} (found : t.phases[task]? = some phase) :
      task < t.phases.length := (List.getElem?_eq_some_iff.1 found).1
  -- The call inside can go on; if there is none, the first in line can, and if nobody waits, anyone can.
  cases holder : t.holder with
  | some task =>
    obtain ⟨phase, found, inside⟩ := guarded.held task holder
    refine ⟨task, inRange found, step?_isSome host found ?_ ?_⟩
    · cases phase <;> simp [TaskPhase.holdsLock, TaskPhase.stepsLeft] at inside ⊢
    · rintro call rfl
      simp [TaskPhase.holdsLock] at inside
  | none =>
    cases line : t.queue with
    | cons task rest =>
      obtain ⟨call, found⟩ := (guarded.lined task).1 (by simp [line])
      exact ⟨task, inRange found, step?_isSome host found (by simp [TaskPhase.stepsLeft]) fun _ _ => ⟨holder, by rw [line]; rfl⟩⟩
    | nil =>
      obtain ⟨phase, inside, going⟩ : ∃ phase ∈ t.phases, ¬ phase.result?.isSome = true := by
        simpa only [AllFinished, not_forall, exists_prop] using unfinished
      obtain ⟨task, found⟩ := List.getElem?_of_mem inside
      refine ⟨task, inRange found, step?_isSome host found (fun none => going ((result?_isSome_iff phase).2 none)) ?_⟩
      rintro call rfl
      have waits := (guarded.lined task).2 ⟨call, found⟩
      simp [line] at waits

private theorem remaining_run_lt {host : Host W P} {t : Tasks W P} {task : Nat} {round : List Nat}
    (able : (t.step? host task).isSome = true) (inside : task ∈ round) :
    (t.run host round).remaining < t.remaining := by
  induction round with
  | nil => simp at inside
  | cons first rest ih =>
    change (((t.step? host first).getD t).run host rest).remaining < t.remaining
    cases moved : t.step? host first with
    | some t' => exact Nat.lt_of_le_of_lt (remaining_run_le host t' rest) (step?_change moved).fewer
    | none =>
      have later : task ∈ rest := by
        rcases List.mem_cons.1 inside with rfl | later
        · simp [moved] at able
        · exact later
      exact ih later

/-- When every call has its turn often enough, all calls are finished, whatever the order of turns. -/
theorem Guarded.finish {t : Tasks W P} (guarded : Guarded t) (host : Host W P) (rounds : List (List Nat))
    (all : ∀ round ∈ rounds, ∀ task < t.phases.length, task ∈ round)
    (enough : t.remaining ≤ rounds.length) : (t.run host rounds.flatten).AllFinished := by
  induction rounds generalizing t with
  | nil => exact (allFinished_iff _).2 (Nat.le_zero.1 enough)
  | cons round rest ih =>
    rw [List.flatten_cons, run_append]
    apply ih (guarded.run host round)
    · rw [length_run]
      exact fun other inside => all other (by simp [inside])
    · by_cases finished : t.AllFinished
      · have none := (allFinished_iff t).1 finished
        have less := remaining_run_le host t round
        omega
      · obtain ⟨task, bound, able⟩ := guarded.exists_step host finished
        have less := remaining_run_lt able (all round (by simp) task bound)
        simp only [List.length_cons] at enough
        omega

end Tasks

end LanguageClient
