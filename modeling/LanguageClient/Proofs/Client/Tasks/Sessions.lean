import LanguageClient.Client.Rehearsal
import LanguageClient.Proofs.Client.Tasks.Lock

/-! One connection at a time. Calls that start and stop a client, side by side with each other and
with calls about documents, launch and stop its connections one after another: what the call inside
the guarded section has done so far tells how far the history has come, and when no call is inside,
the client is settled. Calls may arrive in any order, so they may enter the section in any order. -/
namespace LanguageClient

variable {W P : Type}

namespace Tasks

open Client

/-- How far the history of the client has come, by the phase of the call inside the guarded section. -/
def Fits (c : Client W P) : TaskPhase P → Prop
  | .entering _ => Settled c
  | .fetching _ => Settled c ∧ c.isStarted = true
  | .stopping _ id peer => Underway c (.stopping peer) ∧ id = (connections c.history).length
  | .clearing _ _ => Underway c .idle
  | .lowering _ _ => Underway c .idle ∧ c.active = none
  | .preparing => Underway c .idle ∧ c.active = none ∧ c.isStarted = false
  | .launching => Underway c .launching ∧ c.active = none ∧ c.isStarted = false
  | .installing id peer => Underway c (.running peer) ∧ id = (connections c.history).length
  | .raising id peer => Underway c (.running peer) ∧ id = (connections c.history).length ∧
      c.active = some (id, peer)
  | .reopening _ _ | .announcing _ => Settled c
  | _ => True

theorem Fits.same {c c' : Client W P} {phase : TaskPhase P} (fits : Fits c phase)
    (kept : SameConnection c c') : Fits c' phase := by
  cases phase with
  | entering | reopening | announcing => exact Settled.same fits kept
  | fetching => exact ⟨fits.1.same kept, kept.started.trans fits.2⟩
  | clearing => exact Underway.same fits kept
  | stopping | installing =>
    have after := fits.1.same kept
    have count := fits.1.count after kept.nextId
    exact ⟨after, fits.2.trans count.symm⟩
  | lowering => exact ⟨fits.1.same kept, kept.active.trans fits.2⟩
  | preparing | launching =>
    exact ⟨fits.1.same kept, kept.active.trans fits.2.1, kept.started.trans fits.2.2⟩
  | raising =>
    have after := fits.1.same kept
    have count := fits.1.count after kept.nextId
    exact ⟨after, fits.2.1.trans count.symm, kept.active.trans fits.2.2⟩
  | _ => trivial

private theorem Fits.moves {host : Host W P} {c c' : Client W P} {phase next : TaskPhase P} (fits : Fits c phase)
    (moves : Moves host c phase next c') : Fits c' next := by
  cases moves with
  | started call started => exact ⟨fits, started⟩
  | notStarted stopped =>
    have vacant := Settled.active_none fits stopped
    exact ⟨fits.vacant vacant, vacant, stopped⟩
  | missing call vacant => exact ⟨fits.1.vacant vacant, vacant⟩
  | fetched call id peer inUse =>
    have number := fits.1.current id peer inUse
    have underway := fits.1.inUse inUse
    have stopping := underway.stopping number
    exact ⟨stopping, number.trans (underway.count stopping rfl).symm⟩
  | stopped call id peer =>
    exact fits.1.stopped fits.2 (host.stop peer c.world).1 (host.stop peer c.world).2
  | cleared call result => exact ⟨fits.congr rfl rfl, rfl⟩
  | lowered => exact ⟨fits.1.congr rfl rfl, fits.2, rfl⟩
  | prepared => exact ⟨fits.1.launching c.serverOptions, fits.2.1, fits.2.2⟩
  | launched id peer c' launch =>
    rcases c.launchPeer_cases host with ⟨e, w, failed⟩ | ⟨other, w, done⟩
    · simp [failed] at launch
    · cases done.symm.trans launch
      have launched := fits.1.launched peer c.serverOptions c.clientOptions w
      have numbered := launched.numbered
      exact ⟨launched, Nat.succ.inj numbered⟩
  | installed id peer => exact ⟨fits.1.congr rfl rfl, fits.2, rfl⟩
  | raised id peer => exact Settled.running (fits.1.congr rfl rfl) fits.2.2 fits.2.1 rfl
  | reopened id peer => exact Settled.same fits (c.reopen_same host peer)

private theorem Fits.ends {host : Host W P} {c c' : Client W P} {phase : TaskPhase P}
    {result : Except ClientError Unit} (fits : Fits c phase) (ends : Ends host c phase result c') :
    Settled c' := by
  cases ends with
  | notStarted stopped => exact fits
  | stopped result => exact Settled.idle (fits.1.congr rfl rfl) fits.2 rfl
  | stopFailed e => exact Settled.idle (fits.1.congr rfl rfl) fits.2 rfl
  | launchFailed e c' launch =>
    rcases c.launchPeer_cases host with ⟨e', w, failed⟩ | ⟨other, w, done⟩
    · cases failed.symm.trans launch
      exact Settled.idle (fits.1.launchFailed e w) fits.2.1 fits.2.2
    · simp [done] at launch
  | announced id => exact Settled.same fits (c.announce_same id)

structure InSession (t : Tasks W P) : Prop extends Guarded t where
  inside : ∀ (task : Nat) (phase : TaskPhase P), t.phases[task]? = some phase →
    phase.holdsLock = true → Fits t.client phase
  outside : t.holder = none → Settled t.client

theorem InSession.change {host : Host W P} {t t' : Tasks W P} {task : Nat} (inSession : InSession t)
    (change : Change host t task t') : InSession t' := by
  have guarded := inSession.toGuarded.change change
  have kept : ∀ (other : Nat), other ≠ task → ∀ phase : TaskPhase P, t.phases[other]? = some phase →
      phase.holdsLock = true → Fits t.client phase := fun other _ => inSession.inside other
  cases change with
  | entered call found free none | granted call found free rest first =>
    refine ⟨guarded, inside_set found (fun _ => inSession.outside free) kept, fun vacant => ?_⟩
    simp [setPhase] at vacant
  | queued call found taken =>
    refine ⟨guarded, inside_set found (fun inside => ?_) kept, inSession.outside⟩
    simp [TaskPhase.holdsLock] at inside
  | moved phase next client found moves =>
    -- The other calls are outside, where they do not mind how the client changes.
    have holder := inSession.alone task phase found moves.inside.1
    have fits := inSession.inside task phase found moves.inside.1
    refine ⟨guarded, inside_set found (fun _ => fits.moves moves) ?_, fun vacant => ?_⟩
    · intro other differs phase' found' inside'
      exact absurd inside' (inSession.not_inside found moves.inside.1 differs found')
    · simp [go, holder] at vacant
  | ended phase result client found ends =>
    have settled := (inSession.inside task phase found ends.inside).ends ends
    refine ⟨guarded, inside_set found (fun inside => ?_) ?_, fun _ => settled⟩
    · simp [TaskPhase.holdsLock] at inside
    · intro other differs phase' found' inside'
      exact absurd inside' (inSession.not_inside found ends.inside differs found')
  | aside phase next client found before after same fewer =>
    refine ⟨guarded, inside_set found (fun inside => ?_) ?_, fun vacant => (inSession.outside vacant).same same⟩
    · cases next <;> simp [TaskPhase.isAside, TaskPhase.holdsLock] at after inside
    · intro other differs phase' found' inside'
      exact (kept other differs phase' found' inside').same same

theorem InSession.begin {client : Client W P} (settled : Settled client) {phases : List (TaskPhase P)}
    (fresh : ∀ phase ∈ phases, phase.isFresh = true) : InSession (Tasks.begin client phases) where
  toGuarded := Guarded.begin client fresh
  inside task phase found inside := by
    have begun := fresh phase (List.mem_of_getElem? found)
    cases phase <;> simp [TaskPhase.isFresh, TaskPhase.holdsLock] at begun inside
  outside _ := settled

private theorem InSession.run {t : Tasks W P} (inSession : InSession t) (host : Host W P) (schedule : List Nat) :
    InSession (t.run host schedule) :=
  run_keeps InSession (fun _ _ _ inSession change => inSession.change change) inSession schedule

private theorem Fits.course {c : Client W P} {phase : TaskPhase P} (fits : Fits c phase)
    (inside : phase.holdsLock = true) : ∃ station, Course c.history station := by
  cases phase with
  | entering | reopening | announcing =>
    have settled : Settled c := fits
    exact ⟨_, settled.toUnderway.course⟩
  | clearing =>
    have underway : Underway c .idle := fits
    exact ⟨_, underway.course⟩
  | fetching | stopping | lowering | preparing | launching | installing | raising =>
    exact ⟨_, fits.1.course⟩
  | _ => simp [TaskPhase.holdsLock] at inside

theorem InSession.course {t : Tasks W P} (inSession : InSession t) :
    ∃ station, Course t.client.history station := by
  cases holder : t.holder with
  | none => exact ⟨_, (inSession.outside holder).course⟩
  | some task =>
    obtain ⟨phase, found, inside⟩ := inSession.held task holder
    exact (inSession.inside task phase found inside).course inside

/-- However the steps of calls that start and stop a client alternate with each other and with calls
about documents, and whichever launches and stops fail, its connections come one at a time. -/
theorem one_connection_at_a_time (host : Host W P) (settings : ServerSettings) (root : String) (world : W)
    (earlier : List (ClientCall P)) (phases : List (TaskPhase P))
    (fresh : ∀ phase ∈ phases, phase.isFresh = true) (schedule : List Nat) :
    OneAtATime ((Tasks.begin ((Client.new settings root world).run host earlier) phases).run
      host schedule).client.history := by
  have settled := (Settled.new settings root world).run host earlier
  have inSession := (InSession.begin settled fresh).run host schedule
  obtain ⟨_, course⟩ := inSession.course
  exact course.oneAtATime

/-- A client that was restarted while a stop and another restart waited; its stop has now begun. -/
def crowd : Tasks Rehearsal.World Nat :=
  (Tasks.begin ((Client.new .default "/work" .new).run Rehearsal.host [.start])
    [.arriving .restart, .arriving .stop, .arriving .restart]).run Rehearsal.host
      (List.replicate 14 [0, 1, 2]).flatten

theorem one_connection_at_a_time_crowd :
    connections crowd.client.history = [(0, 1), (1, 2)] ∧ stopsBegun crowd.client.history = [(0, 1), (1, 2)] ∧
    tornDown crowd.client.history = [(0, 1)] ∧ OneAtATime crowd.client.history := by
  have apart := one_connection_at_a_time Rehearsal.host .default "/work" .new [.start]
    [.arriving .restart, .arriving .stop, .arriving .restart] (by simp [TaskPhase.isFresh])
      (List.replicate 14 [0, 1, 2]).flatten
  refine ⟨by decide +kernel, by decide +kernel, by decide +kernel, ?_⟩
  unfold crowd
  exact apart

end Tasks

end LanguageClient
