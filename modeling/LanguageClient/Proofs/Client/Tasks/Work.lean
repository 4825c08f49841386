import LanguageClient.Proofs.Client.Tasks.Lock
import LanguageClient.Proofs.Table

/-! What a step of a call about documents comes to. Such a call looks for the connection once and then
works on the table with it; by the time of its last step the connection may be another. -/
namespace LanguageClient

variable {W P : Type}

def TaskPhase.peer? : TaskPhase P → Option P
  | .installing _ peer | .syncing peer _ | .refreshing peer _ | .forgetting peer _ | .dismissing peer _ => some peer
  | _ => none

namespace Tasks

inductive Works (host : Host W P) (c : Client W P) : TaskPhase P → TaskPhase P → Client W P → Prop
  | notStarted (phase : TaskPhase P) (fresh : phase.isFresh = true) (vacant : c.active = none) :
      Works host c phase (.finished (.error .notStarted)) c
  | notOurs (d : TextDocument) : Works host c (.seeking d) (.finished (.ok false)) c
  | found (d : TextDocument) (id : Nat) (peer : P) (inUse : c.active = some (id, peer)) :
      Works host c (.seeking d) (.syncing peer d) c
  | synced (peer : P) (d : TextDocument) :
      Works host c (.syncing peer d) (.finished (c.syncOn host peer d).1) (c.syncOn host peer d).2
  | foundRefresh (d : TextDocument) (id : Nat) (peer : P) (inUse : c.active = some (id, peer)) :
      Works host c (.seekingRefresh d) (.refreshing peer d) (c.note (.refreshing d.uri))
  | refreshed (peer : P) (d : TextDocument) : Works host c (.refreshing peer d)
      (.finished ((c.refreshOn host peer d).1.map fun _ => true)) (c.refreshOn host peer d).2
  | foundClose (uri : String) (id : Nat) (peer : P) (inUse : c.active = some (id, peer)) :
      Works host c (.seekingClose uri) (.forgetting peer uri) c
  | absent (peer : P) (uri : String) (isClosed : c.documents.get? uri = none) :
      Works host c (.forgetting peer uri) (.finished (.ok false)) c
  | forgotten (peer : P) (uri : String) (known : OpenDocument) (isOpen : c.documents.get? uri = some known) :
      Works host c (.forgetting peer uri) (.dismissing peer uri)
        { c with documents := c.documents.erase uri }
  | dismissed (peer : P) (uri : String) : Works host c (.dismissing peer uri)
      (.finished (c.dismissOn host peer uri).1) (c.dismissOn host peer uri).2

private theorem peer?_cases (c : Client W P) : (c.active = none ∧ c.peer? = .error .notStarted) ∨
    ∃ id peer, c.active = some (id, peer) ∧ c.peer? = .ok peer := by
  unfold Client.peer?
  cases c.active with
  | none => exact .inl ⟨rfl, rfl⟩
  | some connection => exact .inr ⟨_, _, rfl, rfl⟩

theorem step?_works {host : Host W P} {t t' : Tasks W P} {task : Nat} {phase : TaskPhase P}
    (found : t.phases[task]? = some phase) (aside : phase.isAside = true)
    (step : t.step? host task = some t') :
    ∃ next client, t' = t.go task client next ∧ Works host t.client phase next client := by
  unfold step? at step
  rw [found, Option.bind_eq_bind, Option.bind_some] at step
  have lookup := peer?_cases t.client
  cases phase with
  | seeking d =>
    dsimp only at step
    rcases lookup with ⟨vacant, missing⟩ | ⟨id, peer, inUse, connected⟩
    · rw [missing] at step
      cases step
      exact ⟨_, _, rfl, .notStarted _ rfl vacant⟩
    · rw [connected] at step
      dsimp only at step
      split at step <;> cases step
      · exact ⟨_, _, rfl, .found d id peer inUse⟩
      · exact ⟨_, _, rfl, .notOurs d⟩
  | syncing peer d =>
    cases step
    exact ⟨_, _, rfl, .synced peer d⟩
  | seekingRefresh d =>
    dsimp only at step
    rcases lookup with ⟨vacant, missing⟩ | ⟨id, peer, inUse, connected⟩
    · rw [missing] at step
      cases step
      exact ⟨_, _, rfl, .notStarted _ rfl vacant⟩
    · rw [connected] at step
      cases step
      exact ⟨_, _, rfl, .foundRefresh d id peer inUse⟩
  | refreshing peer d =>
    cases step
    exact ⟨_, _, rfl, .refreshed peer d⟩
  | seekingClose uri =>
    dsimp only at step
    rcases lookup with ⟨vacant, missing⟩ | ⟨id, peer, inUse, connected⟩
    · rw [missing] at step
      cases step
      exact ⟨_, _, rfl, .notStarted _ rfl vacant⟩
    · rw [connected] at step
      cases step
      exact ⟨_, _, rfl, .foundClose uri id peer inUse⟩
  | forgetting peer uri =>
    dsimp only [Client.forget] at step
    cases known : t.client.documents.get? uri with
    | none =>
      rw [if_neg (by simp [Table.contains, known])] at step
      cases step
      exact ⟨_, _, rfl, .absent peer uri known⟩
    | some document =>
      rw [if_pos (by simp [Table.contains, known])] at step
      cases step
      exact ⟨_, _, rfl, .forgotten peer uri document known⟩
  | dismissing peer uri =>
    cases step
    exact ⟨_, _, rfl, .dismissed peer uri⟩
  | finished result => contradiction
  | _ => simp [TaskPhase.isAside] at aside

theorem Works.same {host : Host W P} {c c' : Client W P} {phase next : TaskPhase P}
    (works : Works host c phase next c') : Client.SameConnection c c' := by
  cases works with
  | notStarted | notOurs | found | foundClose | absent => exact .refl c
  | synced peer d => exact c.syncOn_same host peer d
  | foundRefresh => exact ⟨rfl, rfl, rfl, _, rfl, by simp [Happening.isMilestone]⟩
  | refreshed peer d => exact c.refreshOn_same host peer d
  | forgotten => exact ⟨rfl, rfl, rfl, [], by simp⟩
  | dismissed peer uri => exact c.dismissOn_same host peer uri

theorem Works.peer? {host : Host W P} {c c' : Client W P} {phase next : TaskPhase P}
    (works : Works host c phase next c') {other : P} (names : next.peer? = some other) :
    phase.peer? = some other ∨ ∃ id, c.active = some (id, other) := by
  cases works with
  | notStarted | notOurs | synced | refreshed | absent | dismissed => simp [TaskPhase.peer?] at names
  | found _ id _ inUse | foundRefresh _ id _ inUse | foundClose _ id _ inUse =>
    cases names
    exact .inr ⟨id, inUse⟩
  | forgotten => exact .inl names

theorem Works.aside {host : Host W P} {c c' : Client W P} {phase next : TaskPhase P}
    (works : Works host c phase next c') : next.isAside = true := by
  cases works <;> rfl

theorem Works.sorted {host : Host W P} {c c' : Client W P} {phase next : TaskPhase P}
    (works : Works host c phase next c') (sorted : c.documents.Sorted) : c'.documents.Sorted := by
  cases works with
  | notStarted | notOurs | found | foundRefresh | foundClose | absent => exact sorted
  | forgotten => exact sorted.erase _
  | synced other d =>
    have outcome := c.syncOn_outcome host other d
    generalize c.syncOn host other d = result at outcome ⊢
    cases outcome with
    | unchanged | refused => exact sorted
    | opened | changed => exact sorted.insert _ _
  | refreshed other d =>
    have outcome := c.refreshOn_outcome host other d
    generalize c.refreshOn host other d = result at outcome ⊢
    cases outcome with
    | closeRefused | openRefused => exact sorted
    | done => exact sorted.insert _ _
  | dismissed other closed =>
    unfold Client.dismissOn
    rcases c.notify_cases host other (.closed closed) with ⟨w, sent⟩ | ⟨e, w, sent⟩ <;> rw [sent] <;>
      exact sorted

inductive Advances (host : Host W P) (c : Client W P) : TaskPhase P → TaskPhase P → Client W P → Prop
  | entered (call : LifecycleCall) : Advances host c (.arriving call) (.entering call) c
  | queued (call : LifecycleCall) : Advances host c (.arriving call) (.queued call) c
  | granted (call : LifecycleCall) : Advances host c (.queued call) (.entering call) c
  | moved (phase next : TaskPhase P) (c' : Client W P) (moves : Moves host c phase next c') :
      Advances host c phase next c'
  | ended (phase : TaskPhase P) (result : Except ClientError Unit) (c' : Client W P)
      (ends : Ends host c phase result c') :
      Advances host c phase (.finished (result.map fun _ => true)) c'
  | worked (phase next : TaskPhase P) (c' : Client W P) (works : Works host c phase next c') :
      Advances host c phase next c'

theorem step?_advances {host : Host W P} {t t' : Tasks W P} {task : Nat}
    (step : t.step? host task = some t') : ∃ phase next, t.phases[task]? = some phase ∧
      t'.phases = t.phases.set task next ∧ Advances host t.client phase next t'.client := by
  cases step?_change step with
  | entered call found => exact ⟨_, _, found, rfl, .entered call⟩
  | queued call found => exact ⟨_, _, found, rfl, .queued call⟩
  | granted call found => exact ⟨_, _, found, rfl, .granted call⟩
  | moved phase next client found moves => exact ⟨_, _, found, rfl, .moved _ _ _ moves⟩
  | ended phase result client found ends => exact ⟨_, _, found, rfl, .ended _ _ _ ends⟩
  | aside phase next client found before =>
    obtain ⟨next', client', whole, works⟩ := step?_works found before step
    rw [whole]
    exact ⟨_, _, found, rfl, .worked _ _ _ works⟩

theorem launchPeer_ok {host : Host W P} {c c' : Client W P} {id : Nat} {peer : P}
    (launch : c.launchPeer host = (.ok (id, peer), c')) : ∃ w,
      c' = { c.after w [.launched peer c.serverOptions c.clientOptions] with nextId := c.nextId + 1 } := by
  rcases c.launchPeer_cases host with ⟨e, w, failed⟩ | ⟨other, w, done⟩
  · simp [failed] at launch
  · cases done.symm.trans launch
    exact ⟨w, rfl⟩

theorem launchPeer_error {host : Host W P} {c c' : Client W P} {e : ClientError}
    (launch : c.launchPeer host = (.error e, c')) : ∃ w, c' = c.after w [.launchFailed e] := by
  rcases c.launchPeer_cases host with ⟨e', w, failed⟩ | ⟨other, w, done⟩
  · cases failed.symm.trans launch
    exact ⟨w, rfl⟩
  · simp [done] at launch

theorem Advances.grows {host : Host W P} {c c' : Client W P} {phase next : TaskPhase P}
    (advances : Advances host c phase next c') : c.history <+: c'.history := by
  have same (kept : Client.SameConnection c c') : c.history <+: c'.history := by
    obtain ⟨more, grown, _⟩ := kept.history
    exact ⟨more, grown.symm⟩
  cases advances with
  | entered | queued | granted => exact List.prefix_refl _
  | worked phase next c' works => exact same works.same
  | moved phase next c' moves =>
    cases moves with
    | started | notStarted | missing | cleared | lowered | installed | raised => exact List.prefix_refl _
    | fetched | prepared | stopped => exact List.prefix_append _ _
    | launched id peer c' launch =>
      obtain ⟨w, rfl⟩ := launchPeer_ok launch
      exact List.prefix_append _ _
    | reopened id peer => exact same (c.reopen_same host peer)
  | ended phase result c' ends =>
    cases ends with
    | notStarted | stopped | stopFailed => exact List.prefix_refl _
    | launchFailed e c' launch =>
      obtain ⟨w, rfl⟩ := launchPeer_error launch
      exact List.prefix_append _ _
    | announced id => exact same (c.announce_same id)

theorem run_grows (host : Host W P) (t : Tasks W P) (schedule : List Nat) :
    t.client.history <+: (t.run host schedule).client.history := by
  induction schedule generalizing t with
  | nil => exact List.prefix_refl _
  | cons task rest ih =>
    change t.client.history <+: (((t.step? host task).getD t).run host rest).client.history
    cases step : t.step? host task with
    | none => exact ih t
    | some t' =>
      obtain ⟨_, _, _, _, advances⟩ := step?_advances step
      exact advances.grows.trans (ih t')

private theorem Advances.inUse {host : Host W P} {c c' : Client W P} {phase next : TaskPhase P}
    (advances : Advances host c phase next c') {id : Nat} {peer : P} (inUse : c'.active = some (id, peer)) :
    c.active = some (id, peer) ∨ phase = .installing id peer := by
  cases advances with
  | entered | queued | granted => exact .inl inUse
  | moved phase next c' moves =>
    cases moves with
    | started | notStarted | missing | fetched | stopped | lowered | prepared | raised => exact .inl inUse
    | cleared => simp [Client.clearActive] at inUse
    | launched id' peer' c' launch =>
      obtain ⟨w, rfl⟩ := launchPeer_ok launch
      exact .inl inUse
    | installed =>
      cases inUse
      exact .inr rfl
    | reopened id' peer' => exact .inl ((c.reopen_same host peer').active.symm.trans inUse)
  | ended phase result c' ends =>
    cases ends with
    | notStarted | stopped | stopFailed => exact .inl inUse
    | launchFailed e c' launch =>
      obtain ⟨w, rfl⟩ := launchPeer_error launch
      exact .inl inUse
    | announced id' => exact .inl ((c.announce_same id').active.symm.trans inUse)
  | worked phase next c' works =>
    have same := works.same
    exact .inl (same.active.symm.trans inUse)

private theorem Advances.peer? {host : Host W P} {c c' : Client W P} {phase next : TaskPhase P}
    (advances : Advances host c phase next c') {peer : P} (names : next.peer? = some peer) :
    phase.peer? = some peer ∨ (∃ id, c.active = some (id, peer)) ∨
      peer ∈ c'.history.filterMap Happening.launched? := by
  cases advances with
  | entered | queued | granted => simp [TaskPhase.peer?] at names
  | moved phase next c' moves =>
    cases moves with
    | launched id peer' c' launch =>
      obtain ⟨w, rfl⟩ := launchPeer_ok launch
      cases names
      simp [Client.after, Happening.launched?]
    | _ => simp [TaskPhase.peer?] at names
  | ended => simp [TaskPhase.peer?] at names
  | worked phase next c' works => exact (works.peer? names).imp id .inl

structure Named (t : Tasks W P) : Prop where
  inUse : ∀ id peer, t.client.active = some (id, peer) →
    peer ∈ t.client.history.filterMap Happening.launched?
  working : ∀ phase ∈ t.phases, ∀ peer, phase.peer? = some peer →
    peer ∈ t.client.history.filterMap Happening.launched?

theorem Named.step {host : Host W P} {t t' : Tasks W P} {task : Nat} (named : Named t)
    (step : t.step? host task = some t') : Named t' := by
  obtain ⟨phase, next, found, phases, advances⟩ := step?_advances step
  have grows := (advances.grows.filterMap Happening.launched?).subset
  have working := named.working phase (List.mem_of_getElem? found)
  constructor
  · intro id peer inUse
    apply grows
    rcases advances.inUse inUse with before | rfl
    · exact named.inUse id peer before
    · exact working peer rfl
  · intro other inside peer names
    rw [phases] at inside
    rcases List.mem_or_eq_of_mem_set inside with before | rfl
    · exact grows (named.working other before peer names)
    · rcases advances.peer? names with before | ⟨id, inUse⟩ | launched
      · exact grows (working peer before)
      · exact grows (named.inUse id peer inUse)
      · exact launched

end Tasks

end LanguageClient
