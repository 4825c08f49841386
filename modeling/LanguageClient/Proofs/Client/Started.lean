import LanguageClient.Client.Rehearsal
import LanguageClient.Proofs.Client.Course

/-! When a client is started. Between two calls, the client's mark, its connection and the last call
that started or stopped it say the same; what needs a started client fails without one and then
leaves everything as it is, and with one it never fails for that reason. -/
namespace LanguageClient

variable {W P : Type}

/-- No connection says of its own accord that the client is not started. -/
structure Host.OwnErrors (host : Host W P) : Prop where
  notify : ∀ peer notice w, (host.notify peer notice w).1 ≠ .error .notStarted
  request : ∀ peer method params w, (host.request peer method params w).1 ≠ .error .notStarted
  stop : ∀ peer w, (host.stop peer w).1 ≠ .error .notStarted

def lastLifecycle? (outcomes : List (ClientCall P × Except ClientError Unit)) :
    Option (ClientCall P × Except ClientError Unit) :=
  (outcomes.filter fun outcome => outcome.1.lifecycle?.isSome).getLast?

/-- The last of the calls that start or stop the client was a start or a restart that succeeded. -/
def StartedLast (outcomes : List (ClientCall P × Except ClientError Unit)) : Prop :=
  ∃ call, lastLifecycle? outcomes = some (call, .ok ()) ∧ call.lifecycle? = some .restart

private theorem lastLifecycle?_concat (outcomes : List (ClientCall P × Except ClientError Unit))
    (call : ClientCall P) (result : Except ClientError Unit) :
    lastLifecycle? (outcomes ++ [(call, result)]) =
      if call.lifecycle?.isSome then some (call, result) else lastLifecycle? outcomes := by
  unfold lastLifecycle?
  rw [List.filter_append]
  split
  · next turn => simp [turn]
  · next aside => simp [aside]

namespace Client

variable {c : Client W P}

private theorem launchNew_started (host : Host W P) (c : Client W P) (stopped : c.isStarted = false) :
    (c.launchNew host).2.isStarted = true ↔ (c.launchNew host).1 = .ok () := by
  have outcome := c.launchNew_outcome host
  generalize c.launchNew host = result at outcome ⊢
  cases outcome with
  | failed e w => simp [after, stopped]
  | started peer w =>
    have kept := ((c.launchedOn peer w).reopen_same host peer).trans (announce_same _ c.nextId)
    rw [kept.started]
    simp [launchedOn]

private theorem restart_started (host : Host W P) (connected : c.isStarted = c.active.isSome) :
    (c.restart host).2.isStarted = true ↔ (c.restart host).1 = .ok () := by
  have outcome := c.restart_outcome host connected
  generalize c.restart host = result at outcome ⊢
  cases outcome with
  | idle vacant =>
    apply c.launchNew_started host
    rw [connected, vacant]
    rfl
  | stopFailed id peer e w inUse => simp [stoppedOn]
  | replaced id peer w inUse => exact launchNew_started host _ rfl

private theorem stop_started (host : Host W P) (connected : c.isStarted = c.active.isSome) :
    (c.stop host).2.isStarted = false := by
  have outcome := c.stop_outcome host connected
  generalize c.stop host = result at outcome ⊢
  cases outcome with
  | idle vacant =>
    rw [connected, vacant]
    rfl
  | stopped id peer result w inUse => rfl

private theorem run_startedLast (settled : Settled c) (stopped : c.isStarted = false) (host : Host W P)
    (calls : List (ClientCall P)) :
    (c.run host calls).isStarted = true ↔ StartedLast (c.outcomes host calls) := by
  induction calls using List.reverseRecOn with
  | nil => simp [stopped, StartedLast, lastLifecycle?, outcomes]
  | append_singleton calls call ih =>
    have connected := (settled.run host calls).connected
    rw [run_append_singleton, outcomes_append_singleton, StartedLast, lastLifecycle?_concat]
    cases call with
    | start | restart =>
      have started := restart_started host connected
      simpa [perform, start, ClientCall.lifecycle?] using started
    | stop =>
      have lowered := stop_started host connected
      simpa [perform, ClientCall.lifecycle?] using lowered
    | _ =>
      rw [((c.run host calls).perform_same host _ rfl).started, ih]
      simp [ClientCall.lifecycle?, StartedLast]

private theorem perform_of_vacant (host : Host W P) (stopped : c.isStarted = false) (vacant : c.active = none)
    (call : ClientCall P) (needs : call.needsStart = true) :
    c.perform host call = (.error .notStarted, c) := by
  have unconnected : c.peer? = .error .notStarted := by rw [peer?, vacant]
  cases call with
  | stop => simp [perform, stop, stopped]
  | openDocument d => simp [perform, openDocument, syncDocument, unconnected, Except.map]
  | changeDocument d => simp [perform, changeDocument, syncDocument, unconnected, Except.map]
  | closeDocument uri => simp [perform, closeDocument, unconnected, Except.map]
  | refreshDependencies d => simp [perform, refreshDependencies, unconnected]
  | goalAt uri position => simp [perform, goalAt, unconnected, Except.map]
  | publishedDiagnostics uri => simp [perform, publishedDiagnostics, unconnected, Except.map]
  | _ => simp [ClientCall.needsStart] at needs

private theorem map_ne_notStarted {α : Type} {result : Except ClientError α} (f : α → Unit)
    (own : result ≠ .error .notStarted) : result.map f ≠ .error .notStarted := by
  cases result with
  | error e => simpa [Except.map] using own
  | ok value => simp [Except.map]

private theorem notify_own {host : Host W P} (own : host.OwnErrors) (c : Client W P) (peer : P)
    (notice : Notice) : (∃ c', notify host c peer notice = (.ok (), c')) ∨
      ∃ e c', e ≠ .notStarted ∧ notify host c peer notice = (.error e, c') := by
  have fails := own.notify peer notice c.world
  unfold notify
  generalize host.notify peer notice c.world = result at fails
  obtain ⟨e | _, w⟩ := result
  · exact .inr ⟨e, _, by simpa using fails, rfl⟩
  · exact .inl ⟨_, rfl⟩

private theorem syncOn_own {host : Host W P} (own : host.OwnErrors) (c : Client W P) (peer : P)
    (d : TextDocument) : (c.syncOn host peer d).1 ≠ .error .notStarted := by
  unfold syncOn
  cases c.documents.get? d.uri with
  | none =>
    dsimp only
    rcases notify_own own c peer (.opened (OpenDocument.toDocument d.uri ⟨d.languageId, 1, d.text⟩)) with
      ⟨c', sent⟩ | ⟨e, c', other, sent⟩ <;> rw [sent]
    · simp
    · simpa using other
  | some known =>
    dsimp only
    split
    · simp
    · rcases notify_own own c peer (.changed d.uri (known.version + 1) d.text) with
        ⟨c', sent⟩ | ⟨e, c', other, sent⟩ <;> rw [sent]
      · simp
      · simpa using other

private theorem refreshOn_own {host : Host W P} (own : host.OwnErrors) (c : Client W P) (peer : P)
    (d : TextDocument) : (c.refreshOn host peer d).1 ≠ .error .notStarted := by
  unfold refreshOn
  dsimp only
  rcases notify_own own c peer (.closed d.uri) with ⟨c', sent⟩ | ⟨e, c', other, sent⟩ <;> rw [sent]
  · dsimp only
    rcases notify_own own c' peer (.opened (OpenDocument.toDocument d.uri ⟨leanLanguage, 1, d.text⟩)) with
      ⟨c'', sent'⟩ | ⟨e, c'', other, sent'⟩ <;> rw [sent']
    · simp
    · simpa using other
  · simpa using other

private theorem dismissOn_own {host : Host W P} (own : host.OwnErrors) (c : Client W P) (peer : P)
    (uri : String) : (c.dismissOn host peer uri).1 ≠ .error .notStarted := by
  unfold dismissOn
  rcases notify_own own c peer (.closed uri) with ⟨c', sent⟩ | ⟨e, c', other, sent⟩ <;> rw [sent]
  · simp
  · simpa using other

private theorem stopActive_own {host : Host W P} (own : host.OwnErrors) {id : Nat} {peer : P}
    (inUse : c.active = some (id, peer)) : (c.stopActive host).1 ≠ .error .notStarted := by
  unfold stopActive
  rw [inUse]
  exact own.stop peer c.world

private theorem goalAt_own {host : Host W P} (own : host.OwnErrors) {peer : P} (connected : c.peer? = .ok peer)
    (uri : String) (position : Position) : (c.goalAt host uri position).1 ≠ .error .notStarted := by
  unfold goalAt
  rw [connected]
  dsimp only
  have fails := own.request peer goalMethod (DocumentPosition.mk ⟨uri⟩ position).toJson c.world
  change ((host.request peer goalMethod (DocumentPosition.mk ⟨uri⟩ position).toJson c.world).1.bind
    readGoal) ≠ _
  generalize (host.request peer goalMethod (DocumentPosition.mk ⟨uri⟩ position).toJson c.world).1 =
    result at fails
  cases result with
  | error e => simpa [Except.bind] using fails
  | ok answer =>
    change readGoal answer ≠ _
    unfold readGoal
    cases Json.Decoder.nullable PlainGoal.decode answer <;> simp [Except.mapError]

private theorem perform_of_connected {host : Host W P} (own : host.OwnErrors) (started : c.isStarted = true)
    {id : Nat} {peer : P} (inUse : c.active = some (id, peer)) (call : ClientCall P)
    (needs : call.needsStart = true) : (c.perform host call).1 ≠ .error .notStarted := by
  have connected := peer?_of_active inUse
  have synced : ∀ d, (c.syncDocument host d).1 ≠ .error .notStarted := by
    intro d
    unfold syncDocument
    rw [connected]
    dsimp only
    split
    · exact c.syncOn_own own peer d
    · simp
  cases call with
  | stop =>
    change (c.stop host).1 ≠ _
    rw [stop, if_pos started]
    exact stopActive_own own inUse
  | openDocument d => exact map_ne_notStarted _ (synced d)
  | changeDocument d => exact map_ne_notStarted _ (synced d)
  | closeDocument uri =>
    apply map_ne_notStarted
    unfold closeDocument
    rw [connected]
    dsimp only
    generalize c.forget uri = result
    obtain ⟨_ | _, c'⟩ := result
    · simp
    · exact c'.dismissOn_own own peer uri
  | refreshDependencies d =>
    change (c.refreshDependencies host d).1 ≠ _
    rw [refreshDependencies, connected]
    exact refreshOn_own own _ peer d
  | goalAt uri position => exact map_ne_notStarted _ (goalAt_own own connected uri position)
  | publishedDiagnostics uri =>
    apply map_ne_notStarted
    rw [publishedDiagnostics, connected]
    simp [Except.map]
  | _ => simp [ClientCall.needsStart] at needs

/-- Whatever was called, a client is started when it has a connection in use, and this when the last
call that started or stopped it was a start or a restart that succeeded; a stop of a started client
finds the connection to stop. Without a start, the calls that need one fail and leave the whole
client as it is; after one, none of them fails for want of it. -/
theorem started_between_calls (host : Host W P) (own : host.OwnErrors) (settings : ServerSettings)
    (root : String) (world : W) (calls : List (ClientCall P)) (c : Client W P)
    (reached : c = (Client.new settings root world).run host calls) :
    (c.isStarted = true ↔ c.connectionId.isSome = true) ∧
    (c.isStarted = true ↔ StartedLast ((Client.new settings root world).outcomes host calls)) ∧
    (c.isStarted = true → ∃ id peer result w, c.active = some (id, peer) ∧
      c.stopActive host = (result, c.stoppedOn id peer result w)) ∧
    (c.isStarted = false → ∀ call : ClientCall P, call.needsStart = true →
      c.perform host call = (.error .notStarted, c)) ∧
    (c.isStarted = true → ∀ call : ClientCall P, call.needsStart = true →
      (c.perform host call).1 ≠ .error .notStarted) := by
  have fresh := Settled.new (P := P) settings root world
  have settled := fresh.run host calls
  have last := run_startedLast fresh rfl host calls
  rw [← reached] at settled last
  have inUse (started : c.isStarted = true) : ∃ id peer, c.active = some (id, peer) := by
    rw [settled.connected] at started
    obtain ⟨⟨id, peer⟩, present⟩ := Option.isSome_iff_exists.1 started
    exact ⟨id, peer, present⟩
  refine ⟨?_, last, fun started => ?_, fun stopped call needs => ?_, fun started call needs => ?_⟩
  · rw [settled.connected, connectionId, Option.isSome_map]
  · obtain ⟨id, peer, present⟩ := inUse started
    obtain ⟨result, w, outcome⟩ := c.stopActive_eq host present
    exact ⟨id, peer, result, w, present, outcome⟩
  · have vacant := settled.active_none stopped
    exact perform_of_vacant host stopped vacant call needs
  · obtain ⟨id, peer, present⟩ := inUse started
    exact perform_of_connected own started present call needs

def answeringHost : Host Rehearsal.World Nat :=
  { Rehearsal.host with request := fun _ _ _ w => (.ok w.policy.reply, w) }

private theorem answeringHost_own : answeringHost.OwnErrors where
  notify peer notice w := by
    change (if _ then _ else _ : Except ClientError Unit × Rehearsal.World).1 ≠ _
    split <;> simp
  request peer method params w := by simp [answeringHost]
  stop peer w := by
    change (if _ then _ else _ : Except ClientError Unit) ≠ _
    split <;> simp

def shelved : Client Rehearsal.World Nat :=
  (Client.new .default "/work" .new).run answeringHost
    [.start, .openDocument ⟨"file:///a.lean", "lean4", 1, "a"⟩, .restart, .stop]

theorem started_between_calls_shelved :
    shelved.documents = [("file:///a.lean", ⟨"lean4", 1, "a"⟩)] ∧
    shelved.connectionId.isSome = false ∧
    shelved.perform answeringHost (.closeDocument "file:///a.lean") = (.error .notStarted, shelved) := by
  obtain ⟨connected, _, _, refuses, _⟩ := started_between_calls answeringHost answeringHost_own .default
    "/work" .new _ shelved rfl
  have stopped : shelved.isStarted = false := by decide
  refine ⟨by decide, ?_, refuses stopped _ rfl⟩
  rw [stopped] at connected
  simpa using connected

end Client

end LanguageClient
