import Mathlib.Data.List.Induction
import LanguageClient.Proofs.Connection.Change
import LanguageClient.Proofs.Table

/-! What a connection has on file. Diagnostics are stored only as the middleware hands them on: whatever
else goes on in a connection, it has on file for a document what the middleware has handed on last of all
the publications that it was given. -/
namespace LanguageClient

/-- The last diagnostics for a document among the events. -/
def lastFiled (uri : String) (events : List DiagnosticEvent) : Option (List Diagnostic) :=
  (events.filter fun event => event.uri = uri).getLast?.map DiagnosticEvent.diagnostics

private theorem lastFiled_concat (uri : String) (events : List DiagnosticEvent) (event : DiagnosticEvent) :
    lastFiled uri (events ++ [event]) =
      if event.uri = uri then some event.diagnostics else lastFiled uri events := by
  by_cases own : event.uri = uri <;> simp [lastFiled, own]

namespace Notification

/-- The event of a publication that can be decoded. -/
def publication? (n : Notification) : Option DiagnosticEvent :=
  if n.method = "textDocument/publishDiagnostics" then
    (Publication.decode (n.params.getD .null)).toOption.map Publication.event
  else none

theorem publication?_of_decoded {n : Notification} (publishes : n.method = "textDocument/publishDiagnostics")
    {publication : Publication} (read : Publication.decode (n.params.getD .null) = .ok publication) :
    n.publication? = some publication.event := by
  rw [publication?, if_pos publishes, read]
  rfl

theorem publication?_eq_some_iff {n : Notification} {event : DiagnosticEvent} : n.publication? = some event ↔
    n.method = "textDocument/publishDiagnostics" ∧
      ∃ publication, Publication.decode (n.params.getD .null) = .ok publication ∧ publication.event = event := by
  unfold publication?
  split
  · next publishes =>
    cases Publication.decode (n.params.getD .null) <;> simp [Except.toOption, publishes]
  · next other => simp [other]

end Notification

namespace Connection

structure SameFiles (c c' : Connection) : Prop where
  options : c'.options = c.options
  diagnostics : c'.diagnostics = c.diagnostics
  intercepted : c'.intercepted = c.intercepted

namespace SameFiles

variable {c c' c'' : Connection}

theorem refl (c : Connection) : SameFiles c c := ⟨rfl, rfl, rfl⟩

theorem trans (first : SameFiles c c') (second : SameFiles c' c'') : SameFiles c c'' where
  options := second.options.trans first.options
  diagnostics := second.diagnostics.trans first.diagnostics
  intercepted := second.intercepted.trans first.intercepted

private theorem foldl {α : Type} (f : Connection → α → Connection) (same : ∀ c a, SameFiles c (f c a))
    (items : List α) (c : Connection) : SameFiles c (items.foldl f c) := by
  induction items generalizing c with
  | nil => exact .refl c
  | cons a rest ih => exact (same c a).trans (ih (f c a))

private theorem phased (first : SameFiles c c') (call : Nat) (phase : CallPhase) :
    SameFiles c (c'.setPhase call phase) := first.trans ⟨rfl, rfl, rfl⟩

private theorem noted (first : SameFiles c c') (level : Level) (text : String) : SameFiles c (c'.note level text) :=
  first.trans ⟨rfl, rfl, rfl⟩

private theorem enqueued {entry : Outbound} (taken : c.enqueue? entry = some c') : SameFiles c c' := by
  unfold enqueue? at taken
  split at taken
  · contradiction
  · cases taken
    exact ⟨rfl, rfl, rfl⟩

theorem tried (c : Connection) (entry : Outbound) : SameFiles c ((c.enqueue? entry).getD c) := by
  cases taken : c.enqueue? entry with
  | none => exact .refl c
  | some c' => exact .enqueued taken

theorem cancelled (c : Connection) (code : Int32) (reason : String) :
    SameFiles c (c.cancelPending code reason) := by
  obtain ⟨log, drained⟩ := c.cancelPending_eq code reason
  rw [drained]
  exact ⟨rfl, rfl, rfl⟩

private theorem requested (c : Connection) (call : Nat) (purpose : Purpose) (result : Except ClientError Json) :
    SameFiles c (c.afterRequest call purpose result) := by
  have same := SameFiles.refl c
  unfold afterRequest
  cases purpose with
  | request | notify => exact same.phased _ _
  | shutdown => cases result <;> exact same.phased _ _
  | handshake processId rootUri =>
    cases result with
    | error e => exact same.phased _ _
    | ok value =>
      dsimp only
      split
      · exact same.phased _ _
      · next welcome _ =>
        cases welcome.server with
        | none => exact ⟨rfl, rfl, rfl⟩
        | some server => exact ⟨rfl, rfl, rfl⟩

private theorem answered (c : Connection) (call : Nat) (purpose : Purpose) (result : Except ClientError Json) :
    SameFiles c (c.afterNotice call purpose result) := by
  cases purpose <;> exact (SameFiles.refl c).phased _ _

private theorem calls {call : Nat} (step : c.stepCall? call = some c') : SameFiles c c' := by
  have same := SameFiles.refl c
  unfold stepCall? at step
  obtain ⟨k, _, step⟩ := Option.bind_eq_some_iff.1 step
  cases phase : k.phase with
  | announcing | numbering | registering =>
    rw [phase] at step
    cases step
    exact ⟨rfl, rfl, rfl⟩
  | deciding | probing =>
    rw [phase] at step
    dsimp only at step
    split at step <;> cases step <;> exact ⟨rfl, rfl, rfl⟩
  | checking =>
    rw [phase] at step
    dsimp only at step
    split at step <;> cases step
    · exact .requested c call _ _
    · exact same.phased _ _
  | sending number =>
    rw [phase] at step
    dsimp only at step
    split at step
    · next taken =>
      cases step
      exact (SameFiles.enqueued taken).phased _ _
    · cases step
      exact same.phased _ _
  | withdrawing number =>
    rw [phase] at step
    cases step
    have withdrawn : SameFiles c { c with pending := c.pending.filter fun entry => entry.1 ≠ number } :=
      ⟨rfl, rfl, rfl⟩
    exact withdrawn.trans (.requested _ call _ _)
  | waiting number =>
    rw [phase] at step
    dsimp only at step
    split at step
    · cases step
      exact .requested c call _ _
    · contradiction
  | noticeProbing method params =>
    rw [phase] at step
    dsimp only at step
    split at step <;> cases step
    · exact .answered c call _ _
    · exact same.phased _ _
  | noticeSending method params =>
    rw [phase] at step
    dsimp only at step
    split at step
    · next taken =>
      cases step
      exact (SameFiles.enqueued taken).trans (.answered _ call _ _)
    · cases step
      exact .answered c call _ _
  | closing failure =>
    rw [phase] at step
    dsimp only at step
    split at step <;> cases step <;> exact ⟨rfl, rfl, rfl⟩
  | marking failure =>
    rw [phase] at step
    cases step
    exact (SameFiles.tried c _).phased _ _
  | reaping failure =>
    rw [phase] at step
    dsimp only at step
    split at step
    · cases step
      exact same.phased _ _
    · cases step
      exact ⟨rfl, rfl, rfl⟩
    · contradiction
  | cancelling failure =>
    rw [phase] at step
    cases step
    exact ((SameFiles.cancelled c _ _).noted _ _).phased _ _
  | finished result =>
    rw [phase] at step
    contradiction

private theorem timers {call : Nat} (step : c.stepTimer? call = some c') : SameFiles c c' := by
  unfold stepTimer? at step
  obtain ⟨k, _, step⟩ := Option.bind_eq_some_iff.1 step
  split at step
  · contradiction
  · split at step
    · cases step
      exact ⟨rfl, rfl, rfl⟩
    · cases step
      exact ⟨rfl, rfl, rfl⟩
    · split at step
      · contradiction
      · cases step
        exact ⟨rfl, rfl, rfl⟩
    · split at step
      · cases step
        exact ⟨rfl, rfl, rfl⟩
      · contradiction
    · contradiction

private theorem writes (step : c.stepWriter? = some c') : SameFiles c c' := by
  unfold stepWriter? at step
  split at step
  · split at step
    · contradiction
    · cases step
      exact ⟨rfl, rfl, rfl⟩
    · split at step <;> cases step <;> exact ⟨rfl, rfl, rfl⟩
  · cases step
    exact ⟨rfl, rfl, rfl⟩
  · contradiction

end SameFiles

inductive Filing (c c' : Connection) : Prop
  | same (same : SameFiles c c')
  | published (d : Connection) (event : DiagnosticEvent) (same : SameFiles c d) (whole : c' = d.publish event)

private theorem Filing.after {c c' d : Connection} (filing : Filing d c') (same : SameFiles c d) : Filing c c' := by
  cases filing with
  | same later => exact .same (same.trans later)
  | published d event later whole => exact .published d event (same.trans later) whole

/-- What is no publication that can be decoded files nothing. -/
theorem handleNotification_unfiled (c : Connection) {n : Notification} (nothing : n.publication? = none) :
    SameFiles c (c.handleNotification n) := by
  have same := SameFiles.refl c
  unfold handleNotification
  dsimp only
  split
  · next publishes =>
    have met := SameFiles.foldl (fun c s => c.note .debug (severityNote s))
      (fun c s => (SameFiles.refl c).noted _ _) (metSeverities (n.params.getD .null)) c
    split
    · next read =>
      rw [Notification.publication?_of_decoded publishes read] at nothing
      contradiction
    · exact met.noted _ _
  · split
    · split
      · exact same.noted _ _
      · exact same
    · exact same

theorem handleNotification_published (c : Connection) {n : Notification} {event : DiagnosticEvent}
    (published : n.publication? = some event) :
    ∃ d, SameFiles c d ∧ c.handleNotification n = d.publish event := by
  obtain ⟨publishes, publication, read, rfl⟩ := Notification.publication?_eq_some_iff.1 published
  have met := SameFiles.foldl (fun c s => c.note .debug (severityNote s))
    (fun c s => (SameFiles.refl c).noted _ _) (metSeverities (n.params.getD .null)) c
  refine ⟨_, met, ?_⟩
  rw [handleNotification, if_pos publishes, read]

theorem handleMessage_unfiled (c : Connection) {message : Message} (other : ∀ n, message ≠ .notification n) :
    SameFiles c (c.handleMessage message) := by
  have same := SameFiles.refl c
  cases message with
  | response r =>
    unfold handleMessage handleResponse
    dsimp only
    split
    · exact same.noted _ _
    · split
      · exact ⟨rfl, rfl, rfl⟩
      · exact same.noted _ _
  | request q =>
    unfold handleMessage
    dsimp only
    split <;> exact ⟨rfl, rfl, rfl⟩
  | notification n => exact absurd rfl (other n)

private theorem handleMessage_filing (c : Connection) (message : Message) : Filing c (c.handleMessage message) := by
  cases message with
  | response | request => exact .same (handleMessage_unfiled c nofun)
  | notification n =>
    cases published : n.publication? with
    | none => exact .same (handleNotification_unfiled c published)
    | some event =>
      obtain ⟨d, same, whole⟩ := handleNotification_published c published
      exact .published d event same whole

theorem stepReader?_of_next {c : Connection} {message : Message} {rest : Frame.Bytes} (reading : c.reader = .reading)
    (next : Frame.nextMessage c.inboxEnded c.inbox = .done (.ok message) rest) :
    c.stepReader? = some ({ c with inbox := rest }.handleMessage message) := by
  unfold stepReader?
  rw [reading]
  dsimp only
  rw [next]

/-- A reader that takes in no message files nothing. -/
theorem stepReader?_unfiled {c c' : Connection} (step : c.stepReader? = some c')
    (nothing : ∀ message rest, c.reader = .reading →
      Frame.nextMessage c.inboxEnded c.inbox ≠ .done (.ok message) rest) : SameFiles c c' := by
  unfold stepReader? at step
  split at step
  · next reading =>
    split at step
    · contradiction
    · next message rest next => exact absurd next (nothing message rest reading)
    all_goals
      cases step
      exact ⟨rfl, rfl, rfl⟩
  · split at step <;> cases step <;> exact ⟨rfl, rfl, rfl⟩
  · split at step
    · next taken =>
      cases step
      exact (SameFiles.enqueued taken).trans ⟨rfl, rfl, rfl⟩
    · cases step
      exact ⟨rfl, rfl, rfl⟩
  · cases step
    split <;> exact ⟨rfl, rfl, rfl⟩
  · cases step
    exact ⟨rfl, rfl, rfl⟩
  · split at step <;> cases step <;> exact ⟨rfl, rfl, rfl⟩
  · cases step
    exact (SameFiles.tried c _).trans ⟨rfl, rfl, rfl⟩
  · cases step
    exact (SameFiles.cancelled c _ _).trans ⟨rfl, rfl, rfl⟩
  · contradiction
  · contradiction

private theorem stepReader?_filing {c c' : Connection} (step : c.stepReader? = some c') : Filing c c' := by
  by_cases took : ∃ message rest, c.reader = .reading ∧
      Frame.nextMessage c.inboxEnded c.inbox = .done (.ok message) rest
  · obtain ⟨message, rest, reading, next⟩ := took
    cases (stepReader?_of_next reading next).symm.trans step
    exact (handleMessage_filing { c with inbox := rest } message).after ⟨rfl, rfl, rfl⟩
  · exact .same (stepReader?_unfiled step fun message rest reading next => took ⟨message, rest, reading, next⟩)

theorem move_files {c : Connection} {m : Move} (other : m ≠ .turn .reader) : SameFiles c (c.move m) := by
  cases m with
  | turn party =>
    change SameFiles c ((c.step? party).getD c)
    cases step : c.step? party with
    | none => exact .refl c
    | some c' =>
      cases party with
      | reader => contradiction
      | writer => exact .writes step
      | call number => exact .calls step
      | timer number => exact .timers step
  | receive bytes =>
    change SameFiles c (c.receive bytes)
    unfold receive
    split <;> exact ⟨rfl, rfl, rfl⟩
  | begun | endInbox | dropPeer | advance | process => exact ⟨rfl, rfl, rfl⟩

theorem move_filing (c : Connection) (m : Move) : Filing c (c.move m) := by
  by_cases reads : m = .turn .reader
  · subst reads
    change Filing c (c.stepReader?.getD c)
    cases step : c.stepReader? with
    | none => exact .same (.refl c)
    | some c' => exact stepReader?_filing step
  · exact .same (move_files reads)

def Holds (c : Connection) (events : List DiagnosticEvent) : Prop :=
  ∀ uri, c.diagnostics.get? uri = lastFiled uri events

private theorem Holds.stored {c : Connection} {earlier : List DiagnosticEvent} (holds : Holds c earlier)
    (event : DiagnosticEvent) : Holds (c.store event) (earlier ++ [event]) := by
  intro uri
  change (c.diagnostics.insert event.uri event.diagnostics).get? uri = _
  rw [Table.get?_insert, lastFiled_concat, holds]
  by_cases own : event.uri = uri
  · rw [if_pos own, if_pos own.symm]
  · rw [if_neg own, if_neg (Ne.symm own)]

private theorem Holds.allStored {c : Connection} {earlier : List DiagnosticEvent} (holds : Holds c earlier)
    (events : List DiagnosticEvent) : Holds (events.foldl store c) (earlier ++ events) := by
  induction events generalizing c earlier with
  | nil => simpa using holds
  | cons event rest ih =>
    rw [List.foldl_cons, List.append_cons]
    exact ih (holds.stored event)

private theorem storeAll_same (events : List DiagnosticEvent) (c : Connection) :
    (events.foldl store c).options = c.options ∧ (events.foldl store c).intercepted = c.intercepted := by
  induction events generalizing c with
  | nil => exact ⟨rfl, rfl⟩
  | cons event rest ih => exact ih (c.store event)

theorem Holds.published {c : Connection} {earlier : List DiagnosticEvent} (holds : Holds c earlier)
    (event : DiagnosticEvent) : Holds (c.publish event) (earlier ++ c.options.deliver event) := by
  unfold publish
  dsimp only
  split
  · exact Holds.allStored (c := { c with intercepted := c.intercepted ++ [event] }) holds _
  · exact holds.allStored _

private theorem publish_options (c : Connection) (event : DiagnosticEvent) :
    (c.publish event).options = c.options := by
  unfold publish
  dsimp only
  split <;> exact (storeAll_same _ _).1

theorem publish_intercepted {c : Connection} (intercepts : c.options.middleware.isSome) (event : DiagnosticEvent) :
    (c.publish event).intercepted = c.intercepted ++ [event] := by
  unfold publish
  rw [if_pos intercepts]
  exact (storeAll_same _ _).2

theorem Filing.options {c c' : Connection} (filing : Filing c c') : c'.options = c.options := by
  cases filing with
  | same same => exact same.options
  | published d event same whole => rw [whole, publish_options, same.options]

structure UpToDate (handle : Middleware) (c : Connection) : Prop where
  handles : c.options.middleware = some handle
  holds : Holds c (c.intercepted.flatMap handle)

private theorem UpToDate.keep {handle : Middleware} {c c' : Connection} (upToDate : UpToDate handle c)
    (filing : Filing c c') : UpToDate handle c' := by
  have kept {d : Connection} (same : SameFiles c d) : UpToDate handle d := by
    refine ⟨by rw [same.options, upToDate.handles], fun uri => ?_⟩
    rw [same.diagnostics, same.intercepted, upToDate.holds]
  cases filing with
  | same same => exact kept same
  | published d event same whole =>
    obtain ⟨handles, holds⟩ := kept same
    have given : (d.publish event).intercepted = d.intercepted ++ [event] :=
      publish_intercepted (by rw [handles]; rfl) event
    have handed : d.options.deliver event = handle event := by rw [ClientOptions.deliver, handles]
    rw [whole]
    refine ⟨by rw [publish_options, handles], ?_⟩
    rw [given, List.flatMap_append, List.flatMap_singleton, ← handed]
    exact holds.published event

/-- However a connection runs, it has on file for each document what the middleware has handed on last,
and nothing for a document of which it has handed on nothing. -/
theorem latestDiagnostics_run (options : ClientOptions) (grace : Nat) (handle : Middleware)
    (handles : options.middleware = some handle) (moves : List Move) (uri : String) :
    ((connect options grace).run moves).latestDiagnostics uri =
      (lastFiled uri (((connect options grace).run moves).intercepted.flatMap handle)).getD [] := by
  have upToDate : UpToDate handle ((connect options grace).run moves) := by
    induction moves using List.reverseRecOn with
    | nil => exact ⟨handles, fun _ => rfl⟩
    | append_singleton moves m ih =>
      rw [run_concat]
      exact ih.keep (move_filing _ m)
  rw [latestDiagnostics, upToDate.holds]

end Connection

end LanguageClient
