import LanguageClient.Proofs.Client.Calls

/-! What the calls of a client come to. Each lemma names every way in which a call, or a section of
one, can end: its result, the table of documents, and what is added to the history. Nothing else of
the client changes unless the lemma says so. -/
namespace LanguageClient.Client

variable {W P : Type}

def after (c : Client W P) (world : W) (more : List (Happening P)) : Client W P :=
  { c with world := world, history := c.history ++ more }

private theorem note_eq (c : Client W P) (h : Happening P) : c.note h = c.after c.world [h] := rfl

@[simp] theorem after_after (c : Client W P) (first second : W) (more again : List (Happening P)) :
    (c.after first more).after second again = c.after second (more ++ again) := by
  simp [after]

theorem after_self (c : Client W P) : c.after c.world [] = c := by
  simp [after]

theorem foldl_note {L : Type} (listeners : List L) (f : Client W P → L → Happening P) (c : Client W P)
    (same : ∀ more l, f (c.after c.world more) l = f c l) :
    listeners.foldl (fun c l => c.note (f c l)) c = c.after c.world (listeners.map (f c)) := by
  suffices general : ∀ more : List (Happening P),
      listeners.foldl (fun c l => c.note (f c l)) (c.after c.world more) =
        c.after c.world (more ++ listeners.map (f c)) by
    simpa [after_self] using general []
  induction listeners with
  | nil => simp
  | cons l rest ih =>
    intro more
    have step : (c.after c.world more).note (f (c.after c.world more) l) =
        c.after c.world (more ++ [f c l]) := by
      rw [same, note_eq, after_after]
      rfl
    rw [List.foldl_cons, step, ih]
    simp

theorem notify_cases (host : Host W P) (c : Client W P) (peer : P) (notice : Notice) :
    (∃ w, notify host c peer notice = (.ok (), c.after w [.delivered peer notice])) ∨
    ∃ e w, notify host c peer notice = (.error e, c.after w [.refused peer notice e]) := by
  unfold notify
  rcases host.notify peer notice c.world with ⟨_ | _, w⟩
  · exact .inr ⟨_, w, rfl⟩
  · exact .inl ⟨w, rfl⟩

theorem notify_accepted (host : Host W P) (c : Client W P) (peer : P) (notice : Notice)
    (accepted : (host.notify peer notice c.world).1 = .ok ()) :
    ∃ w, notify host c peer notice = (.ok (), c.after w [.delivered peer notice]) := by
  unfold notify
  generalize host.notify peer notice c.world = answer at accepted ⊢
  obtain ⟨e | _, w⟩ := answer
  · cases accepted
  · exact ⟨w, rfl⟩

theorem peer?_of_active {c : Client W P} {id : Nat} {peer : P} (inUse : c.active = some (id, peer)) :
    c.peer? = .ok peer := by
  rw [peer?, inUse]

theorem syncDocument_selected (host : Host W P) {c : Client W P} {id : Nat} {peer : P}
    (inUse : c.active = some (id, peer)) {d : TextDocument} (passes : c.selects d = true) :
    c.syncDocument host d = c.syncOn host peer d := by
  rw [syncDocument, peer?_of_active inUse]
  exact if_pos passes

inductive SyncOutcome (c : Client W P) (peer : P) (d : TextDocument) :
    Except ClientError Bool × Client W P → Prop
  | unchanged (known : OpenDocument) (isOpen : c.documents.get? d.uri = some known)
      (same : known.text = d.text) : SyncOutcome c peer d (.ok false, c)
  | opened (w : W) (isClosed : c.documents.get? d.uri = none) : SyncOutcome c peer d
      (.ok true, { c.after w [.delivered peer (.opened ⟨d.uri, d.languageId, 1, d.text⟩), .opened d.uri] with
        documents := c.documents.insert d.uri ⟨d.languageId, 1, d.text⟩ })
  | changed (w : W) (known : OpenDocument) (isOpen : c.documents.get? d.uri = some known)
      (differs : known.text ≠ d.text) : SyncOutcome c peer d
      (.ok true, { c.after w [.delivered peer (.changed d.uri (known.version + 1) d.text),
          .changed d.uri (known.version + 1)] with
        documents := c.documents.insert d.uri
          { known with version := known.version + 1, text := d.text } })
  | refused (e : ClientError) (w : W) (notice : Notice) :
      SyncOutcome c peer d (.error e, c.after w [.refused peer notice e])

theorem syncOn_outcome (host : Host W P) (c : Client W P) (peer : P) (d : TextDocument) :
    SyncOutcome c peer d (c.syncOn host peer d) := by
  unfold syncOn
  cases known : c.documents.get? d.uri with
  | none =>
    dsimp only [OpenDocument.toDocument]
    rcases notify_cases host c peer (.opened ⟨d.uri, d.languageId, 1, d.text⟩) with ⟨w, sent⟩ | ⟨e, w, sent⟩
    · rw [sent]
      simpa [note_eq, after] using SyncOutcome.opened w known
    · rw [sent]
      exact .refused e w _
  | some known' =>
    dsimp only
    split
    · next same => exact .unchanged known' known same
    · next differs =>
      rcases notify_cases host c peer (.changed d.uri (known'.version + 1) d.text) with
        ⟨w, sent⟩ | ⟨e, w, sent⟩
      · rw [sent]
        simpa [note_eq, after] using SyncOutcome.changed w known' known differs
      · rw [sent]
        exact .refused e w _

inductive RefreshOutcome (c : Client W P) (peer : P) (d : TextDocument) :
    Except ClientError Unit × Client W P → Prop
  | done (w : W) : RefreshOutcome c peer d
      (.ok (), { c.after w [.delivered peer (.closed d.uri),
          .delivered peer (.opened ⟨d.uri, leanLanguage, 1, d.text⟩)] with
        documents := c.documents.insert d.uri ⟨leanLanguage, 1, d.text⟩ })
  | closeRefused (e : ClientError) (w : W) :
      RefreshOutcome c peer d (.error e, c.after w [.refused peer (.closed d.uri) e])
  | openRefused (e : ClientError) (w : W) : RefreshOutcome c peer d
      (.error e, c.after w [.delivered peer (.closed d.uri),
        .refused peer (.opened ⟨d.uri, leanLanguage, 1, d.text⟩) e])

theorem refreshOn_outcome (host : Host W P) (c : Client W P) (peer : P) (d : TextDocument) :
    RefreshOutcome c peer d (c.refreshOn host peer d) := by
  unfold refreshOn
  dsimp only [OpenDocument.toDocument]
  rcases notify_cases host c peer (.closed d.uri) with ⟨w, sent⟩ | ⟨e, w, sent⟩
  · rw [sent]
    dsimp only
    rcases notify_cases host (c.after w [.delivered peer (.closed d.uri)]) peer
      (.opened ⟨d.uri, leanLanguage, 1, d.text⟩) with ⟨w', sent'⟩ | ⟨e, w', sent'⟩
    · rw [sent', after_after]
      exact .done w'
    · rw [sent', after_after]
      exact .openRefused e w'
  · rw [sent]
    exact .closeRefused e w

inductive CloseOutcome (c : Client W P) (peer : P) (uri : String) :
    Except ClientError Bool × Client W P → Prop
  | absent (isClosed : c.documents.get? uri = none) : CloseOutcome c peer uri (.ok false, c)
  | done (w : W) (known : OpenDocument) (isOpen : c.documents.get? uri = some known) :
      CloseOutcome c peer uri (.ok true, { c.after w [.delivered peer (.closed uri), .closed uri] with
        documents := c.documents.erase uri })
  | refused (e : ClientError) (w : W) (known : OpenDocument)
      (isOpen : c.documents.get? uri = some known) :
      CloseOutcome c peer uri (.error e, { c.after w [.refused peer (.closed uri) e] with
        documents := c.documents.erase uri })

theorem closeDocument_outcome (host : Host W P) (c : Client W P) {id : Nat} {peer : P}
    (inUse : c.active = some (id, peer)) (uri : String) :
    CloseOutcome c peer uri (c.closeDocument host uri) := by
  unfold closeDocument forget
  rw [peer?_of_active inUse]
  dsimp only
  cases known : c.documents.get? uri with
  | none =>
    rw [if_neg (by simp [Table.contains, known])]
    exact .absent known
  | some document =>
    rw [if_pos (by simp [Table.contains, known])]
    dsimp only
    unfold dismissOn
    rcases notify_cases host { c with documents := c.documents.erase uri } peer (.closed uri) with
      ⟨w, sent⟩ | ⟨e, w, sent⟩
    · rw [sent]
      simpa [note_eq, after] using CloseOutcome.done w document known
    · rw [sent]
      exact .refused e w document known

/-- A stop takes the connection out of use, whatever it comes to. -/
theorem stopActive_eq (host : Host W P) (c : Client W P) {id : Nat} {peer : P}
    (inUse : c.active = some (id, peer)) : ∃ result w, c.stopActive host =
      (result, { c.after w [.stopping id peer, .stopped id peer result] with
        active := none, isStarted := false }) := by
  unfold stopActive
  rw [inUse]
  refine ⟨(host.stop peer c.world).1, (host.stop peer c.world).2, ?_⟩
  simp [beginStop, stopPeer, note, clearActive, markStopped, after]

/-- The client when its connection was stopped and taken out of use. -/
def stoppedOn (c : Client W P) (id : Nat) (peer : P) (result : Except ClientError Unit) (world : W) :
    Client W P :=
  { c.after world [.stopping id peer, .stopped id peer result] with
    active := none, isStarted := false }

inductive StopOutcome (c : Client W P) : Except ClientError Unit × Client W P → Prop
  | idle (vacant : c.active = none) : StopOutcome c (.error .notStarted, c)
  | stopped (id : Nat) (peer : P) (result : Except ClientError Unit) (w : W)
      (inUse : c.active = some (id, peer)) : StopOutcome c (result, c.stoppedOn id peer result w)

theorem stop_outcome (host : Host W P) (c : Client W P) (connected : c.isStarted = c.active.isSome) :
    StopOutcome c (c.stop host) := by
  unfold stop
  cases inUse : c.active with
  | none =>
    rw [inUse] at connected
    rw [connected, if_neg (by simp)]
    exact .idle inUse
  | some connection =>
    obtain ⟨result, w, outcome⟩ := c.stopActive_eq host inUse
    rw [inUse] at connected
    rw [connected, if_pos (by rfl), outcome]
    exact .stopped _ _ result w inUse

/-- What a restart comes to. A connection that is in use is stopped before the launch. -/
inductive RestartOutcome (host : Host W P) (c : Client W P) :
    Except ClientError Unit × Client W P → Prop
  | idle (vacant : c.active = none) : RestartOutcome host c (c.launchNew host)
  | stopFailed (id : Nat) (peer : P) (e : ClientError) (w : W) (inUse : c.active = some (id, peer)) :
      RestartOutcome host c (.error e, c.stoppedOn id peer (.error e) w)
  | replaced (id : Nat) (peer : P) (w : W) (inUse : c.active = some (id, peer)) :
      RestartOutcome host c ((c.stoppedOn id peer (.ok ()) w).launchNew host)

theorem restart_outcome (host : Host W P) (c : Client W P)
    (connected : c.isStarted = c.active.isSome) : RestartOutcome host c (c.restart host) := by
  unfold restart
  cases inUse : c.active with
  | none =>
    rw [inUse] at connected
    rw [connected, if_neg (by simp)]
    exact .idle inUse
  | some connection =>
    obtain ⟨result, w, outcome⟩ := c.stopActive_eq host inUse
    rw [inUse] at connected
    rw [connected, if_pos (by rfl), outcome]
    cases result with
    | error e => exact .stopFailed _ _ e w inUse
    | ok done => exact .replaced _ _ w inUse

theorem launchPeer_cases (host : Host W P) (c : Client W P) :
    (∃ e w, c.launchPeer host = (.error e, c.after w [.launchFailed e])) ∨
    ∃ peer w, c.launchPeer host = (.ok (c.nextId, peer),
      { c.after w [.launched peer c.serverOptions c.clientOptions] with nextId := c.nextId + 1 }) := by
  unfold launchPeer
  rcases host.launch c.serverOptions c.clientOptions c.world with ⟨e | peer, w⟩
  · exact .inl ⟨e, w, rfl⟩
  · exact .inr ⟨peer, w, rfl⟩

def launchedOn (c : Client W P) (peer : P) (world : W) : Client W P :=
  { c.after world [.launching c.serverOptions, .launched peer c.serverOptions c.clientOptions] with
    nextId := c.nextId + 1, active := some (c.nextId, peer), isStarted := true }

inductive LaunchOutcome (host : Host W P) (c : Client W P) : Except ClientError Unit × Client W P → Prop
  | failed (e : ClientError) (w : W) :
      LaunchOutcome host c (.error e, c.after w [.launching c.serverOptions, .launchFailed e])
  | started (peer : P) (w : W) : LaunchOutcome host c
      (.ok (), ((c.launchedOn peer w).reopen host peer).announce c.nextId)

theorem launchNew_outcome (host : Host W P) (c : Client W P) :
    LaunchOutcome host c (c.launchNew host) := by
  unfold launchNew
  have server : c.beginLaunch.serverOptions = c.serverOptions := rfl
  have options : c.beginLaunch.clientOptions = c.clientOptions := rfl
  rcases c.beginLaunch.launchPeer_cases host with ⟨e, w, launch⟩ | ⟨peer, w, launch⟩
  · rw [launch]
    simpa [beginLaunch, note, after] using LaunchOutcome.failed e w
  · rw [server, options] at launch
    rw [launch]
    simpa [beginLaunch, note, install, markStarted, launchedOn, after] using
      LaunchOutcome.started peer w

theorem announce_eq (c : Client W P) (id : Nat) : c.announce id =
    c.after c.world (.started id ::
      c.restarted.audience.map fun l => .heardRestart l c.isStarted c.connectionId) := by
  unfold announce
  rw [foldl_note _ (fun (c : Client W P) l => .heardRestart l c.isStarted c.connectionId) _ fun _ _ => rfl,
    note_eq, after_after]
  rfl

def reopening (entry : String × OpenDocument) : Notice := .opened (entry.2.toDocument entry.1)

theorem reopenOne_cases (host : Host W P) (peer : P) (c : Client W P) (entry : String × OpenDocument) :
    (∃ w, reopenOne host peer c entry = c.after w [.delivered peer (reopening entry)]) ∨
    ∃ e w, reopenOne host peer c entry =
      c.after w [.refused peer (reopening entry) e, .reopenFailed entry.1 e] := by
  unfold reopenOne
  rcases notify_cases host c peer (.opened (entry.2.toDocument entry.1)) with ⟨w, sent⟩ | ⟨e, w, sent⟩
  · rw [sent]
    exact .inl ⟨w, rfl⟩
  · rw [sent]
    refine .inr ⟨e, w, ?_⟩
    dsimp only
    rw [note_eq, after_after]
    rfl

inductive Reopened (peer : P) : Table OpenDocument → List (Happening P) → Prop
  | nil : Reopened peer [] []
  | delivered (entry : String × OpenDocument) {rest : Table OpenDocument} {more : List (Happening P)}
      (later : Reopened peer rest more) :
      Reopened peer (entry :: rest) (.delivered peer (reopening entry) :: more)
  | refused (entry : String × OpenDocument) (e : ClientError) {rest : Table OpenDocument}
      {more : List (Happening P)} (later : Reopened peer rest more) :
      Reopened peer (entry :: rest)
        (.refused peer (reopening entry) e :: .reopenFailed entry.1 e :: more)

theorem foldl_reopenOne_eq (host : Host W P) (peer : P) (entries : Table OpenDocument)
    (c : Client W P) : ∃ w more, entries.foldl (reopenOne host peer) c = c.after w more ∧
      Reopened peer entries more := by
  induction entries generalizing c with
  | nil => exact ⟨c.world, [], (after_self c).symm, .nil⟩
  | cons entry rest ih =>
    rw [List.foldl_cons]
    rcases reopenOne_cases host peer c entry with ⟨w, one⟩ | ⟨e, w, one⟩
    · obtain ⟨w', more, all, told⟩ := ih (c.after w [.delivered peer (reopening entry)])
      exact ⟨w', _, by rw [one, all, after_after]; rfl, told.delivered entry⟩
    · obtain ⟨w', more, all, told⟩ :=
        ih (c.after w [.refused peer (reopening entry) e, .reopenFailed entry.1 e])
      exact ⟨w', _, by rw [one, all, after_after]; rfl, told.refused entry e⟩

/-- The documents of a table in their first version. -/
def renewed (documents : Table OpenDocument) : Table OpenDocument :=
  documents.mapValues fun d => { d with version := 1 }

theorem reopen_eq (host : Host W P) (c : Client W P) (peer : P) : ∃ w more, c.reopen host peer =
    { c.after w (more ++ [.reopened (renewed c.documents).length]) with
      documents := renewed c.documents } ∧ Reopened peer (renewed c.documents) more := by
  obtain ⟨w, more, all, told⟩ :=
    foldl_reopenOne_eq host peer (renewed c.documents) { c with documents := renewed c.documents }
  refine ⟨w, more, ?_, told⟩
  unfold reopen
  change (note ((renewed c.documents).foldl (reopenOne host peer)
    { c with documents := renewed c.documents }) (.reopened (renewed c.documents).length)) = _
  rw [all, note_eq, after_after]
  rfl

theorem goalAt_eq (host : Host W P) (c : Client W P) (uri : String) (position : Position) :
    ∃ w more, (c.goalAt host uri position).2 = c.after w more := by
  unfold goalAt
  cases c.peer? with
  | error e => exact ⟨c.world, [], (after_self c).symm⟩
  | ok peer => exact ⟨_, [.asked peer goalMethod (DocumentPosition.mk ⟨uri⟩ position).toJson], rfl⟩

theorem publish_eq (host : Host W P) (c : Client W P) (peer : P) (event : DiagnosticEvent) :
    ∃ w, c.publish host peer event = c.after w (.published peer event ::
      c.diagnostics.audience.map fun l => .heardDiagnostics l event) := by
  unfold publish hear
  rw [foldl_note _ (fun _ l => .heardDiagnostics l event) _ fun _ _ => rfl, note_eq, after_after]
  exact ⟨_, rfl⟩

private theorem stopActive_grows (host : Host W P) (c : Client W P) :
    c.history <+: (c.stopActive host).2.history := by
  cases inUse : c.active with
  | none => simp [stopActive, inUse, markStopped]
  | some connection =>
    obtain ⟨result, w, outcome⟩ := c.stopActive_eq host inUse
    rw [outcome]
    exact List.prefix_append _ _

private theorem launchNew_grows (host : Host W P) (c : Client W P) :
    c.history <+: (c.launchNew host).2.history := by
  have outcome := c.launchNew_outcome host
  generalize c.launchNew host = result at outcome ⊢
  cases outcome with
  | failed e w => exact List.prefix_append _ _
  | started peer w =>
    obtain ⟨w', more, opened, _⟩ := (c.launchedOn peer w).reopen_eq host peer
    rw [opened, announce_eq]
    have launched : c.history <+: (c.launchedOn peer w).history := List.prefix_append _ _
    exact launched.trans ((List.prefix_append _ _).trans (List.prefix_append _ _))

private theorem restart_grows (host : Host W P) (c : Client W P) :
    c.history <+: (c.restart host).2.history := by
  have stopped := c.stopActive_grows host
  unfold restart
  split
  · generalize c.stopActive host = result at stopped ⊢
    obtain ⟨_ | _, c'⟩ := result
    · exact stopped
    · exact stopped.trans (c'.launchNew_grows host)
  · exact c.launchNew_grows host

private theorem syncDocument_grows (host : Host W P) (c : Client W P) (d : TextDocument) :
    c.history <+: (c.syncDocument host d).2.history := by
  unfold syncDocument
  cases c.peer? with
  | error e => exact List.prefix_refl _
  | ok peer =>
    dsimp only
    split
    · have outcome := c.syncOn_outcome host peer d
      generalize c.syncOn host peer d = result at outcome ⊢
      cases outcome <;> first | exact List.prefix_refl _ | exact List.prefix_append _ _
    · exact List.prefix_refl _

private theorem closeDocument_grows (host : Host W P) (c : Client W P) (uri : String) :
    c.history <+: (c.closeDocument host uri).2.history := by
  cases inUse : c.active with
  | none => simp [closeDocument, peer?, inUse]
  | some connection =>
    have outcome := c.closeDocument_outcome host inUse uri
    generalize c.closeDocument host uri = result at outcome ⊢
    cases outcome <;> first | exact List.prefix_refl _ | exact List.prefix_append _ _

private theorem refreshDependencies_grows (host : Host W P) (c : Client W P) (d : TextDocument) :
    c.history <+: (c.refreshDependencies host d).2.history := by
  unfold refreshDependencies
  cases c.peer? with
  | error e => exact List.prefix_refl _
  | ok peer =>
    have noted := List.prefix_append c.history [.refreshing d.uri]
    have outcome := (c.note (.refreshing d.uri)).refreshOn_outcome host peer d
    dsimp only
    generalize (c.note (.refreshing d.uri)).refreshOn host peer d = result at outcome ⊢
    cases outcome <;> exact noted.trans (List.prefix_append _ _)

/-- No call takes back what has happened. -/
theorem perform_grows (host : Host W P) (c : Client W P) (call : ClientCall P) :
    c.history <+: (c.perform host call).2.history := by
  cases call with
  | start => exact c.restart_grows host
  | restart => exact c.restart_grows host
  | stop =>
    unfold perform stop
    dsimp only
    split
    · exact c.stopActive_grows host
    · exact List.prefix_refl _
  | openDocument d => exact c.syncDocument_grows host d
  | changeDocument d => exact c.syncDocument_grows host d
  | closeDocument uri => exact c.closeDocument_grows host uri
  | refreshDependencies d => exact c.refreshDependencies_grows host d
  | goalAt uri position =>
    obtain ⟨w, more, asked⟩ := c.goalAt_eq host uri position
    change c.history <+: (c.goalAt host uri position).2.history
    rw [asked]
    exact List.prefix_append _ _
  | publish peer event =>
    obtain ⟨w, heard⟩ := c.publish_eq host peer event
    change c.history <+: (c.publish host peer event).history
    rw [heard]
    exact List.prefix_append _ _
  | publishedDiagnostics uri => exact List.prefix_refl _
  | onRestarted listener => exact List.prefix_refl _
  | removeRestarted id => exact List.prefix_refl _
  | onDiagnostics listener => exact List.prefix_refl _
  | removeDiagnostics id => exact List.prefix_refl _

end LanguageClient.Client
