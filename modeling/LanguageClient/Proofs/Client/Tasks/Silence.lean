import LanguageClient.Proofs.Client.Tasks.Work

/-! What nobody hears. Of all that a client does, only a publication lets a listener of diagnostics hear
something, and only a launch adds to the connections. `Silently` says that neither took place, and what
the host was asked for in the meantime. -/
namespace LanguageClient

variable {W P : Type}

def Happening.heardDiagnostics? : Happening P → Option (String × DiagnosticEvent)
  | .heardDiagnostics listener event => some (listener, event)
  | _ => none

namespace Client

inductive Silently (host : Host W P) : Client W P → Client W P → Prop
  | kept {c c' : Client W P} (listeners : c'.diagnostics = c.diagnostics) (history : c'.history = c.history)
      (world : c'.world = c.world) : Silently host c c'
  | noted (c : Client W P) (h : Happening P) (unheard : h.heardDiagnostics? = none)
      (aside : h.launched? = none) : Silently host c (c.note h)
  | told (c : Client W P) (peer : P) (notice : Notice) : Silently host c (notify host c peer notice).2
  | asked (c : Client W P) (peer : P) (method : String) (params : Json) :
      Silently host c { c with world := (host.request peer method params c.world).2 }
  | halted (c : Client W P) (peer : P) : Silently host c { c with world := (host.stop peer c.world).2 }
  | launchFailed (c : Client W P) (e : ClientError) (w : W)
      (failed : host.launch c.serverOptions c.clientOptions c.world = (.error e, w)) :
      Silently host c { c with world := w }
  | trans {c c' c'' : Client W P} (first : Silently host c c') (second : Silently host c' c'') :
      Silently host c c''

namespace Silently

variable {host : Host W P} {c c' c'' : Client W P}

theorem refl (c : Client W P) : Silently host c c := .kept rfl rfl rfl

private theorem sent {peer : P} {notice : Notice} {result : Except ClientError Unit}
    (sent : notify host c peer notice = (result, c')) : Silently host c c' := by
  have told : Silently host c (notify host c peer notice).2 := .told c peer notice
  rwa [sent] at told

private theorem andNoted (first : Silently host c c') {h : Happening P} (unheard : h.heardDiagnostics? = none)
    (aside : h.launched? = none) (listeners : c''.diagnostics = c'.diagnostics)
    (history : c''.history = c'.history ++ [h]) (world : c''.world = c'.world) : Silently host c c'' :=
  (first.trans (.noted c' h unheard aside)).trans (.kept listeners history world)

private theorem syncOn (c : Client W P) (peer : P) (d : TextDocument) :
    Silently host c (c.syncOn host peer d).2 := by
  unfold Client.syncOn
  cases c.documents.get? d.uri with
  | none =>
    dsimp only
    split
    · next told => exact .sent told
    · next told => exact (Silently.sent told).andNoted rfl rfl rfl rfl rfl
  | some known =>
    dsimp only
    split
    · exact .refl c
    · split
      · next told => exact .sent told
      · next told => exact (Silently.sent told).andNoted rfl rfl rfl rfl rfl

private theorem refreshOn (c : Client W P) (peer : P) (d : TextDocument) :
    Silently host c (c.refreshOn host peer d).2 := by
  unfold Client.refreshOn
  dsimp only
  split
  · next told => exact .sent told
  · next told =>
    split
    · next told' => exact (Silently.sent told).trans (.sent told')
    · next told' => exact (Silently.sent told).trans ((Silently.sent told').trans (.kept rfl rfl rfl))

private theorem forget (c : Client W P) (uri : String) : Silently host c (c.forget uri).2 := by
  unfold Client.forget
  split <;> exact .kept rfl rfl rfl

private theorem dismissOn (c : Client W P) (peer : P) (uri : String) :
    Silently host c (c.dismissOn host peer uri).2 := by
  unfold Client.dismissOn
  split
  · next told => exact .sent told
  · next told => exact (Silently.sent told).andNoted rfl rfl rfl rfl rfl

private theorem stopPeer (c : Client W P) (id : Nat) (peer : P) : Silently host c (c.stopPeer host id peer).2 :=
  (Silently.halted c peer).andNoted rfl rfl rfl rfl rfl

private theorem reopen (c : Client W P) (peer : P) : Silently host c (c.reopen host peer) := by
  suffices entries : ∀ (entries : Table OpenDocument) (c : Client W P),
      Silently host c (entries.foldl (reopenOne host peer) c) by
    have renews : Silently host c { c with documents := renewed c.documents } := .kept rfl rfl rfl
    exact (renews.trans (entries _ _)).trans (.noted _ (.reopened _) rfl rfl)
  intro entries
  induction entries with
  | nil => exact .refl
  | cons entry rest ih =>
    intro c
    refine Silently.trans ?_ (ih _)
    unfold reopenOne
    split
    · next told => exact .sent told
    · next told => exact (Silently.sent told).andNoted rfl rfl rfl rfl rfl

private theorem announce (c : Client W P) (id : Nat) : Silently host c (c.announce id) := by
  suffices listeners : ∀ (listeners : List String) (c : Client W P),
      Silently host c (listeners.foldl
        (fun c listener => c.note (.heardRestart listener c.isStarted c.connectionId)) c) from
    Silently.trans (.noted c (.started id) rfl rfl) (listeners _ _)
  intro listeners
  induction listeners with
  | nil => exact .refl
  | cons listener rest ih => exact fun c => .trans (.noted c _ rfl rfl) (ih _)

theorem moves {phase next : TaskPhase P} (moves : Tasks.Moves host c phase next c')
    (unlaunched : phase ≠ .launching) : Silently host c c' := by
  cases moves with
  | started | notStarted | missing | cleared | lowered | installed | raised => exact .kept rfl rfl rfl
  | fetched | prepared => exact .noted c _ rfl rfl
  | stopped call id peer => exact .stopPeer c id peer
  | launched => contradiction
  | reopened id peer => exact .reopen c peer

theorem ends {phase : TaskPhase P} {result : Except ClientError Unit}
    (ends : Tasks.Ends host c phase result c') : Silently host c c' := by
  cases ends with
  | notStarted => exact .refl c
  | stopped | stopFailed => exact .kept rfl rfl rfl
  | launchFailed e c' launch =>
    unfold launchPeer at launch
    split at launch
    · cases launch
    · next failed =>
      cases launch
      exact (Silently.launchFailed c _ _ failed).andNoted rfl rfl rfl rfl rfl
  | announced id => exact .announce c id

theorem works {phase next : TaskPhase P} (works : Tasks.Works host c phase next c') : Silently host c c' := by
  cases works with
  | notStarted | notOurs | found | foundClose | absent => exact .refl c
  | synced peer d => exact .syncOn c peer d
  | foundRefresh => exact .noted c _ rfl rfl
  | refreshed peer d => exact .refreshOn c peer d
  | forgotten => exact .kept rfl rfl rfl
  | dismissed peer uri => exact .dismissOn c peer uri

theorem syncDocument (c : Client W P) (d : TextDocument) : Silently host c (c.syncDocument host d).2 := by
  unfold Client.syncDocument
  cases c.peer? with
  | error e => exact .refl c
  | ok peer =>
    dsimp only
    split
    · exact .syncOn c peer d
    · exact .refl c

theorem closeDocument (c : Client W P) (uri : String) : Silently host c (c.closeDocument host uri).2 := by
  unfold Client.closeDocument
  cases c.peer? with
  | error e => exact .refl c
  | ok peer =>
    have forgotten : Silently host c (c.forget uri).2 := .forget c uri
    dsimp only
    generalize c.forget uri = result at forgotten ⊢
    obtain ⟨_ | _, c'⟩ := result
    · exact forgotten
    · exact forgotten.trans (.dismissOn c' peer uri)

theorem refreshDependencies (c : Client W P) (d : TextDocument) :
    Silently host c (c.refreshDependencies host d).2 := by
  unfold Client.refreshDependencies
  cases c.peer? with
  | error e => exact .refl c
  | ok peer => exact .trans (.noted c (.refreshing d.uri) rfl rfl) (.refreshOn _ peer d)

theorem goalAt (c : Client W P) (uri : String) (position : Position) :
    Silently host c (c.goalAt host uri position).2 := by
  unfold Client.goalAt
  cases c.peer? with
  | error e => exact .refl c
  | ok peer => exact .trans (.noted c _ rfl rfl) (.asked _ peer _ _)

-- What the listeners are, what they have heard, and who was launched are the same.
theorem listeners (silent : Silently host c c') : c'.diagnostics = c.diagnostics := by
  induction silent with
  | kept listeners history world => exact listeners
  | noted | asked | halted | launchFailed => rfl
  | told c peer notice =>
    rcases notify_cases host c peer notice with ⟨w, sent⟩ | ⟨e, w, sent⟩ <;> rw [sent] <;> rfl
  | trans first second ih ih' => exact ih'.trans ih

theorem unheard (silent : Silently host c c') : c'.history.filterMap Happening.heardDiagnostics? =
    c.history.filterMap Happening.heardDiagnostics? := by
  induction silent with
  | kept listeners history world => rw [history]
  | noted c h unheard aside => simp [note, unheard]
  | asked | halted | launchFailed => rfl
  | told c peer notice =>
    rcases notify_cases host c peer notice with ⟨w, sent⟩ | ⟨e, w, sent⟩ <;>
      simp [sent, after, Happening.heardDiagnostics?]
  | trans first second ih ih' => exact ih'.trans ih

theorem unlaunched (silent : Silently host c c') : c'.history.filterMap Happening.launched? =
    c.history.filterMap Happening.launched? := by
  induction silent with
  | kept listeners history world => rw [history]
  | noted c h unheard aside => simp [note, aside]
  | asked | halted | launchFailed => rfl
  | told c peer notice =>
    rcases notify_cases host c peer notice with ⟨w, sent⟩ | ⟨e, w, sent⟩ <;>
      simp [sent, after, Happening.launched?]
  | trans first second ih ih' => exact ih'.trans ih

end Silently

end Client

end LanguageClient
