import LanguageClient.Proofs.Client.Course
import LanguageClient.Proofs.Client.Tidy

/-! Calls about other documents. Whatever they come to, a document stays in the table as it is, and the
servers are told nothing of it, until the client is started or stopped. -/
namespace LanguageClient

variable {P : Type}

/-- The call is about the document, or about the connection as a whole. -/
def ClientCall.concerns (uri : String) : ClientCall P → Bool
  | .start | .restart | .stop => true
  | .openDocument d | .changeDocument d | .refreshDependencies d => d.uri = uri
  | .closeDocument other => other = uri
  | _ => false

def Happening.Spares (uri : String) : Happening P → Prop
  | .launched .. => False
  | .delivered _ notice => notice.uri ≠ uri
  | _ => True

/-- What the server behind a connection has of a document. -/
def serverEntry [DecidableEq P] (peer : P) (uri : String) (history : List (Happening P)) : Option OpenDocument :=
  (replay (received peer history)).get? uri

theorem serverEntry_append [DecidableEq P] (peer : P) {uri : String} (history : List (Happening P))
    {more : List (Happening P)} (spares : ∀ h ∈ more, h.Spares uri) :
    serverEntry peer uri (history ++ more) = serverEntry peer uri history := by
  induction more using List.reverseRecOn with
  | nil => rw [List.append_nil]
  | append_singleton more h ih =>
    have earlier := ih fun other inside => spares other (by simp [inside])
    have last := spares h (by simp)
    rw [← earlier, ← List.append_assoc, serverEntry, received_concat, serverEntry]
    cases h with
    | launched => exact last.elim
    | delivered other notice =>
      rw [Happening.addReceived]
      split
      · rw [replay_concat, Notice.get?_apply]
        exact if_neg last
      · rfl
    | _ => rfl

namespace Client

variable {W : Type} {c c' : Client W P}

structure LeftAlone (uri : String) (c c' : Client W P) : Prop where
  selector : c'.selector = c.selector
  active : c'.active = c.active
  entry : c'.documents.get? uri = c.documents.get? uri
  told : ∃ more, c'.history = c.history ++ more ∧ ∀ h ∈ more, h.Spares uri

namespace LeftAlone

variable {uri : String}

theorem refl (c : Client W P) : LeftAlone uri c c := ⟨rfl, rfl, rfl, [], by simp⟩

theorem trans {c'' : Client W P} (first : LeftAlone uri c c') (second : LeftAlone uri c' c'') :
    LeftAlone uri c c'' := by
  obtain ⟨more, grown, spares⟩ := first.told
  obtain ⟨again, grown', spares'⟩ := second.told
  refine ⟨second.selector.trans first.selector, second.active.trans first.active,
    second.entry.trans first.entry, more ++ again, by rw [grown', grown, List.append_assoc], ?_⟩
  intro h inside
  exact (List.mem_append.1 inside).elim (spares h) (spares' h)

theorem serverEntry_eq [DecidableEq P] (leftAlone : LeftAlone uri c c') (peer : P) :
    serverEntry peer uri c'.history = serverEntry peer uri c.history := by
  obtain ⟨more, grown, spares⟩ := leftAlone.told
  rw [grown]
  exact serverEntry_append peer c.history spares

private theorem syncDocument (host : Host W P) (c : Client W P) {d : TextDocument} (elsewhere : d.uri ≠ uri) :
    LeftAlone uri c (c.syncDocument host d).2 := by
  have inserted (entry : OpenDocument) : (c.documents.insert d.uri entry).get? uri = c.documents.get? uri :=
    Table.get?_insert_of_ne _ _ elsewhere.symm
  unfold Client.syncDocument
  cases c.peer? with
  | error e => exact refl c
  | ok peer =>
    dsimp only
    split
    · have outcome := c.syncOn_outcome host peer d
      generalize c.syncOn host peer d = result at outcome ⊢
      cases outcome with
      | unchanged => exact refl c
      | refused => exact ⟨rfl, rfl, rfl, _, rfl, by simp [Happening.Spares]⟩
      | opened | changed =>
        exact ⟨rfl, rfl, inserted _, _, rfl, by simpa [Happening.Spares, Notice.uri] using elsewhere⟩
    · exact refl c

private theorem refreshDependencies (host : Host W P) (c : Client W P) {d : TextDocument}
    (elsewhere : d.uri ≠ uri) :
    LeftAlone uri c (c.refreshDependencies host d).2 := by
  unfold Client.refreshDependencies
  cases c.peer? with
  | error e => exact refl c
  | ok peer =>
    have noted : LeftAlone uri c (c.note (.refreshing d.uri)) :=
      ⟨rfl, rfl, rfl, [.refreshing d.uri], rfl, by simp [Happening.Spares]⟩
    apply noted.trans
    have outcome := (c.note (.refreshing d.uri)).refreshOn_outcome host peer d
    dsimp only
    generalize (c.note (.refreshing d.uri)).refreshOn host peer d = result at outcome ⊢
    cases outcome with
    | closeRefused => exact ⟨rfl, rfl, rfl, _, rfl, by simp [Happening.Spares]⟩
    | openRefused =>
      exact ⟨rfl, rfl, rfl, _, rfl, by simpa [Happening.Spares, Notice.uri] using elsewhere⟩
    | done =>
      refine ⟨rfl, rfl, ?_, _, rfl, by simpa [Happening.Spares, Notice.uri] using elsewhere⟩
      exact Table.get?_insert_of_ne _ _ elsewhere.symm

private theorem closeDocument (host : Host W P) (c : Client W P) {other : String} (elsewhere : other ≠ uri) :
    LeftAlone uri c (c.closeDocument host other).2 := by
  cases inUse : c.active with
  | none => simpa [Client.closeDocument, peer?, inUse] using refl c
  | some connection =>
    have erased := Table.get?_erase_of_ne c.documents elsewhere.symm
    have outcome := c.closeDocument_outcome host inUse other
    generalize c.closeDocument host other = result at outcome ⊢
    cases outcome with
    | absent => exact refl c
    | done => exact ⟨rfl, rfl, erased, _, rfl, by simpa [Happening.Spares, Notice.uri] using elsewhere⟩
    | refused => exact ⟨rfl, rfl, erased, _, rfl, by simp [Happening.Spares]⟩

/-- A call that does not concern a document leaves it alone. -/
theorem perform (host : Host W P) (c : Client W P) {call : ClientCall P} (elsewhere : call.concerns uri = false) :
    LeftAlone uri c (c.perform host call).2 := by
  cases call with
  | start | restart | stop => contradiction
  | openDocument d | changeDocument d => exact syncDocument host c (of_decide_eq_false elsewhere)
  | closeDocument other => exact closeDocument host c (of_decide_eq_false elsewhere)
  | refreshDependencies d => exact refreshDependencies host c (of_decide_eq_false elsewhere)
  | goalAt other position =>
    change LeftAlone uri c (c.goalAt host other position).2
    unfold Client.goalAt
    cases c.peer? with
    | error e => exact refl c
    | ok peer => exact ⟨rfl, rfl, rfl, [.asked peer goalMethod _], rfl, by simp [Happening.Spares]⟩
  | publish peer event =>
    obtain ⟨w, heard⟩ := c.publish_eq host peer event
    change LeftAlone uri c (c.publish host peer event)
    rw [heard]
    exact ⟨rfl, rfl, rfl, _, rfl, by simp [Happening.Spares]⟩
  | publishedDiagnostics => exact refl c
  | onRestarted | removeRestarted | onDiagnostics | removeDiagnostics =>
    exact ⟨rfl, rfl, rfl, [], (List.append_nil _).symm, by simp⟩

/-- It is enough that each call leaves the document alone where it has been left alone so far. -/
theorem run_of_each (host : Host W P) (c : Client W P) {calls : List (ClientCall P)}
    (each : ∀ c', LeftAlone uri c c' → ∀ call ∈ calls, LeftAlone uri c' (c'.perform host call).2) :
    LeftAlone uri c (c.run host calls) := by
  induction calls using List.reverseRecOn with
  | nil => exact refl c
  | append_singleton calls call ih =>
    have before := ih fun c' reached earlier inside => each c' reached earlier (by simp [inside])
    rw [run_append_singleton]
    exact before.trans (each _ before call (by simp))

theorem run (host : Host W P) (c : Client W P) {calls : List (ClientCall P)}
    (elsewhere : ∀ call ∈ calls, call.concerns uri = false) : LeftAlone uri c (c.run host calls) := by
  apply run_of_each
  intro c' _ call inside
  exact perform host c' (elsewhere call inside)

end LeftAlone

end Client

end LanguageClient
