import LanguageClient.Proofs.Client.Elsewhere
import LanguageClient.Proofs.Client.Refreshing

/-! A document that is to be closed and is not. It leaves the table before the server is told, so the
table has lost it when the server refuses to hear of it. From then on the client takes it for closed: it
is not closed again, and it is opened a second time. -/
namespace LanguageClient.Client

variable {W P : Type}

private theorem closeDocument_untracked (host : Host W P) (c : Client W P) {id : Nat} {peer : P}
    (inUse : c.active = some (id, peer)) {uri : String} (untracked : c.documents.get? uri = none) :
    c.closeDocument host uri = (.ok false, c) := by
  have outcome := c.closeDocument_outcome host inUse uri
  generalize c.closeDocument host uri = result at outcome ⊢
  cases outcome with
  | absent => rfl
  | done w known isOpen | refused e w known isOpen =>
    rw [untracked] at isOpen
    contradiction

/-- Closing a document that the table does not have leaves everything as it is. -/
theorem LeftAlone.run_untracked (host : Host W P) {c : Client W P} {id : Nat} {peer : P} {uri : String}
    (inUse : c.active = some (id, peer)) (untracked : c.documents.get? uri = none)
    {calls : List (ClientCall P)}
    (elsewhere : ∀ call ∈ calls, call.concerns uri = true → call = .closeDocument uri) :
    LeftAlone uri c (c.run host calls) := by
  apply run_of_each
  intro c' reached call inside
  cases concerned : call.concerns uri with
  | false => exact .perform host c' concerned
  | true =>
    rw [elsewhere call inside concerned]
    change LeftAlone uri c' (c'.closeDocument host uri).2
    rw [closeDocument_untracked host c' (reached.active.trans inUse) (reached.entry.trans untracked)]
    exact .refl c'

/-- The client takes the document for closed. -/
structure Forgets (host : Host W P) (peer : P) (uri : String) (c : Client W P) : Prop where
  retry : c.closeDocument host uri = (.ok false, c)
  opening : ∀ d, d.uri = uri → c.selects d = true →
    (host.notify peer (.opened ⟨uri, d.languageId, 1, d.text⟩) c.world).1 = .ok () →
    (c.openDocument host d).1 = .ok true ∧ c.changeDocument host d = c.openDocument host d ∧
    (c.openDocument host d).2.history =
      c.history ++ [.delivered peer (.opened ⟨uri, d.languageId, 1, d.text⟩), .opened uri]

private theorem Forgets.of_untracked (host : Host W P) {c : Client W P} {id : Nat} {peer : P} {uri : String}
    (inUse : c.active = some (id, peer)) (untracked : c.documents.get? uri = none) :
    Forgets host peer uri c where
  retry := closeDocument_untracked host c inUse untracked
  opening d about passes accepted := by
    subst about
    have synchronized : c.openDocument host d = c.syncOn host peer d := syncDocument_selected host inUse passes
    obtain ⟨w, sent⟩ := notify_accepted host c peer _ accepted
    have opened : c.syncOn host peer d =
        (.ok true, { c.after w [.delivered peer (.opened ⟨d.uri, d.languageId, 1, d.text⟩), .opened d.uri] with
          documents := c.documents.insert d.uri ⟨d.languageId, 1, d.text⟩ }) := by
      rw [syncOn, untracked]
      dsimp only [OpenDocument.toDocument]
      rw [sent]
      simp [note, after]
    rw [synchronized, opened]
    exact ⟨rfl, synchronized.trans opened, rfl⟩

/-- A closing that is refused takes the document out of the table, while the server has what it had. If the
table was right before, the server has the document open. Until the client is started or stopped, or the
document is opened or changed, it can be closed as often as one likes and nothing happens; then it is
opened, of which the server is told although it has the document. -/
theorem closeDocument_failed [DecidableEq P] (host : Host W P) (c : Client W P) {id : Nat} {peer : P}
    (inUse : c.active = some (id, peer)) (uri : String) {e : ClientError} {c' : Client W P}
    (failed : c.closeDocument host uri = (.error e, c')) : ∃ known, c.documents.get? uri = some known ∧
      c'.documents = c.documents.erase uri ∧
      c'.history = c.history ++ [.refused peer (.closed uri) e] ∧
      (Agrees peer c → serverEntry peer uri c'.history = some known ∧ ¬Agrees peer c') ∧
      ∀ calls, (∀ call ∈ calls, call.concerns uri = true → call = .closeDocument uri) →
        Forgets host peer uri (c'.run host calls) ∧
        serverEntry peer uri (c'.run host calls).history = serverEntry peer uri c.history := by
  have outcome := c.closeDocument_outcome host inUse uri
  rw [failed] at outcome
  cases outcome with
  | refused e w known isOpen =>
    refine ⟨known, isOpen, rfl, rfl, ?_, ?_⟩
    · intro agrees
      have heard : received peer (c.history ++ [.refused peer (.closed uri) e]) = received peer c.history :=
        received_append_quiet peer _ (by simp [Happening.Quiet])
      have kept : replay (received peer (c.history ++ [.refused peer (.closed uri) e])) = c.documents := by
        rw [heard]
        exact agrees
      refine ⟨?_, ?_⟩
      · rw [serverEntry, after, kept]
        exact isOpen
      · intro still
        have same : c.documents.erase uri = c.documents := still.symm.trans kept
        rw [Table.erase_eq_self_iff, isOpen] at same
        contradiction
    · intro calls elsewhere
      have untracked : (c.documents.erase uri).get? uri = none := Table.get?_erase_self _ _
      have spared : LeftAlone uri _ (run host _ calls) :=
        .run_untracked host (c := { c.after w [.refused peer (.closed uri) e] with
          documents := c.documents.erase uri }) inUse untracked elsewhere
      refine ⟨.of_untracked host (spared.active.trans inUse) (spared.entry.trans untracked), ?_⟩
      rw [spared.serverEntry_eq]
      exact serverEntry_append peer c.history (by simp [Happening.Spares])

def unclosed : Except ClientError Bool × Client Rehearsal.World Nat :=
  (obstructed ["textDocument/didClose"]).closeDocument Rehearsal.host "file:///a.lean"

theorem closeDocument_failed_obstructed :
    unclosed.1 = .error .notConnected ∧ unclosed.2.documents = [] ∧
    unclosed.2.closeDocument Rehearsal.host "file:///a.lean" = (.ok false, unclosed.2) ∧
    (unclosed.2.openDocument Rehearsal.host rebuilt).1 = .ok true ∧
    received 0 (unclosed.2.openDocument Rehearsal.host rebuilt).2.history =
      [.opened ⟨"file:///a.lean", "lean4", 1, "a"⟩, .opened ⟨"file:///a.lean", "lean4", 1, "b"⟩] := by
  have inUse : (obstructed ["textDocument/didClose"]).active = some (1, 0) := rfl
  have refused : unclosed.1 = .error .notConnected := by decide
  have failed : (obstructed ["textDocument/didClose"]).closeDocument Rehearsal.host "file:///a.lean" =
      (.error .notConnected, unclosed.2) := Prod.ext refused rfl
  obtain ⟨known, -, documents, told, -, later⟩ :=
    closeDocument_failed Rehearsal.host _ inUse "file:///a.lean" failed
  obtain ⟨forgets, -⟩ := later [] (by simp)
  obtain ⟨value, -, opened⟩ := forgets.opening rebuilt rfl (by decide) (by decide)
  have first : received 0 unclosed.2.history = [.opened ⟨"file:///a.lean", "lean4", 1, "a"⟩] := by decide
  refine ⟨refused, documents.trans (by decide), forgets.retry, value, ?_⟩
  rw [run_nil] at opened
  rw [opened, List.append_cons, received_concat, received_concat, first]
  rfl

/-- The table is not what it was before a closing that is refused. -/
theorem unclosed_dropped :
    ¬∀ (c c' : Client Rehearsal.World Nat) (id peer : Nat) (uri : String) (e : ClientError),
      c.active = some (id, peer) → c.closeDocument Rehearsal.host uri = (.error e, c') →
      c'.documents = c.documents := by
  intro always
  have failed : unclosed = (.error .notConnected, unclosed.2) := Prod.ext (by decide) rfl
  have kept := always (obstructed ["textDocument/didClose"]) unclosed.2 1 0 "file:///a.lean" .notConnected rfl failed
  have dropped : unclosed.2.documents = [] := by decide
  have before : (obstructed ["textDocument/didClose"]).documents = [("file:///a.lean", ⟨"lean4", 1, "a"⟩)] := by
    decide
  rw [dropped, before] at kept
  contradiction

end LanguageClient.Client
