import LanguageClient.Client.Rehearsal
import LanguageClient.Proofs.Client.Mirror

/-! A document that is to be refreshed and is not. The table is left as it was. That is right when the
closing of the document was refused; when it was delivered and the opening was refused, the server has
closed what the table, if the document was in it, still holds open. -/
namespace LanguageClient.Client

variable {W P : Type} [DecidableEq P]

/-- The table holds what the connection has open, by the notices that were delivered to it. -/
def Agrees (peer : P) (c : Client W P) : Prop := replay (received peer c.history) = c.documents

/-- How a failed refresh leaves a client. -/
inductive Unrefreshed (c : Client W P) (peer : P) (d : TextDocument) (e : ClientError) (c' : Client W P) : Prop
  /-- The document was not closed, and the server has open what it had before. -/
  | stillOpen
      (told : c'.history = c.history ++ [.refreshing d.uri, .refused peer (.closed d.uri) e])
      (view : replay (received peer c'.history) = replay (received peer c.history))
      (keeps : Agrees peer c → Agrees peer c')
  /-- The document was closed, which the table does not know. -/
  | closed
      (told : c'.history = c.history ++ [.refreshing d.uri, .delivered peer (.closed d.uri),
        .refused peer (.opened ⟨d.uri, leanLanguage, 1, d.text⟩) e])
      (view : replay (received peer c'.history) = (replay (received peer c.history)).erase d.uri)
      (keeps : Agrees peer c → (Agrees peer c' ↔ c.documents.get? d.uri = none))

private theorem Unrefreshed.of_stillOpen {c c' : Client W P} {peer : P} {d : TextDocument} {e : ClientError}
    (documents : c'.documents = c.documents)
    (told : c'.history = c.history ++ [.refreshing d.uri, .refused peer (.closed d.uri) e]) :
    Unrefreshed c peer d e c' := by
  have heard : received peer c'.history = received peer c.history := by
    rw [told, received_append_quiet peer _ (by simp [Happening.Quiet])]
  refine .stillOpen told (by rw [heard]) fun agrees => ?_
  rw [Agrees, heard, documents]
  exact agrees

private theorem Unrefreshed.of_closed {c c' : Client W P} {peer : P} {d : TextDocument} {e : ClientError}
    (documents : c'.documents = c.documents)
    (told : c'.history = c.history ++ [.refreshing d.uri, .delivered peer (.closed d.uri),
      .refused peer (.opened ⟨d.uri, leanLanguage, 1, d.text⟩) e]) :
    Unrefreshed c peer d e c' := by
  have heard : received peer c'.history = received peer c.history ++ [.closed d.uri] := by
    rw [told]
    simp [received, Happening.addReceived]
  have view : replay (received peer c'.history) = (replay (received peer c.history)).erase d.uri := by
    rw [heard, replay_concat, Notice.apply]
  refine .closed told view fun agrees => ?_
  rw [Agrees, view, documents, agrees]
  exact Table.erase_eq_self_iff _ _

/-- A failed refresh leaves the table as it was, and that is what the server has open unless the server
was told to close a document of the table. -/
theorem refreshDependencies_failed (host : Host W P) (c : Client W P) {id : Nat} {peer : P}
    (inUse : c.active = some (id, peer)) (d : TextDocument) {e : ClientError}
    (failed : (c.refreshDependencies host d).1 = .error e) :
    (c.refreshDependencies host d).2.documents = c.documents ∧
      Unrefreshed c peer d e (c.refreshDependencies host d).2 := by
  have connected : c.peer? = .ok peer := by rw [peer?, inUse]
  have refreshed : c.refreshDependencies host d = (c.note (.refreshing d.uri)).refreshOn host peer d := by
    rw [refreshDependencies, connected]
  rw [refreshed] at failed ⊢
  have outcome := (c.note (.refreshing d.uri)).refreshOn_outcome host peer d
  generalize (c.note (.refreshing d.uri)).refreshOn host peer d = result at outcome failed ⊢
  cases outcome with
  | done => cases failed
  | closeRefused =>
    cases failed
    exact ⟨rfl, .of_stillOpen rfl (by simp [note, after])⟩
  | openRefused =>
    cases failed
    exact ⟨rfl, .of_closed rfl (by simp [note, after])⟩

def obstructed (methods : List String) : Client Rehearsal.World Nat :=
  let c := (Client.new .default "/work" .new).run Rehearsal.host
    [.start, .openDocument ⟨"file:///a.lean", "lean4", 1, "a"⟩]
  { c with world := { c.world with policy := { c.world.policy with failMethods := methods } } }

def rebuilt : TextDocument := ⟨"file:///a.lean", "lean4", 2, "b"⟩

def refreshed (methods : List String) : Except ClientError Unit × Client Rehearsal.World Nat :=
  (obstructed methods).refreshDependencies Rehearsal.host rebuilt

private theorem agrees_obstructed (methods : List String) : Agrees 0 (obstructed methods) := by
  have settled : replay (received 0 (obstructed []).history) = (obstructed []).documents := by decide
  exact settled

theorem refreshDependencies_failed_obstructed :
    (refreshed ["textDocument/didClose"]).1 = .error .notConnected ∧
    Agrees 0 (refreshed ["textDocument/didClose"]).2 ∧
    (refreshed ["textDocument/didOpen"]).1 = .error .notConnected ∧
    (refreshed ["textDocument/didOpen"]).2.documents = (obstructed ["textDocument/didOpen"]).documents ∧
    ¬Agrees 0 (refreshed ["textDocument/didOpen"]).2 := by
  have inUse (methods : List String) : (obstructed methods).active = some (1, 0) := rfl
  have unclosed : (refreshed ["textDocument/didClose"]).1 = .error .notConnected := by decide
  have unopened : (refreshed ["textDocument/didOpen"]).1 = .error .notConnected := by decide
  obtain ⟨-, left⟩ := refreshDependencies_failed Rehearsal.host _ (inUse _) rebuilt unclosed
  obtain ⟨documents, leftClosed⟩ := refreshDependencies_failed Rehearsal.host _ (inUse _) rebuilt unopened
  refine ⟨unclosed, ?_, unopened, documents, ?_⟩
  · cases left with
    | stillOpen _ _ keeps => exact keeps (agrees_obstructed _)
    | closed told => cases congrArg List.length told
  · cases leftClosed with
    | stillOpen told => cases congrArg List.length told
    | closed _ _ keeps => exact mt (keeps (agrees_obstructed _)).1 (by decide)

/-- A document that is closed and not opened again is still in the table. -/
theorem closed_kept :
    ¬∀ (c : Client Rehearsal.World Nat) (id peer : Nat) (d : TextDocument) (e : ClientError),
      c.active = some (id, peer) → (c.refreshDependencies Rehearsal.host d).1 = .error e → Agrees peer c →
      Agrees peer (c.refreshDependencies Rehearsal.host d).2 := by
  intro always
  have agrees := always (obstructed ["textDocument/didOpen"]) 1 0 rebuilt .notConnected rfl (by decide)
    (agrees_obstructed _)
  have view : replay (received 0 (refreshed ["textDocument/didOpen"]).2.history) = [] := by decide
  have table : (refreshed ["textDocument/didOpen"]).2.documents = [("file:///a.lean", ⟨"lean4", 1, "a"⟩)] := by
    decide
  rw [Agrees] at agrees
  change replay (received 0 (refreshed ["textDocument/didOpen"]).2.history) =
    (refreshed ["textDocument/didOpen"]).2.documents at agrees
  rw [view, table] at agrees
  cases agrees

end LanguageClient.Client
