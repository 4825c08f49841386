import LanguageClient.Proofs.Client.Outcome
import LanguageClient.Proofs.Client.Replay

/-! Documents that are opened and changed while some of the notices are refused. What an accepted call comes to
depends on the table alone, and a call that is refused leaves the table as it is; so the calls that are
refused might as well not have been made. -/
namespace LanguageClient

/-- A call that brings the server up to date with a document. -/
inductive SyncCall where
  | openDocument (document : TextDocument)
  | changeDocument (document : TextDocument)
  deriving DecidableEq, Repr

def SyncCall.document : SyncCall → TextDocument
  | .openDocument d | .changeDocument d => d

variable {W P : Type}

def heeded (history : List (Happening P)) : List (Happening P) := history.filter fun h => !h.isRefused

private theorem heeded_append (history more : List (Happening P)) :
    heeded (history ++ more) = heeded history ++ heeded more := List.filter_append ..

private theorem received_heeded [DecidableEq P] (peer : P) (history : List (Happening P)) :
    received peer (heeded history) = received peer history := by
  induction history using List.reverseRecOn with
  | nil => rfl
  | append_singleton history h ih =>
    rw [heeded_append]
    cases h with
    | refused => simpa [heeded, Happening.isRefused, Happening.addReceived] using ih
    | _ => simp [heeded, Happening.isRefused] at ih ⊢; rw [ih]

namespace Client

variable {c c' : Client W P}

def performSync (host : Host W P) (c : Client W P) : SyncCall → Except ClientError Bool × Client W P
  | .openDocument d => c.openDocument host d
  | .changeDocument d => c.changeDocument host d

private theorem performSync_eq (host : Host W P) (c : Client W P) (call : SyncCall) :
    c.performSync host call = c.syncDocument host call.document := by
  cases call <;> rfl

/-- The client after calls that are made one after another. -/
def runSync (host : Host W P) (c : Client W P) (calls : List SyncCall) : Client W P :=
  calls.foldl (fun c call => (c.performSync host call).2) c

/-- Calls that are made one after another, each with what it comes to. -/
def syncAnswers (host : Host W P) (c : Client W P) : List SyncCall → List (SyncCall × Except ClientError Bool)
  | [] => []
  | call :: rest => (call, (c.performSync host call).1) :: (c.performSync host call).2.syncAnswers host rest

/-- The answers without those that are errors. -/
def accepted (answers : List (SyncCall × Except ClientError Bool)) : List (SyncCall × Except ClientError Bool) :=
  answers.filter fun answer => answer.2.isOk

private theorem runSync_cons (host : Host W P) (c : Client W P) (call : SyncCall) (rest : List SyncCall) :
    c.runSync host (call :: rest) = (c.performSync host call).2.runSync host rest := rfl

private theorem runSync_concat (host : Host W P) (c : Client W P) (calls : List SyncCall) (call : SyncCall) :
    c.runSync host (calls ++ [call]) = ((c.runSync host calls).performSync host call).2 := by
  rw [runSync, List.foldl_append]
  rfl

private theorem accepted_cons_error {host : Host W P} {call : SyncCall} {e : ClientError}
    (failed : c.performSync host call = (.error e, c')) (rest : List SyncCall) :
    accepted (c.syncAnswers host (call :: rest)) = accepted (c'.syncAnswers host rest) := by
  rw [syncAnswers, failed]
  rfl

private theorem accepted_cons_ok {host : Host W P} {call : SyncCall} {value : Bool}
    (done : c.performSync host call = (.ok value, c')) (rest : List SyncCall) :
    accepted (c.syncAnswers host (call :: rest)) = (call, .ok value) :: accepted (c'.syncAnswers host rest) := by
  rw [syncAnswers, done]
  rfl

structure Update (P : Type) where
  value : Bool
  told : List (Happening P)
  documents : Table OpenDocument

def updateOn (peer : P) (documents : Table OpenDocument) (d : TextDocument) : Update P :=
  match documents.get? d.uri with
  | none => ⟨true, [.delivered peer (.opened ⟨d.uri, d.languageId, 1, d.text⟩), .opened d.uri],
      documents.insert d.uri ⟨d.languageId, 1, d.text⟩⟩
  | some known =>
    if known.text = d.text then ⟨false, [], documents⟩
    else ⟨true, [.delivered peer (.changed d.uri (known.version + 1) d.text), .changed d.uri (known.version + 1)],
      documents.insert d.uri { known with version := known.version + 1, text := d.text }⟩

def updateBy (c : Client W P) (d : TextDocument) : Update P :=
  match c.peer? with
  | .error _ => ⟨false, [], c.documents⟩
  | .ok peer => if c.selects d then updateOn peer c.documents d else ⟨false, [], c.documents⟩

private theorem syncOn_accepted {host : Host W P} {peer : P} {d : TextDocument} {value : Bool}
    (done : c.syncOn host peer d = (.ok value, c')) : value = (updateOn peer c.documents d).value ∧
      ∃ w, c' = { c.after w (updateOn peer c.documents d).told with
        documents := (updateOn peer c.documents d).documents } := by
  have outcome := c.syncOn_outcome host peer d
  rw [done] at outcome
  unfold updateOn
  cases outcome with
  | unchanged known isOpen same =>
    rw [isOpen]
    dsimp only
    rw [if_pos same]
    exact ⟨rfl, c.world, by rw [after_self]⟩
  | opened w isClosed =>
    rw [isClosed]
    exact ⟨rfl, w, rfl⟩
  | changed w known isOpen differs =>
    rw [isOpen]
    dsimp only
    rw [if_neg differs]
    exact ⟨rfl, w, rfl⟩

/-- An accepted call makes the update. -/
theorem performSync_accepted {host : Host W P} {call : SyncCall} {value : Bool}
    (done : c.performSync host call = (.ok value, c')) : value = (c.updateBy call.document).value ∧
      ∃ w, c' = { c.after w (c.updateBy call.document).told with
        documents := (c.updateBy call.document).documents } := by
  rw [performSync_eq, syncDocument] at done
  unfold updateBy
  cases connected : c.peer? with
  | error e =>
    rw [connected] at done
    cases done
  | ok peer =>
    rw [connected] at done
    dsimp only at done ⊢
    split at done
    · next passes =>
      rw [if_pos passes]
      exact syncOn_accepted done
    · next stops =>
      rw [if_neg stops]
      cases done
      exact ⟨rfl, c.world, by rw [after_self]⟩

/-- A refused call changes nothing but the world, and nothing is delivered. -/
theorem performSync_refused {host : Host W P} {call : SyncCall} {e : ClientError}
    (failed : c.performSync host call = (.error e, c')) :
    ∃ w more, c' = c.after w more ∧ heeded more = [] := by
  rw [performSync_eq, syncDocument] at failed
  cases connected : c.peer? with
  | error cause =>
    rw [connected] at failed
    cases failed
    exact ⟨c.world, [], (after_self c).symm, rfl⟩
  | ok peer =>
    rw [connected] at failed
    dsimp only at failed
    split at failed
    · have outcome := c.syncOn_outcome host peer call.document
      rw [failed] at outcome
      cases outcome with
      | refused e w notice => exact ⟨w, _, rfl, rfl⟩
    · cases failed

/-- The clients differ in nothing that counts for a document, nor in what their connections were told. -/
structure Alike (c c' : Client W P) : Prop where
  selector : c'.selector = c.selector
  active : c'.active = c.active
  documents : c'.documents = c.documents
  history : heeded c'.history = heeded c.history

namespace Alike

private theorem update (alike : Alike c c') (d : TextDocument) : c'.updateBy d = c.updateBy d := by
  rw [updateBy, peer?, selects, alike.active, alike.selector, alike.documents]
  rfl

private theorem refused (alike : Alike c c') {host : Host W P} {call : SyncCall} {e : ClientError}
    {left : Client W P}
    (failed : c.performSync host call = (.error e, left)) : Alike left c' := by
  obtain ⟨w, more, rfl, silent⟩ := performSync_refused failed
  refine ⟨alike.selector, alike.active, alike.documents, ?_⟩
  rw [alike.history, after, heeded_append, silent, List.append_nil]

/-- A call that both accept has the same value and leaves them alike. -/
theorem accepted (alike : Alike c c') {host other : Host W P} {call : SyncCall} {value value' : Bool}
    {left left' : Client W P} (done : c.performSync host call = (.ok value, left))
    (done' : c'.performSync other call = (.ok value', left')) : value' = value ∧ Alike left left' := by
  obtain ⟨rfl, w, rfl⟩ := performSync_accepted done
  obtain ⟨rfl, w', rfl⟩ := performSync_accepted done'
  rw [alike.update]
  refine ⟨rfl, alike.selector, alike.active, rfl, ?_⟩
  rw [after, after, heeded_append, heeded_append, alike.history]

/-- Leaving out what one run refuses makes the same run, where nothing is refused. -/
theorem run (alike : Alike c c') (host other : Host W P) (calls : List SyncCall)
    (heard : ∀ answer ∈ c'.syncAnswers other ((Client.accepted (c.syncAnswers host calls)).map Prod.fst),
      answer.2.isOk = true) :
    c'.syncAnswers other ((Client.accepted (c.syncAnswers host calls)).map Prod.fst) =
      Client.accepted (c.syncAnswers host calls) ∧
    Alike (c.runSync host calls)
      (c'.runSync other ((Client.accepted (c.syncAnswers host calls)).map Prod.fst)) := by
  induction calls generalizing c c' with
  | nil => exact ⟨rfl, alike⟩
  | cons call rest ih =>
    rw [runSync_cons]
    rcases outcome : c.performSync host call with ⟨e | value, left⟩
    · rw [accepted_cons_error outcome] at heard ⊢
      exact ih (alike.refused outcome) heard
    · rw [accepted_cons_ok outcome, List.map_cons, syncAnswers] at heard ⊢
      rw [runSync_cons]
      rcases outcome' : c'.performSync other call with ⟨e | value', left'⟩
      · have first := heard _ List.mem_cons_self
        rw [outcome'] at first
        contradiction
      · rw [outcome'] at heard
        obtain ⟨rfl, next⟩ := alike.accepted outcome outcome'
        obtain ⟨answers, last⟩ := ih next fun answer inside => heard answer (List.mem_cons_of_mem _ inside)
        exact ⟨by rw [answers], last⟩

end Alike

/-- A call that is refused leaves the table as it is. Where the calls that are refused are not made, and the
others are accepted again, these come to the same, the same notices go out and the same table is left. -/
theorem syncAnswers_omitting [DecidableEq P] (host : Host W P) (c : Client W P) (calls : List SyncCall) :
    (∀ before call after e, calls = before ++ call :: after →
      ((c.runSync host before).performSync host call).1 = .error e →
      (c.runSync host (before ++ [call])).documents = (c.runSync host before).documents) ∧
    ∀ (other : Host W P) (world : W) (fewer : List SyncCall),
      fewer = (accepted (c.syncAnswers host calls)).map Prod.fst →
      (∀ answer ∈ { c with world := world }.syncAnswers other fewer, answer.2.isOk = true) →
      { c with world := world }.syncAnswers other fewer = accepted (c.syncAnswers host calls) ∧
      (∀ peer, received peer ({ c with world := world }.runSync other fewer).history =
        received peer (c.runSync host calls).history) ∧
      ({ c with world := world }.runSync other fewer).documents = (c.runSync host calls).documents := by
  refine ⟨?_, ?_⟩
  · intro before call after e _ failed
    obtain ⟨w, more, left, -⟩ := performSync_refused (Prod.ext failed rfl)
    have unchanged := congrArg Client.documents left
    rw [runSync_concat]
    exact unchanged
  · intro other world fewer omitting heard
    subst omitting
    have start : Alike c { c with world := world } := ⟨rfl, rfl, rfl, rfl⟩
    obtain ⟨answers, alike⟩ := start.run host other calls heard
    refine ⟨answers, ?_, alike.documents⟩
    intro peer
    rw [← received_heeded, alike.history, received_heeded]

def countingHost (accepts : Nat → Bool) : Host Nat Nat where
  launch _ _ n := (.ok 0, n)
  notify _ _ n := (if accepts n then .ok () else .error .notConnected, n + 1)
  request _ _ _ n := (.ok .null, n)
  diagnostics _ _ _ := []
  store _ _ n := n
  stop _ n := (.ok (), n)

def fickle : Host Nat Nat := countingHost fun n => n % 2 = 0

def steady : Host Nat Nat := countingHost fun _ => true

def edited (name text : String) : TextDocument := ⟨"file:///" ++ name, "lean4", 7, text⟩

/-- The second and the fourth of these calls are refused; the fifth has no notice to give. -/
def edits : List SyncCall :=
  [.changeDocument (edited "a.lean" "a"), .changeDocument (edited "a.lean" "b"),
    .changeDocument (edited "a.lean" "c"), .openDocument (edited "b.lean" "b"),
    .changeDocument (edited "a.lean" "c"), .openDocument (edited "b.lean" "b")]

theorem syncAnswers_omitting_edits :
    let c := (Client.new .default "/work" 0).run fickle [.start]
    (c.runSync fickle (edits.take 2)).documents = (c.runSync fickle (edits.take 1)).documents ∧
    accepted (c.syncAnswers fickle edits) =
      [(.changeDocument (edited "a.lean" "a"), .ok true), (.changeDocument (edited "a.lean" "c"), .ok true),
        (.changeDocument (edited "a.lean" "c"), .ok false), (.openDocument (edited "b.lean" "b"), .ok true)] ∧
    received 0 (c.runSync fickle edits).history =
      [.opened ⟨"file:///a.lean", "lean4", 1, "a"⟩, .changed "file:///a.lean" 2 "c",
        .opened ⟨"file:///b.lean", "lean4", 1, "b"⟩] ∧
    (c.runSync fickle edits).documents =
      [("file:///a.lean", ⟨"lean4", 2, "c"⟩), ("file:///b.lean", ⟨"lean4", 1, "b"⟩)] := by
  intro c
  obtain ⟨keeps, same⟩ := syncAnswers_omitting fickle c edits
  have kept := keeps (edits.take 1) (.changeDocument (edited "a.lean" "b")) (edits.drop 2) .notConnected rfl
    (by decide)
  let fewer : List SyncCall :=
    [.changeDocument (edited "a.lean" "a"), .changeDocument (edited "a.lean" "c"),
      .changeDocument (edited "a.lean" "c"), .openDocument (edited "b.lean" "b")]
  obtain ⟨answers, told, table⟩ := same steady 0 fewer (by decide) (by decide)
  refine ⟨kept, ?_, ?_, ?_⟩
  · rw [← answers]
    decide
  · rw [← told]
    decide
  · rw [← table]
    decide

end Client

end LanguageClient
