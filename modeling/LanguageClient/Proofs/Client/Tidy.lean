import LanguageClient.Proofs.Client.Mirror

/-! What makes no sense to a server: that a document is opened which it has open, or changed which it
has not. `Tidy` says that a connection was told nothing of the kind about a document. Versions do not
matter here, so calls that are made one after another are tidy however many changes they make. -/
namespace LanguageClient

def Notice.Suits (known : Option OpenDocument) : Notice → Prop
  | .opened _ => known = none
  | .changed .. => known.isSome = true
  | .closed _ => True

/-- Each notice about the document makes sense where it comes. -/
def Tidy (uri : String) (notices : List Notice) : Prop :=
  ∀ before notice after, notices = before ++ notice :: after → notice.uri = uri →
    notice.Suits ((replay before).get? uri)

theorem Tidy.nil (uri : String) : Tidy uri [] := by
  intro before notice after split
  simp at split

theorem Tidy.concat {uri : String} {notices : List Notice} {notice : Notice} (tidy : Tidy uri notices)
    (suits : notice.uri = uri → notice.Suits ((replay notices).get? uri)) : Tidy uri (notices ++ [notice]) := by
  intro before other after split
  rcases List.eq_nil_or_concat after with rfl | ⟨rest, final, rfl⟩
  · obtain ⟨rfl, last⟩ := List.append_inj' split rfl
    cases last
    exact suits
  · rw [List.concat_eq_append, ← List.cons_append, ← List.append_assoc] at split
    obtain ⟨rfl, _⟩ := List.append_inj' split rfl
    exact tidy before other rest rfl

theorem Notice.get?_apply (view : Table OpenDocument) (notice : Notice) (uri : String) :
    (notice.apply view).get? uri =
      if notice.uri = uri then
        match notice with
        | .opened d => some ⟨d.languageId, d.version, d.text⟩
        | .changed _ version text =>
          (view.get? uri).map fun known => { known with version := version, text := text }
        | .closed _ => none
      else view.get? uri := by
  cases notice with
  | opened d => rw [apply, Table.get?_insert]; simp [Notice.uri, eq_comm]
  | closed other => rw [apply, Table.get?_erase]; simp [Notice.uri, eq_comm]
  | changed other version text =>
    rw [apply]
    by_cases same : other = uri
    · subst same
      cases known : view.get? other <;> simp [Notice.uri, known, Table.get?_insert]
    · cases view.get? other <;> simp [Notice.uri, Table.get?_insert, same, Ne.symm same]

theorem sorted_replay (notices : List Notice) : (replay notices).Sorted := by
  induction notices using List.reverseRecOn with
  | nil => exact List.Pairwise.nil
  | append_singleton notices notice ih =>
    rw [replay_concat]
    cases notice with
    | opened d => exact ih.insert _ _
    | closed uri => exact ih.erase _
    | changed uri version text =>
      rw [Notice.apply]
      split
      · exact ih.insert _ _
      · exact ih

open Client (reopening)

theorem replay_openings (notices : List Notice) (entries : Table OpenDocument) :
    replay (notices ++ entries.map reopening) = (replay notices).extend entries := by
  rw [replay, List.foldl_append, List.foldl_map]
  rfl

theorem Tidy.openings {uri : String} {notices : List Notice} (tidy : Tidy uri notices)
    {entries : Table OpenDocument} (once : entries.keys.Nodup)
    (isClosed : (replay notices).get? uri = none) : Tidy uri (notices ++ entries.map reopening) := by
  induction entries using List.reverseRecOn with
  | nil => simpa using tidy
  | append_singleton entries entry ih =>
    rw [Table.keys, List.map_append, List.nodup_append] at once
    rw [List.map_append, ← List.append_assoc]
    apply (ih once.1).concat
    intro same
    have absent : uri ∉ Table.keys entries := by
      intro inside
      have key : entry.1 = uri := same
      exact once.2.2 uri inside uri (by simp [key]) rfl
    change _ = none
    rw [replay_openings, Table.get?_extend _ once.1, Table.get?_eq_none_of_notMem absent, isClosed]
    rfl

section History
variable {P : Type} [DecidableEq P]

/-- The connection takes every notice as long as it is live. -/
def Heeds (peer : P) (history : List (Happening P)) : Prop :=
  ∀ before notice e after, history = before ++ .refused peer notice e :: after → isLive peer before = false

theorem Reliable.heeds {history : List (Happening P)} (reliable : Reliable history) (peer : P) :
    Heeds peer history :=
  fun before notice e after split => reliable before peer notice e after split

theorem Heeds.of_prefix {peer : P} {history longer : List (Happening P)} (heeds : Heeds peer longer)
    (start : history <+: longer) : Heeds peer history := by
  obtain ⟨more, rfl⟩ := start
  intro before notice e after split
  apply heeds before notice e (after ++ more)
  rw [split, List.append_assoc, List.cons_append]

theorem received_append_delivered (peer other : P) (history : List (Happening P)) (notices : List Notice) :
    received other (history ++ notices.map (.delivered peer)) =
      if peer = other then received other history ++ notices else received other history := by
  induction notices using List.reverseRecOn with
  | nil => simp
  | append_singleton notices notice ih =>
    rw [List.map_append, ← List.append_assoc, List.map_singleton, received_concat, ih]
    by_cases same : peer = other <;> simp [same, Happening.addReceived]

/-- A live connection that takes every notice is told of every document. -/
theorem Client.Reopened.eq_delivered {peer : P} {entries : Table OpenDocument} {more : List (Happening P)}
    (told : Client.Reopened peer entries more) {history : List (Happening P)}
    (live : isLive peer history = true) (heeds : Heeds peer (history ++ more)) :
    more = (entries.map reopening).map (.delivered peer) := by
  induction told generalizing history with
  | nil => rfl
  | delivered entry later ih =>
    rw [List.map_cons, List.map_cons]
    congr 1
    apply @ih (history ++ [.delivered peer (reopening entry)])
    · simpa [Happening.nowLive] using live
    · simpa using heeds
  | refused entry e later ih =>
    have dead := heeds history _ _ _ rfl
    rw [live] at dead
    contradiction

def Tidied (history : List (Happening P)) : Prop := ∀ peer uri, Tidy uri (received peer history)

namespace Tidied

variable {history : List (Happening P)}

private theorem quiet (tidied : Tidied history) (more : List (Happening P)) (silent : ∀ h ∈ more, h.Quiet) :
    Tidied (history ++ more) := by
  intro peer uri
  rw [received_append_quiet peer history silent]
  exact tidied peer uri

private theorem delivered (tidied : Tidied history) (peer : P) (notice : Notice)
    (suits : notice.Suits ((replay (received peer history)).get? notice.uri)) :
    Tidied (history ++ [.delivered peer notice]) := by
  intro other uri
  rw [received_concat, Happening.addReceived]
  by_cases same : peer = other
  · subst same
    rw [if_pos rfl]
    exact (tidied peer uri).concat fun own => own ▸ suits
  · rw [if_neg same]
    exact tidied other uri

private theorem launched (tidied : Tidied history) (peer : P) (server : ServerOptions) (options : ClientOptions) :
    Tidied (history ++ [.launched peer server options]) := by
  intro other uri
  rw [received_concat, Happening.addReceived]
  split
  · exact .nil uri
  · exact tidied other uri

private theorem openings (tidied : Tidied history) {peer : P} {entries : Table OpenDocument}
    (once : entries.keys.Nodup)
    (nothing : received peer history = []) :
    Tidied (history ++ (entries.map reopening).map (.delivered peer)) := by
  intro other uri
  rw [received_append_delivered]
  split
  · next same =>
    subst same
    exact (tidied peer uri).openings once (by rw [nothing]; rfl)
  · exact tidied other uri

end Tidied

end History

namespace Client

variable {W P : Type} [DecidableEq P] {c : Client W P}

theorem InStep.view_eq (inStep : InStep c) {id : Nat} {peer : P} (inUse : c.active = some (id, peer)) :
    replay (received peer c.history) = c.documents :=
  (inStep.mirrored id peer inUse).replayed

private theorem syncDocument_tidied (inStep : InStep c) (tidied : Tidied c.history) (host : Host W P)
    (d : TextDocument) :
    Tidied (c.syncDocument host d).2.history := by
  unfold syncDocument
  cases connected : c.peer? with
  | error e => exact tidied
  | ok peer =>
    obtain ⟨id, inUse⟩ := active_of_peer? connected
    have view := inStep.view_eq inUse
    dsimp only
    split
    · have outcome := c.syncOn_outcome host peer d
      generalize c.syncOn host peer d = result at outcome ⊢
      cases outcome with
      | unchanged => exact tidied
      | opened w isClosed =>
        have told := tidied.delivered peer (.opened ⟨d.uri, d.languageId, 1, d.text⟩) (view ▸ isClosed)
        simpa [after] using told.quiet [.opened d.uri] (by simp [Happening.Quiet])
      | changed w known isOpen =>
        have told := tidied.delivered peer (.changed d.uri (known.version + 1) d.text) (by
          rw [view]
          exact Option.isSome_of_eq_some isOpen)
        simpa [after] using told.quiet [.changed d.uri (known.version + 1)] (by simp [Happening.Quiet])
      | refused => exact tidied.quiet _ (by simp [Happening.Quiet])
    · exact tidied

private theorem closeDocument_tidied (tidied : Tidied c.history) (host : Host W P) (uri : String) :
    Tidied (c.closeDocument host uri).2.history := by
  cases inUse : c.active with
  | none => simpa [closeDocument, peer?, inUse] using tidied
  | some connection =>
    obtain ⟨id, peer⟩ := connection
    have outcome := c.closeDocument_outcome host inUse uri
    generalize c.closeDocument host uri = result at outcome ⊢
    cases outcome with
    | absent => exact tidied
    | done w =>
      have told := tidied.delivered peer (.closed uri) trivial
      simpa [after] using told.quiet [.closed uri] (by simp [Happening.Quiet])
    | refused => exact tidied.quiet _ (by simp [Happening.Quiet])

private theorem refreshOn_tidied (tidied : Tidied c.history) (host : Host W P) (peer : P) (d : TextDocument) :
    Tidied (c.refreshOn host peer d).2.history := by
  have closed := tidied.delivered peer (.closed d.uri) trivial
  have outcome := c.refreshOn_outcome host peer d
  generalize c.refreshOn host peer d = result at outcome ⊢
  cases outcome with
  | done w =>
    have opened := closed.delivered peer (.opened ⟨d.uri, leanLanguage, 1, d.text⟩) (by
      rw [received_concat, Happening.addReceived, if_pos rfl, replay_concat]
      exact Table.get?_erase_self _ _)
    simpa [after] using opened
  | closeRefused e w => exact tidied.quiet _ (by simp [Happening.Quiet])
  | openRefused e w =>
    simpa [after] using closed.quiet [.refused peer (.opened ⟨d.uri, leanLanguage, 1, d.text⟩) e]
      (by simp [Happening.Quiet])

private theorem launchNew_tidied (sorted : c.documents.Sorted) (tidied : Tidied c.history) (host : Host W P)
    (reliable : Reliable (c.launchNew host).2.history) : Tidied (c.launchNew host).2.history := by
  have outcome := c.launchNew_outcome host
  generalize c.launchNew host = result at outcome reliable ⊢
  cases outcome with
  | failed e w => exact tidied.quiet _ (by simp [Happening.Quiet])
  | started peer w =>
    obtain ⟨w', more, opened, told⟩ := (c.launchedOn peer w).reopen_eq host peer
    dsimp only at reliable ⊢
    rw [announce_eq, opened] at reliable ⊢
    simp only [after] at reliable ⊢
    have launched := (tidied.quiet [.launching c.serverOptions] (by simp [Happening.Quiet])).launched
      peer c.serverOptions c.clientOptions
    have live : isLive peer (c.launchedOn peer w).history = true := by
      simp [launchedOn, after, isLive, Happening.nowLive]
    have nothing : received peer (c.launchedOn peer w).history = [] := by
      simp [launchedOn, after, received, Happening.addReceived]
    have same : (c.launchedOn peer w).history = c.history ++ [.launching c.serverOptions] ++
        [.launched peer c.serverOptions c.clientOptions] := by simp [launchedOn, after]
    have begun : (c.launchedOn peer w).history ++ more <+: (c.launchedOn peer w).history ++
        (more ++ [.reopened (renewed (c.launchedOn peer w).documents).length]) := ⟨_, List.append_assoc ..⟩
    have heeds := reliable.heeds peer
    have all := told.eq_delivered live (heeds.of_prefix (begun.trans (List.prefix_append _ _)))
    rw [all]
    rw [← same] at launched
    have once : (renewed c.documents).keys.Nodup := (sorted.mapValues _).nodup_keys
    rw [← List.append_assoc]
    apply ((launched.openings once nothing).quiet [.reopened _] (by simp [Happening.Quiet])).quiet
    simp [Happening.Quiet]

private theorem stoppedOn_tidied (tidied : Tidied c.history) (id : Nat) (peer : P)
    (result : Except ClientError Unit)
    (w : W) : Tidied (c.stoppedOn id peer result w).history := by
  intro other uri
  have silent : received other (c.stoppedOn id peer result w).history = received other c.history := by
    simp [stoppedOn, after, received, Happening.addReceived]
  rw [silent]
  exact tidied other uri

private theorem perform_tidied (inStep : InStep c) (tidied : Tidied c.history) (host : Host W P)
    (call : ClientCall P)
    (reliable : Reliable (c.perform host call).2.history) : Tidied (c.perform host call).2.history := by
  cases call with
  | start | restart =>
    change Reliable (c.restart host).2.history at reliable
    change Tidied (c.restart host).2.history
    have outcome := c.restart_outcome host inStep.started
    generalize c.restart host = result at outcome reliable ⊢
    cases outcome with
    | idle vacant => exact launchNew_tidied inStep.sorted tidied host reliable
    | stopFailed id peer e w inUse => exact stoppedOn_tidied tidied id peer _ w
    | replaced id peer w inUse =>
      have sorted : (c.stoppedOn id peer (.ok ()) w).documents.Sorted := inStep.sorted
      exact launchNew_tidied sorted (stoppedOn_tidied tidied id peer _ w) host reliable
  | stop =>
    change Tidied (c.stop host).2.history
    have outcome := c.stop_outcome host inStep.started
    generalize c.stop host = result at outcome ⊢
    cases outcome with
    | idle vacant => exact tidied
    | stopped id peer result w inUse => exact stoppedOn_tidied tidied id peer result w
  | openDocument d | changeDocument d => exact syncDocument_tidied inStep tidied host d
  | closeDocument uri => exact closeDocument_tidied tidied host uri
  | refreshDependencies d =>
    change Tidied (c.refreshDependencies host d).2.history
    unfold refreshDependencies
    cases c.peer? with
    | error e => exact tidied
    | ok peer =>
      exact refreshOn_tidied (c := c.note (.refreshing d.uri))
        (tidied.quiet [.refreshing d.uri] (by simp [Happening.Quiet])) host peer d
  | goalAt uri position =>
    change Tidied (c.goalAt host uri position).2.history
    unfold goalAt
    cases c.peer? with
    | error e => exact tidied
    | ok peer => exact tidied.quiet [.asked peer goalMethod _] (by simp [Happening.Quiet])
  | publish peer event =>
    obtain ⟨w, heard⟩ := c.publish_eq host peer event
    change Tidied (c.publish host peer event).history
    rw [heard]
    exact tidied.quiet _ (by simp [Happening.Quiet])
  | publishedDiagnostics | onRestarted | removeRestarted | onDiagnostics | removeDiagnostics => exact tidied

theorem run_tidied (host : Host W P) (settings : ServerSettings) (root : String) (world : W)
    (calls : List (ClientCall P)) (reliable : Reliable ((Client.new settings root world).run host calls).history) :
    Tidied ((Client.new settings root world).run host calls).history := by
  induction calls using List.reverseRecOn with
  | nil => exact fun _ uri => .nil uri
  | append_singleton calls call ih =>
    rw [run_append_singleton] at reliable ⊢
    have earlier := reliable.of_prefix (perform_grows host _ call)
    have inStep := (InStep.new settings root world).run host calls earlier
    exact perform_tidied inStep (ih earlier) host call reliable

end Client

end LanguageClient
