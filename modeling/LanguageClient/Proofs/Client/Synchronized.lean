import LanguageClient.Proofs.Client.Course
import LanguageClient.Proofs.Table

/-! What was last sent of a document. The table of open documents holds for each the language and the
text that a server was last told of, over all the connections that there ever were and whatever
notices were refused; opening the table anew on a connection sends the same once more. -/
namespace LanguageClient

def Notice.synchronize (uri : String) (last : Option (String × String)) :
    Notice → Option (String × String)
  | .opened d => if d.uri = uri then some (d.languageId, d.text) else last
  | .changed other _ text => if other = uri then last.map fun sent => (sent.1, text) else last
  | .closed _ => last

variable {P : Type}

def Happening.delivered? : Happening P → Option Notice
  | .delivered _ notice => some notice
  | _ => none

/-- The language and the text of a document as a server was last told of them. -/
def lastSynchronized (uri : String) (history : List (Happening P)) : Option (String × String) :=
  (history.filterMap Happening.delivered?).foldl (Notice.synchronize uri) none

private theorem lastSynchronized_append (uri : String) (history more : List (Happening P)) :
    lastSynchronized uri (history ++ more) =
      (more.filterMap Happening.delivered?).foldl (Notice.synchronize uri) (lastSynchronized uri history) := by
  rw [lastSynchronized, List.filterMap_append, List.foldl_append]
  rfl

private theorem lastSynchronized_append_quiet (uri : String) (history : List (Happening P))
    {more : List (Happening P)} (quiet : ∀ h ∈ more, h.delivered? = none) :
    lastSynchronized uri (history ++ more) = lastSynchronized uri history := by
  rw [lastSynchronized_append, List.filterMap_eq_nil_iff.2 quiet]
  rfl

namespace Client

variable {W : Type} {c c' : Client W P}

structure Synchronized (c : Client W P) : Prop where
  sorted : c.documents.Sorted
  sent : ∀ uri known, c.documents.get? uri = some known →
    lastSynchronized uri c.history = some (known.languageId, known.text)

/-- Opening documents anew sends what was sent before. -/
theorem Reopened.lastSynchronized_eq {peer : P} {entries : Table OpenDocument}
    {more history : List (Happening P)} (told : Reopened peer entries more)
    (sent : ∀ entry ∈ entries, lastSynchronized entry.1 history = some (entry.2.languageId, entry.2.text))
    (uri : String) : lastSynchronized uri (history ++ more) = lastSynchronized uri history := by
  rw [lastSynchronized_append]
  induction told with
  | nil => rfl
  | delivered entry later ih =>
    have same : Notice.synchronize uri (lastSynchronized uri history) (reopening entry) =
        lastSynchronized uri history := by
      simp only [reopening, OpenDocument.toDocument, Notice.synchronize]
      split
      · next about =>
        rw [← about]
        exact (sent entry (by simp)).symm
      · rfl
    simpa [List.filterMap_cons, Happening.delivered?, same] using ih fun e inside => sent e (by simp [inside])
  | refused entry e later ih =>
    simpa [List.filterMap_cons, Happening.delivered?] using ih fun e inside => sent e (by simp [inside])

namespace Synchronized

private theorem quiet (synchronized : Synchronized c) (kept : c'.documents = c.documents)
    (more : List (Happening P)) (grown : c'.history = c.history ++ more)
    (quiet : ∀ h ∈ more, h.delivered? = none) : Synchronized c' := by
  refine ⟨kept ▸ synchronized.sorted, fun uri known isOpen => ?_⟩
  rw [grown, lastSynchronized_append_quiet uri _ quiet]
  exact synchronized.sent uri known (kept ▸ isOpen)

/-- A document goes into the table as it was just sent. -/
theorem inserted (synchronized : Synchronized c) (w : W) (more : List (Happening P)) (uri : String)
    (document : OpenDocument)
    (sent : lastSynchronized uri (c.history ++ more) = some (document.languageId, document.text))
    (others : ∀ other, uri ≠ other →
      lastSynchronized other (c.history ++ more) = lastSynchronized other c.history) :
    Synchronized { c.after w more with documents := c.documents.insert uri document } := by
  refine ⟨synchronized.sorted.insert _ _, fun other known isOpen => ?_⟩
  change (c.documents.insert uri document).get? other = some known at isOpen
  rw [Table.get?_insert] at isOpen
  change lastSynchronized other (c.history ++ more) = _
  by_cases same : other = uri
  · rw [if_pos same] at isOpen
    cases isOpen
    rw [same, sent]
  · rw [if_neg same] at isOpen
    rw [others other (Ne.symm same), synchronized.sent other known isOpen]

private theorem syncOn (synchronized : Synchronized c) (host : Host W P) (peer : P) (d : TextDocument) :
    Synchronized (c.syncOn host peer d).2 := by
  have outcome := c.syncOn_outcome host peer d
  generalize c.syncOn host peer d = result at outcome ⊢
  cases outcome with
  | unchanged known isOpen same => exact synchronized
  | refused e w notice => exact synchronized.quiet rfl _ rfl (by simp [Happening.delivered?])
  | opened w isClosed =>
    apply synchronized.inserted w
    · simp [lastSynchronized_append, List.filterMap_cons, Happening.delivered?, Notice.synchronize]
    · intro other differs
      simp [lastSynchronized_append, List.filterMap_cons, Happening.delivered?, Notice.synchronize, differs]
  | changed w before wasOpen differs =>
    have last := synchronized.sent d.uri before wasOpen
    apply synchronized.inserted w
    · simp [lastSynchronized_append, List.filterMap_cons, Happening.delivered?, Notice.synchronize, last]
    · intro other elsewhere
      simp [lastSynchronized_append, List.filterMap_cons, Happening.delivered?, Notice.synchronize, elsewhere]

private theorem refreshOn (synchronized : Synchronized c) (host : Host W P) (peer : P) (d : TextDocument) :
    Synchronized (c.refreshOn host peer d).2 := by
  have outcome := c.refreshOn_outcome host peer d
  generalize c.refreshOn host peer d = result at outcome ⊢
  cases outcome with
  | closeRefused e w => exact synchronized.quiet rfl _ rfl (by simp [Happening.delivered?])
  -- The document stays in the table as it was last sent; that the server closed it changes nothing.
  | openRefused e w =>
    refine ⟨synchronized.sorted, fun uri known isOpen => ?_⟩
    have last := synchronized.sent uri known isOpen
    simpa [after, lastSynchronized_append, List.filterMap_cons, Happening.delivered?,
      Notice.synchronize] using last
  | done w =>
    apply synchronized.inserted w
    · simp [lastSynchronized_append, Happening.delivered?, Notice.synchronize]
    · intro other differs
      simp [lastSynchronized_append, Happening.delivered?, Notice.synchronize, differs]

private theorem closeDocument (synchronized : Synchronized c) (host : Host W P) (uri : String) :
    Synchronized (c.closeDocument host uri).2 := by
  cases inUse : c.active with
  | none => simpa [Client.closeDocument, peer?, inUse] using synchronized
  | some connection =>
    have outcome := c.closeDocument_outcome host inUse uri
    generalize c.closeDocument host uri = result at outcome ⊢
    cases outcome with
    | absent isClosed => exact synchronized
    | done w document wasOpen | refused e w document wasOpen =>
      refine ⟨synchronized.sorted.erase _, fun other known isOpen => ?_⟩
      change (c.documents.erase uri).get? other = some known at isOpen
      rw [Table.get?_erase] at isOpen
      by_cases same : other = uri
      · simp [same] at isOpen
      · rw [if_neg same] at isOpen
        have last := synchronized.sent other known isOpen
        simpa [after, lastSynchronized_append, List.filterMap_cons, Happening.delivered?,
          Notice.synchronize] using last

private theorem reopen (synchronized : Synchronized c) (host : Host W P) (peer : P) :
    Synchronized (c.reopen host peer) := by
  obtain ⟨w, more, opened, told⟩ := c.reopen_eq host peer
  have sorted : (renewed c.documents).Sorted := synchronized.sorted.mapValues _
  have renewal : ∀ uri known, (renewed c.documents).get? uri = some known →
      lastSynchronized uri c.history = some (known.languageId, known.text) := by
    intro uri known isOpen
    rw [renewed, Table.get?_mapValues, Option.map_eq_some_iff] at isOpen
    obtain ⟨document, wasOpen, rfl⟩ := isOpen
    exact synchronized.sent uri document wasOpen
  rw [opened]
  refine ⟨sorted, fun uri known isOpen => ?_⟩
  change lastSynchronized uri (c.history ++ (more ++ [.reopened (renewed c.documents).length])) = _
  rw [← List.append_assoc, lastSynchronized_append_quiet _ _ (by simp [Happening.delivered?])]
  rw [told.lastSynchronized_eq (fun entry inside => renewal _ _ (sorted.get?_of_mem inside))]
  exact renewal uri known isOpen

private theorem launchNew (synchronized : Synchronized c) (host : Host W P) :
    Synchronized (c.launchNew host).2 := by
  have outcome := c.launchNew_outcome host
  generalize c.launchNew host = result at outcome ⊢
  cases outcome with
  | failed e w => exact synchronized.quiet rfl _ rfl (by simp [Happening.delivered?])
  | started peer w =>
    have launched : Synchronized (c.launchedOn peer w) :=
      synchronized.quiet rfl _ rfl (by simp [Happening.delivered?])
    rw [announce_eq]
    exact (launched.reopen host peer).quiet rfl _ rfl (by simp [Happening.delivered?])

private theorem stoppedOn (synchronized : Synchronized c) (id : Nat) (peer : P)
    (result : Except ClientError Unit) (w : W) : Synchronized (c.stoppedOn id peer result w) :=
  synchronized.quiet rfl _ rfl (by simp [Happening.delivered?])

private theorem syncDocument (synchronized : Synchronized c) (host : Host W P) (d : TextDocument) :
    Synchronized (c.syncDocument host d).2 := by
  unfold Client.syncDocument
  cases c.peer? with
  | error e => exact synchronized
  | ok peer =>
    dsimp only
    split
    · exact synchronized.syncOn host peer d
    · exact synchronized

/-- Every call keeps the table as it was last sent. -/
theorem perform (synchronized : Synchronized c) (settled : Settled c) (host : Host W P)
    (call : ClientCall P) : Synchronized (c.perform host call).2 := by
  cases call with
  | start | restart =>
    change Synchronized (c.restart host).2
    have outcome := c.restart_outcome host settled.connected
    generalize c.restart host = result at outcome ⊢
    cases outcome with
    | idle vacant => exact synchronized.launchNew host
    | stopFailed id peer e w inUse => exact synchronized.stoppedOn id peer _ w
    | replaced id peer w inUse => exact (synchronized.stoppedOn id peer _ w).launchNew host
  | stop =>
    change Synchronized (c.stop host).2
    have outcome := c.stop_outcome host settled.connected
    generalize c.stop host = result at outcome ⊢
    cases outcome with
    | idle vacant => exact synchronized
    | stopped id peer result w inUse => exact synchronized.stoppedOn id peer result w
  | openDocument d | changeDocument d => exact synchronized.syncDocument host d
  | closeDocument uri => exact synchronized.closeDocument host uri
  | refreshDependencies d =>
    change Synchronized (c.refreshDependencies host d).2
    unfold Client.refreshDependencies
    cases c.peer? with
    | error e => exact synchronized
    | ok peer =>
      have noted : Synchronized (c.note (.refreshing d.uri)) :=
        synchronized.quiet rfl _ rfl (by simp [Happening.delivered?])
      exact noted.refreshOn host peer d
  | goalAt uri position =>
    change Synchronized (c.goalAt host uri position).2
    unfold Client.goalAt
    cases c.peer? with
    | error e => exact synchronized
    | ok peer => exact synchronized.quiet rfl _ rfl (by simp [Happening.delivered?])
  | publish peer event =>
    obtain ⟨w, heard⟩ := c.publish_eq host peer event
    change Synchronized (c.publish host peer event)
    rw [heard]
    exact synchronized.quiet rfl _ rfl (by simp [Happening.delivered?])
  | publishedDiagnostics uri => exact synchronized
  | onRestarted | removeRestarted | onDiagnostics | removeDiagnostics =>
    exact ⟨synchronized.sorted, synchronized.sent⟩

theorem run (settled : Settled c) (synchronized : Synchronized c) (host : Host W P)
    (calls : List (ClientCall P)) : Synchronized (c.run host calls) := by
  induction calls using List.reverseRecOn with
  | nil => exact synchronized
  | append_singleton calls call ih =>
    rw [run_append_singleton]
    exact ih.perform (settled.run host calls) host call

end Synchronized

end Client

end LanguageClient
