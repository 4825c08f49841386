import LanguageClient.Client.Rehearsal
import LanguageClient.Proofs.Table
import LanguageClient.Proofs.Client.Outcome
import LanguageClient.Proofs.Client.Replay

/-! The server of a started client has open what the client holds open. This is settled for every
host, every order of calls and every outcome of launches and stops, as long as no notice to a live
connection is refused: what the connection in use has received since its launch, replayed, is the
client's table of documents. -/
namespace LanguageClient

structure Mirrored (notices : List Notice) (documents : Table OpenDocument) : Prop where
  replayed : replay notices = documents
  counted : ∀ uri known, documents.get? uri = some known →
    known.version = Int32.ofNat (changesSinceOpened uri notices + 1)

namespace Mirrored

variable {notices : List Notice} {documents : Table OpenDocument}

private theorem nil : Mirrored [] [] :=
  ⟨rfl, by simp [Table.get?]⟩

private theorem opened (mirrored : Mirrored notices documents) (d : TextDocument) (first : d.version = 1) :
    Mirrored (notices ++ [.opened d]) (documents.insert d.uri ⟨d.languageId, d.version, d.text⟩) where
  replayed := by rw [replay_concat, mirrored.replayed, Notice.apply]
  counted uri known found := by
    rw [changesSinceOpened_concat, Notice.countChange]
    rw [Table.get?_insert] at found
    by_cases same : uri = d.uri
    · rw [if_pos same] at found
      cases found
      rw [if_pos same.symm]
      exact first
    · rw [if_neg same] at found
      rw [if_neg (Ne.symm same)]
      exact mirrored.counted uri known found

private theorem changed (mirrored : Mirrored notices documents) {uri : String} {known : OpenDocument}
    (isOpen : documents.get? uri = some known) (text : String) :
    Mirrored (notices ++ [.changed uri (known.version + 1) text])
      (documents.insert uri { known with version := known.version + 1, text := text }) where
  replayed := by rw [replay_concat, mirrored.replayed, Notice.apply, isOpen]
  counted other found' found := by
    rw [changesSinceOpened_concat, Notice.countChange]
    rw [Table.get?_insert] at found
    by_cases same : other = uri
    · rw [if_pos same] at found
      cases found
      subst same
      rw [if_pos rfl, mirrored.counted other known isOpen]
      exact (Int32.ofNat_add _ 1).symm
    · rw [if_neg same] at found
      rw [if_neg (Ne.symm same)]
      exact mirrored.counted other found' found

private theorem closed (mirrored : Mirrored notices documents) (uri : String) :
    Mirrored (notices ++ [.closed uri]) (documents.erase uri) where
  replayed := by rw [replay_concat, mirrored.replayed, Notice.apply]
  counted other known found := by
    rw [changesSinceOpened_concat, Notice.countChange]
    rw [Table.get?_erase] at found
    by_cases same : other = uri
    · rw [if_pos same] at found
      contradiction
    · rw [if_neg same] at found
      rw [if_neg (Ne.symm same)]
      exact mirrored.counted other known found

/-- The version after the one of an open document is greater by one as long as sessions are short. -/
theorem version_succ (mirrored : Mirrored notices documents) {uri : String} {known : OpenDocument}
    (isOpen : documents.get? uri = some known) {text : String}
    (short : ShortSessions (notices ++ [.changed uri (known.version + 1) text])) :
    (known.version + 1).toInt = known.version.toInt + 1 := by
  have few : changesSinceOpened uri notices + 1 < 0x7FFFFFFF := by
    simpa [Notice.countChange] using short _ (List.prefix_refl _) uri
  rw [mirrored.counted uri known isOpen]
  have next : Int32.ofNat (changesSinceOpened uri notices + 1) + 1 =
      Int32.ofNat (changesSinceOpened uri notices + 1 + 1) := (Int32.ofNat_add _ 1).symm
  rw [next, Int32.toInt_ofNat_of_lt (by omega), Int32.toInt_ofNat_of_lt (by omega)]
  omega

end Mirrored

private theorem Orderly.concat {notices : List Notice} {notice : Notice} (orderly : Orderly notices)
    (fits : notice.Fits (replay notices)) : Orderly (notices ++ [notice]) := by
  intro before other after split
  rcases List.eq_nil_or_concat after with rfl | ⟨rest, final, rfl⟩
  · obtain ⟨rfl, last⟩ := List.append_inj' split rfl
    cases last
    exact fits
  · rw [List.concat_eq_append, ← List.cons_append, ← List.append_assoc] at split
    obtain ⟨rfl, _⟩ := List.append_inj' split rfl
    exact orderly before other rest rfl

def Happening.Quiet {P : Type} : Happening P → Prop
  | .launched .. => False
  | .stopped .. => False
  | .delivered .. => False
  | _ => True

section Quiet
variable {P : Type} [DecidableEq P] {more : List (Happening P)}

theorem received_append_quiet (peer : P) (history : List (Happening P))
    (quiet : ∀ h ∈ more, h.Quiet) : received peer (history ++ more) = received peer history := by
  induction more generalizing history with
  | nil => simp
  | cons h rest ih =>
    have first : h.addReceived peer (received peer history) = received peer history := by
      have silent := quiet h (by simp)
      cases h <;> first | rfl | exact silent.elim
    have moved : history ++ h :: rest = (history ++ [h]) ++ rest := by simp
    rw [moved, ih _ fun h inside => quiet h (by simp [inside]), received_concat, first]

theorem isLive_append_quiet (peer : P) (history : List (Happening P))
    (quiet : ∀ h ∈ more, h.Quiet) : isLive peer (history ++ more) = isLive peer history := by
  induction more generalizing history with
  | nil => simp
  | cons h rest ih =>
    have first : h.nowLive peer (isLive peer history) = isLive peer history := by
      have silent := quiet h (by simp)
      cases h <;> first | rfl | exact silent.elim
    have moved : history ++ h :: rest = (history ++ [h]) ++ rest := by simp
    rw [moved, ih _ fun h inside => quiet h (by simp [inside]), isLive_concat, first]

end Quiet

namespace Client

variable {W P : Type} [DecidableEq P] {c : Client W P}

omit [DecidableEq P] in
theorem active_of_peer? {peer : P} (connected : c.peer? = .ok peer) :
    ∃ id, c.active = some (id, peer) := by
  unfold peer? at connected
  split at connected
  · next id other inUse =>
    cases connected
    exact ⟨id, inUse⟩
  · contradiction

/-- A client is started when it has a connection in use, and the server at its other end has open
what the client holds open. Each server was told one thing after another in good order. -/
structure InStep (c : Client W P) : Prop where
  started : c.isStarted = c.active.isSome
  sorted : c.documents.Sorted
  orderly : ∀ peer, ShortSessions (received peer c.history) → Orderly (received peer c.history)
  live : ∀ id peer, c.active = some (id, peer) → isLive peer c.history = true
  mirrored : ∀ id peer, c.active = some (id, peer) →
    Mirrored (received peer c.history) c.documents

namespace InStep

theorem new (settings : ServerSettings) (root : String) (world : W) :
    InStep (Client.new settings root world : Client W P) where
  started := rfl
  sorted := List.Pairwise.nil
  orderly _ _ := Orderly.nil
  live _ _ inUse := by simp [Client.new] at inUse
  mirrored _ _ inUse := by simp [Client.new] at inUse

private theorem quiet (inStep : InStep c) (w : W) (more : List (Happening P)) (silent : ∀ h ∈ more, h.Quiet) :
    InStep (c.after w more) where
  started := inStep.started
  sorted := inStep.sorted
  orderly peer := by
    rw [after, received_append_quiet peer c.history silent]
    exact inStep.orderly peer
  live id peer inUse := by
    rw [after, isLive_append_quiet peer c.history silent]
    exact inStep.live id peer inUse
  mirrored id peer inUse := by
    rw [after, received_append_quiet peer c.history silent]
    exact inStep.mirrored id peer inUse

/-- A notice that fits keeps the client in step when the table follows it. -/
theorem delivered (inStep : InStep c) {id : Nat} {peer : P} (inUse : c.active = some (id, peer))
    (w : W) {notice : Notice} {documents : Table OpenDocument} (sorted : documents.Sorted)
    (fits : ShortSessions (received peer c.history ++ [notice]) → notice.Fits c.documents)
    (mirrored : Mirrored (received peer c.history ++ [notice]) documents) :
    InStep { c.after w [.delivered peer notice] with documents := documents } where
  started := inStep.started
  sorted := sorted
  orderly other short := by
    simp only [after, received_concat, Happening.addReceived] at short ⊢
    by_cases same : peer = other
    · subst same
      rw [if_pos rfl] at short ⊢
      apply (inStep.orderly peer (short.of_prefix (List.prefix_append _ _))).concat
      rw [(inStep.mirrored id peer inUse).replayed]
      exact fits short
    · rw [if_neg same] at short ⊢
      exact inStep.orderly other short
  live id' peer' inUse' := by
    simp only [after, isLive_concat, Happening.nowLive]
    exact inStep.live id' peer' inUse'
  mirrored id' peer' inUse' := by
    obtain ⟨rfl, rfl⟩ : id = id' ∧ peer = peer' := by simpa [inUse, after] using inUse'
    simpa [after, Happening.addReceived] using mirrored

private theorem delivered_opened (inStep : InStep c) {id : Nat} {peer : P}
    (inUse : c.active = some (id, peer)) (w : W) (d : TextDocument) (first : d.version = 1)
    (isClosed : c.documents.get? d.uri = none) :
    InStep { c.after w [.delivered peer (.opened d)] with
      documents := c.documents.insert d.uri ⟨d.languageId, d.version, d.text⟩ } :=
  inStep.delivered inUse w (inStep.sorted.insert _ _) (fun _ => ⟨first, isClosed⟩)
    ((inStep.mirrored id peer inUse).opened d first)

private theorem delivered_changed (inStep : InStep c) {id : Nat} {peer : P}
    (inUse : c.active = some (id, peer)) (w : W) {uri : String} {known : OpenDocument}
    (isOpen : c.documents.get? uri = some known) (text : String) :
    InStep { c.after w [.delivered peer (.changed uri (known.version + 1) text)] with
      documents := c.documents.insert uri
        { known with version := known.version + 1, text := text } } :=
  inStep.delivered inUse w (inStep.sorted.insert _ _)
    (fun short => ⟨known, isOpen, (inStep.mirrored id peer inUse).version_succ isOpen short⟩)
    ((inStep.mirrored id peer inUse).changed isOpen text)

private theorem delivered_closed (inStep : InStep c) {id : Nat} {peer : P}
    (inUse : c.active = some (id, peer)) (w : W) (uri : String) :
    InStep { c.after w [.delivered peer (.closed uri)] with documents := c.documents.erase uri } :=
  inStep.delivered inUse w (inStep.sorted.erase _) (fun _ => trivial)
    ((inStep.mirrored id peer inUse).closed uri)

private theorem not_refused (inStep : InStep c) {id : Nat} {peer : P} (inUse : c.active = some (id, peer))
    {notice : Notice} {e : ClientError} {more : List (Happening P)}
    (reliable : Reliable (c.history ++ .refused peer notice e :: more)) : False := by
  have dead := reliable c.history peer notice e more rfl
  rw [inStep.live id peer inUse] at dead
  contradiction

private theorem syncOn (inStep : InStep c) (host : Host W P) {id : Nat} {peer : P}
    (inUse : c.active = some (id, peer)) (d : TextDocument) : InStep (c.syncOn host peer d).2 := by
  have outcome := c.syncOn_outcome host peer d
  generalize c.syncOn host peer d = result at outcome ⊢
  cases outcome with
  | unchanged known isOpen same => exact inStep
  | opened w isClosed =>
    have told := inStep.delivered_opened inUse w ⟨d.uri, d.languageId, 1, d.text⟩ rfl isClosed
    simpa [after] using told.quiet w [.opened d.uri] (by simp [Happening.Quiet])
  | changed w known isOpen differs =>
    have told := inStep.delivered_changed inUse w isOpen d.text
    simpa [after] using
      told.quiet w [.changed d.uri (known.version + 1)] (by simp [Happening.Quiet])
  | refused e w notice => exact inStep.quiet w _ (by simp [Happening.Quiet])

private theorem refreshOn (inStep : InStep c) (host : Host W P) {id : Nat} {peer : P}
    (inUse : c.active = some (id, peer)) (d : TextDocument)
    (reliable : Reliable (c.refreshOn host peer d).2.history) : InStep (c.refreshOn host peer d).2 := by
  have outcome := c.refreshOn_outcome host peer d
  generalize c.refreshOn host peer d = result at outcome reliable ⊢
  cases outcome with
  | done w =>
    have closed := inStep.delivered_closed inUse w d.uri
    have isClosed : (c.documents.erase d.uri).get? d.uri = none := Table.get?_erase_self _ _
    have opened := closed.delivered_opened inUse w ⟨d.uri, leanLanguage, 1, d.text⟩ rfl isClosed
    have table := inStep.sorted.insert_erase d.uri ⟨leanLanguage, 1, d.text⟩
    simpa [after, table] using opened
  | closeRefused e w => exact inStep.quiet w _ (by simp [Happening.Quiet])
  -- The table still has the document that the server was told to close, so this must not happen.
  | openRefused e w =>
    have closed := inStep.delivered_closed inUse w d.uri
    have reached : Reliable ((c.history ++ [.delivered peer (.closed d.uri)]) ++
        [.refused peer (.opened ⟨d.uri, leanLanguage, 1, d.text⟩) e]) := by
      simpa [after] using reliable
    exact (closed.not_refused inUse reached).elim

private theorem closeDocument (inStep : InStep c) (host : Host W P) {id : Nat} {peer : P}
    (inUse : c.active = some (id, peer)) (uri : String)
    (reliable : Reliable (c.closeDocument host uri).2.history) :
    InStep (c.closeDocument host uri).2 := by
  have outcome := c.closeDocument_outcome host inUse uri
  generalize c.closeDocument host uri = result at outcome reliable ⊢
  cases outcome with
  | absent isClosed => exact inStep
  | done w known isOpen =>
    have told := inStep.delivered_closed inUse w uri
    simpa [after] using told.quiet w [.closed uri] (by simp [Happening.Quiet])
  | refused e w known isOpen => exact (inStep.not_refused inUse reliable).elim

/-- A stop leaves the client out of use and the documents as they are. -/
theorem stopActive (inStep : InStep c) (host : Host W P) {id : Nat} {peer : P}
    (inUse : c.active = some (id, peer)) : InStep (c.stopActive host).2 := by
  obtain ⟨result, w, outcome⟩ := c.stopActive_eq host inUse
  rw [outcome]
  refine ⟨rfl, inStep.sorted, fun other => ?_, by simp, by simp⟩
  have silent : received other (c.history ++ [.stopping id peer, .stopped id peer result]) =
      received other c.history := by
    simp [received, Happening.addReceived]
  simp only [after]
  rw [silent]
  exact inStep.orderly other

private theorem launchedOn (inStep : InStep c) (peer : P) (w : W) :
    InStep { c.launchedOn peer w with documents := [] } where
  started := rfl
  sorted := List.Pairwise.nil
  orderly other := by
    by_cases same : peer = other
    · simp [Client.launchedOn, after, received, Happening.addReceived, same, Orderly.nil]
    · simpa [Client.launchedOn, after, received, Happening.addReceived, same] using
        inStep.orderly other
  live id' peer' inUse := by
    obtain ⟨_, rfl⟩ : c.nextId = id' ∧ peer = peer' := by simpa [Client.launchedOn] using inUse
    simp [Client.launchedOn, after, isLive, Happening.nowLive]
  mirrored id' peer' inUse := by
    obtain ⟨_, rfl⟩ : c.nextId = id' ∧ peer = peer' := by simpa [Client.launchedOn] using inUse
    simpa [Client.launchedOn, after, received, Happening.addReceived] using Mirrored.nil

/-- Opening the entries of a sorted table, in their first versions, brings the server from the
entries before them to all of them. -/
theorem foldl_reopenOne (host : Host W P) {id : Nat} {peer : P} (entries told : Table OpenDocument)
    (inUse : c.active = some (id, peer)) (sorted : (told ++ entries : Table OpenDocument).Sorted)
    (first : ∀ entry ∈ entries, entry.2.version = 1)
    (reliable : Reliable (entries.foldl (reopenOne host peer) c).history)
    (inStep : InStep { c with documents := told }) :
    InStep { entries.foldl (reopenOne host peer) c with documents := told ++ entries } := by
  induction entries generalizing c told with
  | nil => simpa using inStep
  | cons entry rest ih =>
    have behind : ∀ e ∈ told, e.1 < entry.1 := fun e inside =>
      (List.pairwise_append.1 sorted).2.2 e inside entry (by simp)
    have moved : told ++ entry :: rest = (told ++ [entry]) ++ rest := by simp
    rw [List.foldl_cons] at reliable ⊢
    rcases reopenOne_cases host peer c entry with ⟨w, one⟩ | ⟨e, w, one⟩
    -- The server now has the entry as well: it goes over to those that were told.
    · have opened := inStep.delivered_opened inUse w (entry.2.toDocument entry.1)
        (first entry (by simp)) (Table.get?_eq_none_of_gt behind)
      have placed : told.insert entry.1 entry.2 = told ++ [entry] := Table.insert_of_gt _ behind
      rw [one] at reliable ⊢
      rw [moved] at sorted ⊢
      apply ih (c := c.after w [.delivered peer (reopening entry)]) (told ++ [entry]) inUse sorted
        (fun e inside => first e (by simp [inside])) reliable
      rw [← placed]
      exact opened
    · obtain ⟨w', more, all, _⟩ := foldl_reopenOne_eq host peer rest
        (c.after w [.refused peer (reopening entry) e, .reopenFailed entry.1 e])
      rw [one, all] at reliable
      have reached : Reliable (c.history ++
          .refused peer (reopening entry) e :: .reopenFailed entry.1 e :: more) := by
        simpa [after] using reliable
      exact (inStep.not_refused inUse reached).elim

private theorem reopen (host : Host W P) {id : Nat} {peer : P} (inUse : c.active = some (id, peer))
    (sorted : c.documents.Sorted) (reliable : Reliable (c.reopen host peer).history)
    (inStep : InStep { c with documents := [] }) : InStep (c.reopen host peer) := by
  have first : ∀ entry ∈ renewed c.documents, entry.2.version = 1 := by
    intro entry inside
    obtain ⟨old, _, rfl⟩ := List.mem_map.1 inside
    rfl
  have sortedAnew : (renewed c.documents).Sorted := sorted.mapValues _
  obtain ⟨w, more, all, _⟩ := foldl_reopenOne_eq host peer (renewed c.documents)
    { c with documents := renewed c.documents }
  have reopened : c.reopen host peer =
      ({ c with documents := renewed c.documents }.after w more).after w
        [.reopened (renewed c.documents).length] := by
    unfold Client.reopen
    change note ((renewed c.documents).foldl (reopenOne host peer)
      { c with documents := renewed c.documents }) _ = _
    rw [all]
    rfl
  rw [reopened] at reliable ⊢
  have followed : InStep ({ c with documents := renewed c.documents }.after w more) := by
    have opened := foldl_reopenOne (c := { c with documents := renewed c.documents }) host
      (renewed c.documents) [] inUse sortedAnew first
    rw [all] at opened
    exact opened (reliable.of_prefix (List.prefix_append _ _)) inStep
  exact followed.quiet w _ (by simp [Happening.Quiet])

private theorem launchNew (inStep : InStep c) (host : Host W P)
    (reliable : Reliable (c.launchNew host).2.history) : InStep (c.launchNew host).2 := by
  have outcome := c.launchNew_outcome host
  generalize c.launchNew host = result at outcome reliable ⊢
  cases outcome with
  | failed e w => exact inStep.quiet w _ (by simp [Happening.Quiet])
  | started peer w =>
    dsimp only at reliable ⊢
    rw [announce_eq] at reliable ⊢
    have opened := reopen (c := c.launchedOn peer w) host rfl inStep.sorted
      (reliable.of_prefix (List.prefix_append _ _)) (inStep.launchedOn peer w)
    apply opened.quiet
    intro h inside
    rcases List.mem_cons.1 inside with rfl | heard
    · trivial
    · obtain ⟨listener, _, rfl⟩ := List.mem_map.1 heard
      trivial

private theorem restart (inStep : InStep c) (host : Host W P)
    (reliable : Reliable (c.restart host).2.history) : InStep (c.restart host).2 := by
  unfold Client.restart at reliable ⊢
  split at reliable
  · next isStarted =>
    rw [if_pos isStarted]
    have present : c.active.isSome := inStep.started ▸ isStarted
    obtain ⟨⟨id, peer⟩, inUse⟩ := Option.isSome_iff_exists.1 present
    have stopped := inStep.stopActive host inUse
    generalize c.stopActive host = result at stopped reliable ⊢
    obtain ⟨_ | _, stoppedClient⟩ := result
    · exact stopped
    · exact stopped.launchNew host reliable
  · next notStarted =>
    rw [if_neg notStarted]
    exact inStep.launchNew host reliable

private theorem stop (inStep : InStep c) (host : Host W P) : InStep (c.stop host).2 := by
  unfold Client.stop
  split
  · next isStarted =>
    have present : c.active.isSome := inStep.started ▸ isStarted
    obtain ⟨⟨id, peer⟩, inUse⟩ := Option.isSome_iff_exists.1 present
    exact inStep.stopActive host inUse
  · exact inStep

private theorem syncDocument (inStep : InStep c) (host : Host W P) (d : TextDocument) :
    InStep (c.syncDocument host d).2 := by
  unfold Client.syncDocument
  cases connected : c.peer? with
  | error e => exact inStep
  | ok peer =>
    obtain ⟨id, inUse⟩ := active_of_peer? connected
    dsimp only
    split
    · exact inStep.syncOn host inUse d
    · exact inStep

/-- Every call keeps the client in step. -/
theorem perform (inStep : InStep c) (host : Host W P) (call : ClientCall P)
    (reliable : Reliable (c.perform host call).2.history) : InStep (c.perform host call).2 := by
  cases call with
  | start => exact inStep.restart host reliable
  | restart => exact inStep.restart host reliable
  | stop => exact inStep.stop host
  | openDocument d => exact inStep.syncDocument host d
  | changeDocument d => exact inStep.syncDocument host d
  | closeDocument uri =>
    change Reliable (c.closeDocument host uri).2.history at reliable
    change InStep (c.closeDocument host uri).2
    cases inUse : c.active with
    | none => simpa [Client.closeDocument, peer?, inUse] using inStep
    | some connection => exact inStep.closeDocument host inUse uri reliable
  | refreshDependencies d =>
    change Reliable (c.refreshDependencies host d).2.history at reliable
    change InStep (c.refreshDependencies host d).2
    unfold Client.refreshDependencies at reliable ⊢
    cases connected : c.peer? with
    | error e => exact inStep
    | ok peer =>
      obtain ⟨id, inUse⟩ := active_of_peer? connected
      rw [connected] at reliable
      have noted := inStep.quiet c.world [.refreshing d.uri] (by simp [Happening.Quiet])
      exact noted.refreshOn host inUse d reliable
  | goalAt uri position =>
    change InStep (c.goalAt host uri position).2
    unfold Client.goalAt
    cases c.peer? with
    | error e => exact inStep
    | ok peer => exact inStep.quiet _ [.asked peer goalMethod _] (by simp [Happening.Quiet])
  | publish peer event =>
    obtain ⟨w, heard⟩ := c.publish_eq host peer event
    change InStep (c.publish host peer event)
    rw [heard]
    apply inStep.quiet
    intro h inside
    rcases List.mem_cons.1 inside with rfl | told
    · trivial
    · obtain ⟨listener, _, rfl⟩ := List.mem_map.1 told
      trivial
  | publishedDiagnostics uri => exact inStep
  | onRestarted listener => exact ⟨inStep.1, inStep.2, inStep.3, inStep.4, inStep.5⟩
  | removeRestarted id => exact ⟨inStep.1, inStep.2, inStep.3, inStep.4, inStep.5⟩
  | onDiagnostics listener => exact ⟨inStep.1, inStep.2, inStep.3, inStep.4, inStep.5⟩
  | removeDiagnostics id => exact ⟨inStep.1, inStep.2, inStep.3, inStep.4, inStep.5⟩

theorem run (inStep : InStep c) (host : Host W P) (calls : List (ClientCall P))
    (reliable : Reliable (c.run host calls).history) : InStep (c.run host calls) := by
  induction calls using List.reverseRecOn with
  | nil => exact inStep
  | append_singleton calls call ih =>
    rw [run_append_singleton] at reliable ⊢
    -- What holds of the whole history holds of the history before the last call.
    have earlier := reliable.of_prefix ((c.run host calls).perform_grows host call)
    exact (ih earlier).perform host call reliable

end InStep

/-- Whatever was called, a started client has a connection in use, and what that connection has
received since its launch, replayed, is the table of open documents; each connection was told in
good order, as long as no document is changed so often that its versions run out. -/
theorem replay_received (host : Host W P) (settings : ServerSettings) (root : String) (world : W)
    (calls : List (ClientCall P)) (c : Client W P)
    (reached : c = (Client.new settings root world).run host calls) (reliable : Reliable c.history) :
    (c.isStarted = true → ∃ id peer, c.active = some (id, peer) ∧
      replay (received peer c.history) = c.documents) ∧
    ∀ peer, ShortSessions (received peer c.history) → Orderly (received peer c.history) := by
  subst reached
  have inStep := (InStep.new settings root world).run host calls reliable
  refine ⟨fun isStarted => ?_, inStep.orderly⟩
  have present := inStep.started ▸ isStarted
  obtain ⟨⟨id, peer⟩, inUse⟩ := Option.isSome_iff_exists.1 present
  exact ⟨id, peer, inUse, (inStep.mirrored id peer inUse).replayed⟩

def rehearsed : Client Rehearsal.World Nat :=
  (Client.new .default "/work" .new).run Rehearsal.host
    [.start, .openDocument ⟨"file:///a.lean", "lean4", 7, "a"⟩,
      .changeDocument ⟨"file:///a.lean", "lean4", 8, "b"⟩, .restart,
      .changeDocument ⟨"file:///a.lean", "lean4", 9, "c"⟩,
      .openDocument ⟨"file:///b.lean", "lean4", 1, ""⟩,
      .refreshDependencies ⟨"file:///a.lean", "lean4", 9, "d"⟩, .closeDocument "file:///b.lean"]

theorem replay_received_rehearsed : (∃ id peer, rehearsed.active = some (id, peer) ∧
    replay (received peer rehearsed.history) = [("file:///a.lean", ⟨"lean4", 1, "d"⟩)]) ∧
    Orderly (received 1 rehearsed.history) := by
  have accepted : rehearsed.history.all (fun h => !h.isRefused) = true := by decide
  have started : rehearsed.isStarted = true := by decide
  have documents : rehearsed.documents = [("file:///a.lean", ⟨"lean4", 1, "d"⟩)] := by decide
  have few : (received 1 rehearsed.history).length = 6 := by decide
  have settled := replay_received Rehearsal.host .default "/work" .new _ rehearsed rfl
    (Reliable.of_accepted accepted)
  rw [documents] at settled
  exact ⟨settled.1 started, settled.2 1 (ShortSessions.of_length (by omega))⟩

end Client

end LanguageClient
