import LanguageClient.Proofs.Client.Announcement
import LanguageClient.Proofs.Client.Changing
import LanguageClient.Proofs.Client.Elsewhere

/-! The table on a new connection that refuses to open some of its documents. They stay in the table beside
those that the server was given, and the client makes no difference between them. What it tells the server
from then on is right for each document that was given, and only for those. -/
namespace LanguageClient

variable {P : Type}

section TurnedAway
variable [DecidableEq P]

def Happening.addTurnedAway (peer : P) (gone : List String) : Happening P → List String
  | .launched other _ _ => if other = peer then [] else gone
  | .refused other (.opened d) _ => if other = peer then gone ++ [d.uri] else gone
  | _ => gone

/-- The documents that a connection has refused to open since its launch. -/
def turnedAway (peer : P) (history : List (Happening P)) : List String :=
  history.foldl (Happening.addTurnedAway peer) []

private theorem turnedAway_concat (peer : P) (history : List (Happening P)) (h : Happening P) :
    turnedAway peer (history ++ [h]) = h.addTurnedAway peer (turnedAway peer history) := by
  rw [turnedAway, List.foldl_append]
  rfl

private theorem turnedAway_append_aside (peer : P) (history : List (Happening P)) {more : List (Happening P)}
    (aside : ∀ h ∈ more, ∀ gone, h.addTurnedAway peer gone = gone) :
    turnedAway peer (history ++ more) = turnedAway peer history := by
  induction more using List.reverseRecOn with
  | nil => rw [List.append_nil]
  | append_singleton more h ih =>
    rw [← List.append_assoc, turnedAway_concat, aside h (by simp)]
    exact ih fun other inside => aside other (by simp [inside])

open Client (Reopened reopening renewed)

/-- A new connection is told of the documents that it does not refuse, in turn. -/
theorem Client.Reopened.divides {peer : P} {entries : Table OpenDocument} {more : List (Happening P)}
    (told : Reopened peer entries more) (once : entries.keys.Nodup) (history : List (Happening P)) :
    ∃ gone, turnedAway peer (history ++ more) = turnedAway peer history ++ gone ∧
      (∀ uri ∈ gone, uri ∈ entries.keys) ∧ received peer (history ++ more) =
        received peer history ++ (entries.filter fun entry => entry.1 ∉ gone).map reopening := by
  induction told generalizing history with
  | nil => exact ⟨[], by simp, by simp, by simp⟩
  | @delivered entry rest more later ih =>
    obtain ⟨absent, once⟩ := List.nodup_cons.1 once
    obtain ⟨gone, turned, inside, heard⟩ := ih once (history ++ [.delivered peer (reopening entry)])
    have kept : entry.1 ∉ gone := fun member => absent (inside _ member)
    refine ⟨gone, ?_, fun uri member => List.mem_cons_of_mem _ (inside uri member), ?_⟩
    · rw [List.append_cons, turned, turnedAway_concat]
      rfl
    · rw [List.append_cons, heard, received_concat, Happening.addReceived, if_pos rfl,
        List.filter_cons_of_pos (by simpa using kept), List.map_cons, List.append_assoc]
      rfl
  | @refused entry e rest more later ih =>
    obtain ⟨absent, once⟩ := List.nodup_cons.1 once
    obtain ⟨gone, turned, inside, heard⟩ :=
      ih once (history ++ [.refused peer (reopening entry) e] ++ [.reopenFailed entry.1 e])
    refine ⟨entry.1 :: gone, ?_, ?_, ?_⟩
    · rw [List.append_cons, List.append_cons, turned, turnedAway_concat, turnedAway_concat]
      simp [Happening.addTurnedAway, reopening, OpenDocument.toDocument]
    · intro uri member
      rcases List.mem_cons.1 member with rfl | later
      · exact List.mem_cons_self
      · exact List.mem_cons_of_mem _ (inside uri later)
    · have same : rest.filter (fun other => other.1 ∉ entry.1 :: gone) =
          rest.filter (fun other => other.1 ∉ gone) := by
        apply List.filter_congr
        intro other member
        have differs : other.1 ≠ entry.1 := by
          intro equal
          apply absent
          rw [← equal]
          exact List.mem_map_of_mem member
        simp [differs]
      rw [List.append_cons, List.append_cons, heard, received_concat, received_concat,
        List.filter_cons_of_neg (by simp), same]
      rfl

end TurnedAway

/-- Each document that is changed was opened before, but for those excepted. -/
def Supplied (gone : List String) (notices : List Notice) : Prop :=
  ∀ before uri version text after, notices = before ++ .changed uri version text :: after →
    uri ∈ gone ∨ ∃ d, d.uri = uri ∧ .opened d ∈ before

namespace Supplied

variable {gone : List String} {notices : List Notice}

private theorem of_openings (gone : List String) (entries : Table OpenDocument) :
    Supplied gone (entries.map Client.reopening) := by
  intro before uri version text after split
  have inside : .changed uri version text ∈ entries.map Client.reopening := by simp [split]
  obtain ⟨entry, -, same⟩ := List.mem_map.1 inside
  cases same

private theorem concat (supplied : Supplied gone notices) {notice : Notice}
    (fits : ∀ uri version text, notice = .changed uri version text →
      uri ∈ gone ∨ ∃ d, d.uri = uri ∧ .opened d ∈ notices) : Supplied gone (notices ++ [notice]) := by
  intro before uri version text after split
  rcases List.eq_nil_or_concat after with rfl | ⟨rest, final, rfl⟩
  · obtain ⟨rfl, last⟩ := List.append_inj' split rfl
    exact fits uri version text (List.singleton_inj.1 last)
  · rw [List.concat_eq_append, ← List.cons_append, ← List.append_assoc] at split
    obtain ⟨rfl, -⟩ := List.append_inj' split rfl
    exact supplied before uri version text rest rfl

end Supplied

namespace Client

variable {W : Type} [DecidableEq P] {c c' : Client W P} {peer : P} {gone : List String}

structure Backed (peer : P) (gone : List String) (c : Client W P) : Prop where
  inUse : ∃ id, c.active = some (id, peer)
  supplied : Supplied gone (received peer c.history)
  given : ∀ uri known, c.documents.get? uri = some known →
    uri ∈ gone ∨ ∃ d, d.uri = uri ∧ .opened d ∈ received peer c.history

namespace Backed

private theorem peer?_eq (backed : Backed peer gone c) : c.peer? = .ok peer := by
  obtain ⟨id, inUse⟩ := backed.inUse
  exact peer?_of_active inUse

private theorem quiet (backed : Backed peer gone c) (more : List (Happening P)) (active : c'.active = c.active)
    (documents : c'.documents = c.documents) (grown : c'.history = c.history ++ more)
    (silent : ∀ h ∈ more, h.Quiet) : Backed peer gone c' := by
  have heard : received peer c'.history = received peer c.history := by
    rw [grown, received_append_quiet peer _ silent]
  refine ⟨active ▸ backed.inUse, heard ▸ backed.supplied, ?_⟩
  rw [documents, heard]
  exact backed.given

/-- The connection is told of something that the table allows, and the table follows. -/
theorem told (backed : Backed peer gone c) (w : W) {notice : Notice} (documents : Table OpenDocument)
    (fits : ∀ uri version text, notice = .changed uri version text → (c.documents.get? uri).isSome = true)
    (tracked : ∀ uri known, documents.get? uri = some known →
      (c.documents.get? uri).isSome = true ∨ ∃ d, d.uri = uri ∧ notice = .opened d) :
    Backed peer gone { c.after w [.delivered peer notice] with documents := documents } := by
  have had (uri : String) (inside : (c.documents.get? uri).isSome = true) :
      uri ∈ gone ∨ ∃ d, d.uri = uri ∧ .opened d ∈ received peer c.history := by
    obtain ⟨known, isOpen⟩ := Option.isSome_iff_exists.1 inside
    exact backed.given uri known isOpen
  have heard : received peer (c.history ++ [.delivered peer notice]) = received peer c.history ++ [notice] := by
    rw [received_concat, Happening.addReceived, if_pos rfl]
  refine ⟨backed.inUse, ?_, ?_⟩
  · rw [after, heard]
    apply backed.supplied.concat
    intro uri version text same
    exact had uri (fits uri version text same)
  · intro uri known isOpen
    rw [after, heard]
    rcases tracked uri known isOpen with before | ⟨d, about, rfl⟩
    · refine (had uri before).imp id ?_
      rintro ⟨d, about, earlier⟩
      exact ⟨d, about, List.mem_append_left _ earlier⟩
    · exact .inr ⟨d, about, by simp⟩

private theorem opened (backed : Backed peer gone c) (w : W) (d : TextDocument) (entry : OpenDocument) :
    Backed peer gone { c.after w [.delivered peer (.opened d)] with
      documents := c.documents.insert d.uri entry } := by
  apply backed.told w
  · intro uri version text same
    cases same
  · intro uri known isOpen
    rw [Table.get?_insert] at isOpen
    split at isOpen
    · next about => exact .inr ⟨d, about.symm, rfl⟩
    · exact .inl (Option.isSome_of_eq_some isOpen)

private theorem changed (backed : Backed peer gone c) (w : W) {uri : String} {known : OpenDocument}
    (isOpen : c.documents.get? uri = some known) (version : Int32) (text : String) (entry : OpenDocument) :
    Backed peer gone { c.after w [.delivered peer (.changed uri version text)] with
      documents := c.documents.insert uri entry } := by
  apply backed.told w
  · intro other _ _ same
    cases same
    exact Option.isSome_of_eq_some isOpen
  · intro other found inside
    rw [Table.get?_insert] at inside
    split at inside
    · next about => exact .inl (about ▸ Option.isSome_of_eq_some isOpen)
    · exact .inl (Option.isSome_of_eq_some inside)

private theorem closed (backed : Backed peer gone c) (w : W) (uri : String) (documents : Table OpenDocument)
    (kept : ∀ other known, documents.get? other = some known → c.documents.get? other = some known) :
    Backed peer gone { c.after w [.delivered peer (.closed uri)] with documents := documents } := by
  apply backed.told w
  · intro other version text same
    cases same
  · intro other known isOpen
    exact .inl (Option.isSome_of_eq_some (kept other known isOpen))

private theorem syncDocument (backed : Backed peer gone c) (host : Host W P) (d : TextDocument) :
    Backed peer gone (c.syncDocument host d).2 := by
  rw [Client.syncDocument, backed.peer?_eq]
  dsimp only
  split
  · have outcome := c.syncOn_outcome host peer d
    generalize c.syncOn host peer d = result at outcome ⊢
    cases outcome with
    | unchanged => exact backed
    | refused => exact backed.quiet _ rfl rfl rfl (by simp [Happening.Quiet])
    | opened w isClosed =>
      have given := backed.opened w ⟨d.uri, d.languageId, 1, d.text⟩ ⟨d.languageId, 1, d.text⟩
      exact given.quiet [.opened d.uri] rfl rfl (by simp [after]) (by simp [Happening.Quiet])
    | changed w known isOpen =>
      have given := backed.changed w isOpen (known.version + 1) d.text
        { known with version := known.version + 1, text := d.text }
      exact given.quiet [.changed d.uri (known.version + 1)] rfl rfl (by simp [after])
        (by simp [Happening.Quiet])
  · exact backed

private theorem closeDocument (backed : Backed peer gone c) (host : Host W P) (uri : String) :
    Backed peer gone (c.closeDocument host uri).2 := by
  obtain ⟨id, inUse⟩ := backed.inUse
  have outcome := c.closeDocument_outcome host inUse uri
  generalize c.closeDocument host uri = result at outcome ⊢
  cases outcome with
  | absent => exact backed
  | done w =>
    have given := backed.closed w uri (c.documents.erase uri) fun _ _ => Table.get?_of_erase
    exact given.quiet [.closed uri] rfl rfl (by simp [after]) (by simp [Happening.Quiet])
  | refused e w =>
    have silent : Backed peer gone (c.after w [.refused peer (.closed uri) e]) :=
      backed.quiet _ rfl rfl rfl (by simp [Happening.Quiet])
    exact ⟨silent.inUse, silent.supplied, fun other known isOpen => silent.given other known (Table.get?_of_erase isOpen)⟩

private theorem refreshDependencies (backed : Backed peer gone c) (host : Host W P) (d : TextDocument) :
    Backed peer gone (c.refreshDependencies host d).2 := by
  rw [Client.refreshDependencies, backed.peer?_eq]
  have noted : Backed peer gone (c.note (.refreshing d.uri)) :=
    backed.quiet _ rfl rfl rfl (by simp [Happening.Quiet])
  have outcome := (c.note (.refreshing d.uri)).refreshOn_outcome host peer d
  dsimp only
  generalize (c.note (.refreshing d.uri)).refreshOn host peer d = result at outcome ⊢
  cases outcome with
  | closeRefused => exact noted.quiet _ rfl rfl rfl (by simp [Happening.Quiet])
  | openRefused e w =>
    have given := noted.closed w d.uri (c.note (.refreshing d.uri)).documents fun _ _ => id
    exact given.quiet [.refused peer (.opened ⟨d.uri, leanLanguage, 1, d.text⟩) e] rfl rfl
      (by simp [after]) (by simp [Happening.Quiet])
  | done w =>
    have given := noted.closed w d.uri (c.note (.refreshing d.uri)).documents fun _ _ => id
    simpa [after] using given.opened w ⟨d.uri, leanLanguage, 1, d.text⟩ ⟨leanLanguage, 1, d.text⟩

/-- No call changes what was not given, but for a start or a stop. -/
theorem perform (backed : Backed peer gone c) (host : Host W P) {call : ClientCall P}
    (forwarding : call.lifecycle? = none) : Backed peer gone (c.perform host call).2 := by
  cases call with
  | start | restart | stop => contradiction
  | openDocument d | changeDocument d => exact backed.syncDocument host d
  | closeDocument uri => exact backed.closeDocument host uri
  | refreshDependencies d => exact backed.refreshDependencies host d
  | goalAt uri position =>
    change Backed peer gone (c.goalAt host uri position).2
    rw [Client.goalAt, backed.peer?_eq]
    exact backed.quiet [.asked peer goalMethod _] rfl rfl rfl (by simp [Happening.Quiet])
  | publish other event =>
    obtain ⟨w, heard⟩ := c.publish_eq host other event
    change Backed peer gone (c.publish host other event)
    rw [heard]
    exact backed.quiet _ rfl rfl rfl (by simp [Happening.Quiet])
  | publishedDiagnostics => exact backed
  | onRestarted | removeRestarted | onDiagnostics | removeDiagnostics =>
    exact backed.quiet _ rfl rfl (List.append_nil _).symm (by simp)

private theorem run (backed : Backed peer gone c) (host : Host W P) {calls : List (ClientCall P)}
    (forwarding : ∀ call ∈ calls, call.lifecycle? = none) : Backed peer gone (c.run host calls) := by
  induction calls generalizing c with
  | nil => exact backed
  | cons call rest ih =>
    have first := backed.perform host (forwarding call (by simp))
    exact ih first fun later inside => forwarding later (by simp [inside])

end Backed

omit [DecidableEq P] in
/-- A start that succeeds has launched a server for the documents that were open. -/
theorem restart_launches {host : Host W P} (restarted : c.restart host = (.ok (), c')) :
    ∃ idle : Client W P, idle.documents = c.documents ∧ idle.launchNew host = (.ok (), c') := by
  unfold restart at restarted
  split at restarted
  · cases inUse : c.active with
    | none =>
      rw [stopActive, inUse] at restarted
      cases restarted
    | some connection =>
      obtain ⟨result, w, stopped⟩ := c.stopActive_eq host inUse
      rw [stopped] at restarted
      cases result with
      | error e => cases restarted
      | ok done => exact ⟨c.stoppedOn connection.1 connection.2 (.ok ()) w, rfl, restarted⟩
  · exact ⟨c, rfl, restarted⟩

private theorem Announced.divides {front : List (Happening P)} (announced : Announced c peer front c')
    (sorted : c.documents.Sorted) :
    (∀ uri ∈ turnedAway peer c'.history, uri ∈ c'.documents.keys) ∧ received peer c'.history =
      (c'.documents.filter fun entry => entry.1 ∉ turnedAway peer c'.history).map reopening := by
  obtain ⟨before, server, options, more, -, told, rfl⟩ := announced.launched
  have once : (renewed c.documents).keys.Nodup := (sorted.mapValues _).nodup_keys
  obtain ⟨gone, turned, inside, heard⟩ :=
    told.divides once (c.history ++ before ++ [.launched peer server options])
  rw [turnedAway_concat, Happening.addTurnedAway, if_pos rfl, List.nil_append] at turned
  rw [received_concat, Happening.addReceived, if_pos rfl, List.nil_append] at heard
  have grown : c'.history = (c.history ++ before ++ [.launched peer server options]) ++ more ++
      (.reopened (renewed c.documents).length :: .started c.nextId ::
        c.restarted.audience.map fun listener => .heardRestart listener true (some c.nextId)) := by
    rw [announced.history]
    simp
  have last : turnedAway peer c'.history = gone := by
    rw [grown, turnedAway_append_aside peer _ (by simp [Happening.addTurnedAway]), turned]
  rw [last, announced.documents]
  refine ⟨inside, ?_⟩
  rw [grown, received_append_quiet peer _ (by simp [Happening.Quiet]), heard]

private theorem Announced.view_eq {front : List (Happening P)} (announced : Announced c peer front c')
    (sorted : c.documents.Sorted) : replay (received peer c'.history) =
      c'.documents.filter fun entry => entry.1 ∉ turnedAway peer c'.history := by
  have ordered : c'.documents.Sorted := announced.documents ▸ sorted.mapValues _
  have opened := replay_openings [] (c'.documents.filter fun entry => entry.1 ∉ turnedAway peer c'.history)
  rw [List.nil_append, ← (announced.divides sorted).2] at opened
  exact opened.trans (Table.Sorted.ofList_eq (ordered.filter _))

private theorem Announced.backed {front : List (Happening P)} (announced : Announced c peer front c')
    (sorted : c.documents.Sorted) : Backed peer (turnedAway peer c'.history) c' := by
  obtain ⟨-, told⟩ := announced.divides sorted
  refine ⟨⟨c.nextId, announced.active⟩, ?_, ?_⟩
  · rw [told]
    exact .of_openings _ _
  · intro uri known isOpen
    by_cases refused : uri ∈ turnedAway peer c'.history
    · exact .inl refused
    · refine .inr ⟨known.toDocument uri, rfl, ?_⟩
      rw [told]
      apply List.mem_map.2
      exact ⟨(uri, known), List.mem_filter.2 ⟨Table.mem_of_get? isOpen, by simpa using refused⟩, rfl⟩

/-- What was turned away is in the table and not at the server. -/
theorem Announced.unknown {front : List (Happening P)} (announced : Announced c peer front c')
    (sorted : c.documents.Sorted) {uri : String} (refused : uri ∈ turnedAway peer c'.history) :
    ∃ known, known.version = 1 ∧ c'.documents.get? uri = some known ∧ serverEntry peer uri c'.history = none := by
  have ordered : c'.documents.Sorted := announced.documents ▸ sorted.mapValues _
  obtain ⟨inside, -⟩ := announced.divides sorted
  obtain ⟨⟨key, known⟩, member, about⟩ := List.mem_map.1 (inside uri refused)
  cases about
  have isOpen := ordered.get?_of_mem member
  have absent : serverEntry peer key c'.history = none := by
    rw [serverEntry, announced.view_eq sorted,
      Table.get?_filter c'.documents fun other => decide (other ∉ turnedAway peer c'.history)]
    exact if_neg (by simpa using refused)
  refine ⟨known, ?_, isOpen, absent⟩
  rw [announced.documents, renewed, Table.get?_mapValues, Option.map_eq_some_iff] at isOpen
  obtain ⟨before, -, rfl⟩ := isOpen
  rfl

/-- A document that the table has and the server has not. A change to it is sent like any other. -/
structure Stranded (host : Host W P) (peer : P) (uri : String) (known : OpenDocument) (c : Client W P) : Prop where
  tracked : c.documents.get? uri = some known
  unknown : serverEntry peer uri c.history = none
  same : ∀ d, d.uri = uri → d.text = known.text → c.changeDocument host d = (.ok false, c)
  differs : ∀ d, d.uri = uri → d.text ≠ known.text → c.selects d = true →
    (host.notify peer (.changed uri (known.version + 1) d.text) c.world).1 = .ok () →
    Changes c peer d known (c.changeDocument host d)

omit [DecidableEq P] in
private theorem changeDocument_same (host : Host W P) {id : Nat} (inUse : c.active = some (id, peer))
    {d : TextDocument}
    {known : OpenDocument} (isOpen : c.documents.get? d.uri = some known) (same : d.text = known.text) :
    c.changeDocument host d = (.ok false, c) := by
  rw [changeDocument, syncDocument, peer?_of_active inUse]
  dsimp only
  split
  · rw [syncOn, isOpen]
    exact if_pos same.symm
  · rfl

private theorem Stranded.of_unknown (host : Host W P) {id : Nat} (inUse : c.active = some (id, peer)) {uri : String}
    {known : OpenDocument} (isOpen : c.documents.get? uri = some known)
    (unknown : serverEntry peer uri c.history = none) : Stranded host peer uri known c where
  tracked := isOpen
  unknown := unknown
  same d about text := changeDocument_same host inUse (about ▸ isOpen) text
  differs d about text passes accepted := by
    subst about
    exact changeDocument_selected host inUse isOpen (Ne.symm text) passes accepted

/-- A start that succeeds leaves the documents in the table, in first versions, whatever the new connection
refuses. The connection was told of those that it did not turn away, and of nothing else. For as long as
it is in use it is told of changes only to what it was given, but for the documents that it turned away: such
a document stays in the table, the server has nothing of it, and a change to it goes out all the same. -/
theorem restart_reopened (host : Host W P) (c c' : Client W P) (sorted : c.documents.Sorted)
    (call : ClientCall P) (isStart : call.lifecycle? = some .restart)
    (performed : c.perform host call = (.ok (), c')) :
    ∃ id peer, c'.active = some (id, peer) ∧ c'.documents = renewed c.documents ∧
      received peer c'.history =
        (c'.documents.filter fun entry => entry.1 ∉ turnedAway peer c'.history).map reopening ∧
      (∀ calls, (∀ later ∈ calls, later.lifecycle? = none) →
        Supplied (turnedAway peer c'.history) (received peer (c'.run host calls).history)) ∧
      ∀ uri ∈ turnedAway peer c'.history, ∃ known, known.version = 1 ∧
        ∀ calls, (∀ later ∈ calls, later.concerns uri = false) →
          Stranded host peer uri known (c'.run host calls) := by
  have restarted : c.restart host = (.ok (), c') := by
    cases call with
    | start | restart => exact performed
    | _ => simp [ClientCall.lifecycle?] at isStart
  obtain ⟨idle, documents, launched⟩ := restart_launches restarted
  rw [← documents] at sorted ⊢
  rcases idle.launchNew_announced host with ⟨e, w, more, failed, -⟩ | ⟨peer, front, last, done, announced⟩
  · rw [failed] at launched
    cases launched
  · rw [done] at launched
    cases launched
    refine ⟨idle.nextId, peer, announced.active, announced.documents, (announced.divides sorted).2, ?_, ?_⟩
    · intro calls forwarding
      exact ((announced.backed sorted).run host forwarding).supplied
    · intro uri refused
      obtain ⟨known, first, isOpen, unknown⟩ := announced.unknown sorted refused
      refine ⟨known, first, ?_⟩
      intro calls elsewhere
      have spared := LeftAlone.run host c' elsewhere
      apply Stranded.of_unknown host (spared.active.trans announced.active) (spared.entry.trans isOpen)
      rw [spared.serverEntry_eq]
      exact unknown

/-- A host that numbers its connections. The second one does not open notes. -/
def choosy : Host Nat Nat where
  launch _ _ launches := (.ok launches, launches + 1)
  notify peer notice launches :=
    if peer = 1 ∧ notice.method = "textDocument/didOpen" ∧ notice.uri = "file:///notes.lean" then
      (.error .notConnected, launches)
    else (.ok (), launches)
  request _ _ _ launches := (.ok .null, launches)
  diagnostics _ _ _ := []
  store _ _ launches := launches
  stop _ launches := (.ok (), launches)

def annotator : Client Nat Nat :=
  (Client.new .default "/work" 0).run choosy
    [.start, .openDocument ⟨"file:///a.lean", "lean4", 1, "a"⟩,
      .openDocument ⟨"file:///notes.lean", "lean4", 1, "n"⟩]

def annotatorAnew : Client Nat Nat := (annotator.restart choosy).2

theorem restart_reopened_annotator :
    annotatorAnew.documents.keys = ["file:///a.lean", "file:///notes.lean"] ∧
    received 1 annotatorAnew.history = [.opened ⟨"file:///a.lean", "lean4", 1, "a"⟩] ∧
    received 1 (annotatorAnew.changeDocument choosy ⟨"file:///notes.lean", "lean4", 2, "m"⟩).2.history =
      [.opened ⟨"file:///a.lean", "lean4", 1, "a"⟩, .changed "file:///notes.lean" 2 "m"] := by
  have sorted : annotator.documents.Sorted := by
    simp only [Table.Sorted]
    decide
  have done : (annotator.restart choosy).1 = .ok () := by decide
  obtain ⟨id, peer, inUse, documents, told, -, stranded⟩ := restart_reopened choosy annotator annotatorAnew sorted
    .restart rfl (Prod.ext done rfl)
  obtain rfl : peer = 1 := by
    have number : annotatorAnew.active = some (2, 1) := by decide
    simpa using congrArg (Option.map Prod.snd) (inUse.symm.trans number)
  have gone : turnedAway 1 annotatorAnew.history = ["file:///notes.lean"] := by decide
  have table : annotatorAnew.documents =
    [("file:///a.lean", ⟨"lean4", 1, "a"⟩), ("file:///notes.lean", ⟨"lean4", 1, "n"⟩)] := by decide
  have first : received 1 annotatorAnew.history = [.opened ⟨"file:///a.lean", "lean4", 1, "a"⟩] := by
    rw [told, gone, table]
    rfl
  obtain ⟨known, -, unchanged⟩ := stranded "file:///notes.lean" (by rw [gone]; simp)
  have left := unchanged [] (by simp)
  rw [run_nil] at left
  have entry : known = ⟨"lean4", 1, "n"⟩ := by
    have tracked := left.tracked
    rw [table] at tracked
    exact (Option.some.inj tracked).symm
  subst entry
  have changes := left.differs ⟨"file:///notes.lean", "lean4", 2, "m"⟩ rfl (by decide) (by decide) (by decide)
  refine ⟨by rw [table]; rfl, first, ?_⟩
  rw [changes.told, List.append_cons, received_concat, received_concat, first]
  rfl

/-- A document that was not opened on the new connection is in the table. -/
theorem turnedAway_kept :
    ¬∀ (c c' : Client Nat Nat), c.documents.Sorted → c.restart choosy = (.ok (), c') →
      ∀ id peer uri known, c'.active = some (id, peer) → c'.documents.get? uri = some known →
        .opened (known.toDocument uri) ∈ received peer c'.history := by
  intro always
  have sorted : annotator.documents.Sorted := by
    simp only [Table.Sorted]
    decide
  have restarted : annotator.restart choosy = (.ok (), annotatorAnew) := Prod.ext (by decide) rfl
  have given := always annotator annotatorAnew sorted restarted 2 1 "file:///notes.lean" ⟨"lean4", 1, "n"⟩
    (by decide) (by decide)
  have told : received 1 annotatorAnew.history = [.opened ⟨"file:///a.lean", "lean4", 1, "a"⟩] := by decide
  rw [told] at given
  contradiction

end Client

end LanguageClient
