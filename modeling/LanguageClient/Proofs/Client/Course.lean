import Mathlib.Data.List.Induction
import Mathlib.Data.List.Nodup
import LanguageClient.Proofs.Client.Outcome

/-! The connections of a client, as its history tells of them. A history keeps a `Course` when its
connections come one after another: a launch begins only where no connection is left, and only the
connection that was launched last is stopped. A client between two calls is `Settled`: its history
keeps a course, and what it has in use is the connection that the history has not seen stopped. -/
namespace LanguageClient

variable {P : Type}

namespace Happening

def isMilestone : Happening P → Bool
  | .launching _ | .launched .. | .launchFailed _ | .stopping .. | .stopped .. => true
  | _ => false

def launched? : Happening P → Option P
  | .launched peer _ _ => some peer
  | _ => none

def stopping? : Happening P → Option (P × Nat)
  | .stopping id peer => some (peer, id)
  | _ => none

def stopped? : Happening P → Option (P × Nat)
  | .stopped id peer _ => some (peer, id)
  | _ => none

section Aside
variable {h : Happening P}

private theorem launched?_of_aside (aside : h.isMilestone = false) : h.launched? = none := by
  cases h <;> first | rfl | simp [isMilestone] at aside

private theorem stopping?_of_aside (aside : h.isMilestone = false) : h.stopping? = none := by
  cases h <;> first | rfl | simp [isMilestone] at aside

private theorem stopped?_of_aside (aside : h.isMilestone = false) : h.stopped? = none := by
  cases h <;> first | rfl | simp [isMilestone] at aside

end Aside

end Happening

def connections (history : List (Happening P)) : List (P × Nat) :=
  (history.filterMap Happening.launched?).zipIdx 1

def stopsBegun (history : List (Happening P)) : List (P × Nat) := history.filterMap Happening.stopping?

/-- The connections whose stop has come to its end. They are torn down, whatever it came to. -/
def tornDown (history : List (Happening P)) : List (P × Nat) := history.filterMap Happening.stopped?

section Append
variable (history : List (Happening P))

private theorem connections_append {more : List (Happening P)} (none : ∀ h ∈ more, h.launched? = none) :
    connections (history ++ more) = connections history := by
  rw [connections, List.filterMap_append, List.filterMap_eq_nil_iff.2 none, List.append_nil]
  rfl

private theorem connections_launched (peer : P) (server : ServerOptions) (options : ClientOptions) :
    connections (history ++ [.launched peer server options]) =
      connections history ++ [(peer, (connections history).length + 1)] := by
  simp [connections, Happening.launched?, List.zipIdx_append, Nat.add_comm]

@[simp] theorem stopsBegun_concat (h : Happening P) :
    stopsBegun (history ++ [h]) = stopsBegun history ++ h.stopping?.toList := by
  cases begun : h.stopping? <;> simp [stopsBegun, begun]

@[simp] theorem tornDown_concat (h : Happening P) :
    tornDown (history ++ [h]) = tornDown history ++ h.stopped?.toList := by
  cases ended : h.stopped? <;> simp [tornDown, ended]

private theorem nodup_connections : (connections history).Nodup := by
  apply List.Nodup.of_map Prod.snd
  rw [connections, List.zipIdx_map_snd]
  exact List.nodup_range'

end Append

/-- What the history of a client has come to: whether a connection is left, and what is being done. -/
inductive Station (P : Type) where
  | idle
  | launching
  | running (peer : P)
  | stopping (peer : P)

inductive Course : List (Happening P) → Station P → Prop
  | nil : Course [] .idle
  | launching {history : List (Happening P)} (before : Course history .idle) (server : ServerOptions) :
      Course (history ++ [.launching server]) .launching
  | launched {history : List (Happening P)} (before : Course history .launching) (peer : P)
      (server : ServerOptions) (options : ClientOptions) :
      Course (history ++ [.launched peer server options]) (.running peer)
  | launchFailed {history : List (Happening P)} (before : Course history .launching) (e : ClientError) :
      Course (history ++ [.launchFailed e]) .idle
  | stopping {history : List (Happening P)} {peer : P} (before : Course history (.running peer)) :
      Course (history ++ [.stopping (connections history).length peer]) (.stopping peer)
  | stopped {history : List (Happening P)} {peer : P} (before : Course history (.stopping peer))
      (result : Except ClientError Unit) :
      Course (history ++ [.stopped (connections history).length peer result]) .idle
  | other {history : List (Happening P)} {station : Station P} (before : Course history station)
      (h : Happening P) (aside : h.isMilestone = false) : Course (history ++ [h]) station

def Accounted (history : List (Happening P)) : Station P → Prop
  | .idle | .launching =>
    stopsBegun history = connections history ∧ tornDown history = connections history
  | .running peer =>
    connections history = stopsBegun history ++ [(peer, (connections history).length)] ∧
      tornDown history = stopsBegun history
  | .stopping peer =>
    stopsBegun history = connections history ∧
      connections history = tornDown history ++ [(peer, (connections history).length)]

namespace Course

variable {history : List (Happening P)} {station : Station P}

private theorem append (course : Course history station) (more : List (Happening P))
    (aside : ∀ h ∈ more, h.isMilestone = false) : Course (history ++ more) station := by
  induction more using List.reverseRecOn with
  | nil => simpa using course
  | append_singleton more h ih =>
    rw [← List.append_assoc]
    exact (ih fun h inside => aside h (by simp [inside])).other h (aside h (by simp))

private theorem init {h : Happening P} (course : Course (history ++ [h]) station) :
    ∃ earlier, Course history earlier := by
  generalize whole : history ++ [h] = longer at course
  cases course with
  | nil => simp at whole
  | launching before | launched before | launchFailed before | stopping before | stopped before
  | other before =>
    obtain ⟨rfl, _⟩ := List.append_inj' whole rfl
    exact ⟨_, before⟩

private theorem of_prefix {longer : List (Happening P)} (course : Course longer station)
    (start : history <+: longer) : ∃ earlier, Course history earlier := by
  obtain ⟨more, rfl⟩ := start
  induction more using List.reverseRecOn generalizing station with
  | nil => exact ⟨station, by simpa using course⟩
  | append_singleton more h ih =>
    rw [← List.append_assoc] at course
    obtain ⟨earlier, shorter⟩ := course.init
    exact ih shorter

/-- The connections that were stopped are those that were launched, in the same order, but for the
one that is left. -/
theorem accounted (course : Course history station) : Accounted history station := by
  induction course with
  | nil => exact ⟨rfl, rfl⟩
  | launching before server ih | launchFailed before e ih =>
    obtain ⟨begun, returned⟩ := ih
    rw [Accounted, connections_append _ (by simp [Happening.launched?])]
    simp [Happening.stopping?, Happening.stopped?, begun, returned]
  | launched before peer server options ih =>
    obtain ⟨begun, returned⟩ := ih
    rw [Accounted, connections_launched]
    simp [Happening.stopping?, Happening.stopped?, begun, returned]
  | @stopping history peer before ih =>
    obtain ⟨last, returned⟩ := ih
    rw [Accounted, connections_append _ (by simp [Happening.launched?])]
    simp only [stopsBegun_concat, tornDown_concat, Happening.stopping?, Happening.stopped?,
      Option.toList_some, Option.toList_none, List.append_nil]
    exact ⟨last.symm, returned ▸ last⟩
  | @stopped history peer before result ih =>
    obtain ⟨begun, last⟩ := ih
    rw [Accounted, connections_append _ (by simp [Happening.launched?])]
    simp only [stopsBegun_concat, tornDown_concat, Happening.stopping?, Happening.stopped?,
      Option.toList_some, Option.toList_none, List.append_nil]
    exact ⟨begun, last.symm⟩
  | @other history station before h aside ih =>
    have launched : ∀ x ∈ [h], x.launched? = none := by
      intro x inside
      obtain rfl := List.mem_singleton.1 inside
      exact Happening.launched?_of_aside aside
    have begun : stopsBegun (history ++ [h]) = stopsBegun history := by
      rw [stopsBegun_concat, Happening.stopping?_of_aside aside]
      exact List.append_nil _
    have returned : tornDown (history ++ [h]) = tornDown history := by
      rw [tornDown_concat, Happening.stopped?_of_aside aside]
      exact List.append_nil _
    cases station <;> simpa only [Accounted, connections_append history launched, begun, returned] using ih

/-- Stops begin in the order of the launches, and none twice. -/
theorem stops_prefix (course : Course history station) : stopsBegun history <+: connections history := by
  have accounted := course.accounted
  cases station with
  | idle | launching | stopping peer => exact ⟨[], (List.append_nil _).trans accounted.1⟩
  | running peer => exact ⟨_, accounted.1.symm⟩

private theorem standing (course : Course history station) : ∃ standing,
    connections history = tornDown history ++ standing ∧ standing.length ≤ 1 := by
  have accounted := course.accounted
  cases station with
  | idle | launching => exact ⟨[], by rw [accounted.2, List.append_nil], by simp⟩
  | running peer =>
    obtain ⟨begun, returned⟩ := accounted
    exact ⟨[(peer, _)], by rw [returned]; exact begun, by simp⟩
  | stopping peer => exact ⟨[(peer, _)], accounted.2, by simp⟩

private theorem before_launching {server : ServerOptions}
    (course : Course (history ++ [.launching server]) station) :
    Course history .idle := by
  generalize whole : history ++ [.launching server] = longer at course
  cases course with
  | nil => simp at whole
  | launching before =>
    obtain ⟨rfl, _⟩ := List.append_inj' whole rfl
    exact before
  | launched before | launchFailed before | stopping before | stopped before =>
    obtain ⟨_, last⟩ := List.append_inj' whole rfl
    simp at last
  | other before h aside =>
    obtain ⟨_, last⟩ := List.append_inj' whole rfl
    obtain rfl := List.singleton_inj.1 last
    simp [Happening.isMilestone] at aside

end Course

/-- The connections that the history tells of come one at a time. -/
structure OneAtATime (history : List (Happening P)) : Prop where
  /-- At every moment, all connections but at most one are torn down. -/
  standing : ∀ before, before <+: history → ∃ standing,
    connections before = tornDown before ++ standing ∧ standing.length ≤ 1
  once : (stopsBegun history).Nodup
  known : ∀ stopped ∈ stopsBegun history, stopped ∈ connections history
  /-- A launch begins when every connection launched before is torn down. -/
  cleared : ∀ before server after, history = before ++ .launching server :: after →
    tornDown before = connections before

theorem Course.oneAtATime {history : List (Happening P)} {station : Station P}
    (course : Course history station) : OneAtATime history where
  standing before start := by
    obtain ⟨_, earlier⟩ := course.of_prefix start
    exact earlier.standing
  once := course.stops_prefix.sublist.nodup (nodup_connections history)
  known stopped inside := course.stops_prefix.subset inside
  cleared before server after split := by
    have start : before ++ [.launching server] <+: history := ⟨after, by simp [split]⟩
    obtain ⟨_, begun⟩ := course.of_prefix start
    exact begun.before_launching.accounted.2

namespace Client

variable {W : Type} {c c' : Client W P}

structure SameConnection (c c' : Client W P) : Prop where
  started : c'.isStarted = c.isStarted
  active : c'.active = c.active
  nextId : c'.nextId = c.nextId
  history : ∃ more, c'.history = c.history ++ more ∧ ∀ h ∈ more, h.isMilestone = false

namespace SameConnection

theorem refl (c : Client W P) : SameConnection c c := ⟨rfl, rfl, rfl, [], by simp⟩

theorem trans {c'' : Client W P} (first : SameConnection c c') (second : SameConnection c' c'') :
    SameConnection c c'' := by
  obtain ⟨more, grown, aside⟩ := first.history
  obtain ⟨again, grown', aside'⟩ := second.history
  refine ⟨second.started.trans first.started, second.active.trans first.active,
    second.nextId.trans first.nextId, more ++ again, by rw [grown', grown, List.append_assoc], ?_⟩
  intro h inside
  exact (List.mem_append.1 inside).elim (aside h) (aside' h)

end SameConnection

theorem syncOn_same (host : Host W P) (c : Client W P) (peer : P) (d : TextDocument) :
    SameConnection c (c.syncOn host peer d).2 := by
  have outcome := c.syncOn_outcome host peer d
  generalize c.syncOn host peer d = result at outcome ⊢
  cases outcome with
  | unchanged => exact .refl c
  | opened | changed | refused => exact ⟨rfl, rfl, rfl, _, rfl, by simp [Happening.isMilestone]⟩

theorem refreshOn_same (host : Host W P) (c : Client W P) (peer : P) (d : TextDocument) :
    SameConnection c (c.refreshOn host peer d).2 := by
  have outcome := c.refreshOn_outcome host peer d
  generalize c.refreshOn host peer d = result at outcome ⊢
  cases outcome with
  | done | closeRefused | openRefused =>
    exact ⟨rfl, rfl, rfl, _, rfl, by simp [Happening.isMilestone]⟩

theorem forget_same (c : Client W P) (uri : String) : SameConnection c (c.forget uri).2 := by
  unfold forget
  split <;> exact ⟨rfl, rfl, rfl, [], by simp⟩

theorem dismissOn_same (host : Host W P) (c : Client W P) (peer : P) (uri : String) :
    SameConnection c (c.dismissOn host peer uri).2 := by
  unfold dismissOn
  rcases notify_cases host c peer (.closed uri) with ⟨w, sent⟩ | ⟨e, w, sent⟩
  · rw [sent]
    exact ⟨rfl, rfl, rfl, [.delivered peer (.closed uri), .closed uri], by simp [note, after],
      by simp [Happening.isMilestone]⟩
  · rw [sent]
    exact ⟨rfl, rfl, rfl, _, rfl, by simp [Happening.isMilestone]⟩

private theorem syncDocument_same (host : Host W P) (c : Client W P) (d : TextDocument) :
    SameConnection c (c.syncDocument host d).2 := by
  unfold syncDocument
  cases c.peer? with
  | error e => exact .refl c
  | ok peer =>
    dsimp only
    split
    · exact c.syncOn_same host peer d
    · exact .refl c

private theorem closeDocument_same (host : Host W P) (c : Client W P) (uri : String) :
    SameConnection c (c.closeDocument host uri).2 := by
  unfold closeDocument
  cases c.peer? with
  | error e => exact .refl c
  | ok peer =>
    have forgotten := c.forget_same uri
    dsimp only
    generalize c.forget uri = result at forgotten ⊢
    obtain ⟨_ | _, c'⟩ := result
    · exact forgotten
    · exact forgotten.trans (c'.dismissOn_same host peer uri)

private theorem refreshDependencies_same (host : Host W P) (c : Client W P) (d : TextDocument) :
    SameConnection c (c.refreshDependencies host d).2 := by
  unfold refreshDependencies
  cases c.peer? with
  | error e => exact .refl c
  | ok peer =>
    have noted : SameConnection c (c.note (.refreshing d.uri)) :=
      ⟨rfl, rfl, rfl, _, rfl, by simp [Happening.isMilestone]⟩
    exact noted.trans (refreshOn_same host _ peer d)

private theorem goalAt_same (host : Host W P) (c : Client W P) (uri : String) (position : Position) :
    SameConnection c (c.goalAt host uri position).2 := by
  unfold goalAt
  cases c.peer? with
  | error e => exact .refl c
  | ok peer => exact ⟨rfl, rfl, rfl, _, rfl, by simp [Happening.isMilestone]⟩

private theorem publish_same (host : Host W P) (c : Client W P) (peer : P) (event : DiagnosticEvent) :
    SameConnection c (c.publish host peer event) := by
  obtain ⟨w, heard⟩ := c.publish_eq host peer event
  rw [heard]
  refine ⟨rfl, rfl, rfl, _, rfl, ?_⟩
  simp [Happening.isMilestone]

theorem Reopened.aside {peer : P} {entries : Table OpenDocument} {more : List (Happening P)}
    (told : Reopened peer entries more) : ∀ h ∈ more, h.isMilestone = false := by
  induction told with
  | nil => simp
  | delivered entry later ih | refused entry e later ih =>
    simpa [Happening.isMilestone] using ih

theorem reopen_same (host : Host W P) (c : Client W P) (peer : P) :
    SameConnection c (c.reopen host peer) := by
  obtain ⟨w, more, opened, told⟩ := c.reopen_eq host peer
  rw [opened]
  refine ⟨rfl, rfl, rfl, _, rfl, fun h inside => ?_⟩
  rcases List.mem_append.1 inside with early | last
  · exact told.aside h early
  · rw [List.mem_singleton.1 last]
    rfl

theorem announce_same (c : Client W P) (id : Nat) : SameConnection c (c.announce id) := by
  rw [announce_eq]
  refine ⟨rfl, rfl, rfl, _, rfl, ?_⟩
  simp [Happening.isMilestone]

/-- Only the calls that start or stop the client have to do with its connections. -/
theorem perform_same (host : Host W P) (c : Client W P) (call : ClientCall P)
    (aside : call.lifecycle? = none) : SameConnection c (c.perform host call).2 := by
  cases call with
  | start | restart | stop => simp [ClientCall.lifecycle?] at aside
  | openDocument d | changeDocument d => exact c.syncDocument_same host d
  | closeDocument uri => exact c.closeDocument_same host uri
  | refreshDependencies d => exact c.refreshDependencies_same host d
  | goalAt uri position => exact c.goalAt_same host uri position
  | publish peer event => exact c.publish_same host peer event
  | publishedDiagnostics uri => exact .refl c
  | onRestarted | removeRestarted | onDiagnostics | removeDiagnostics =>
    exact ⟨rfl, rfl, rfl, [], by simp [perform, onRestarted, removeRestarted, onDiagnostics, removeDiagnostics]⟩

structure Underway (c : Client W P) (station : Station P) : Prop where
  course : Course c.history station
  numbered : c.nextId = (connections c.history).length + 1

namespace Underway

variable {station : Station P} {peer : P}

theorem congr (underway : Underway c station) (history : c'.history = c.history)
    (nextId : c'.nextId = c.nextId) : Underway c' station :=
  ⟨history ▸ underway.course, by rw [nextId, history, underway.numbered]⟩

/-- No connection was launched while the next number has stayed. -/
theorem count {station' : Station P} (before : Underway c station) (after : Underway c' station')
    (same : c'.nextId = c.nextId) : (connections c'.history).length = (connections c.history).length := by
  have numbered := before.numbered
  have numbered' := after.numbered
  omega

theorem same (underway : Underway c station) (kept : SameConnection c c') : Underway c' station := by
  obtain ⟨more, grown, aside⟩ := kept.history
  have launched : ∀ h ∈ more, h.launched? = none :=
    fun h inside => Happening.launched?_of_aside (aside h inside)
  constructor
  · rw [grown]
    exact underway.course.append more aside
  · rw [kept.nextId, grown, connections_append c.history launched, underway.numbered]

theorem stopping (underway : Underway c (.running peer)) {id : Nat}
    (number : id = (connections c.history).length) :
    Underway (c.note (.stopping id peer)) (.stopping peer) where
  course := number ▸ underway.course.stopping
  numbered := by
    rw [note, connections_append _ (by simp [Happening.launched?])]
    exact underway.numbered

theorem stopped (underway : Underway c (.stopping peer)) {id : Nat}
    (number : id = (connections c.history).length) (result : Except ClientError Unit) (w : W) :
    Underway (c.after w [.stopped id peer result]) .idle where
  course := number ▸ underway.course.stopped result
  numbered := by
    rw [after, connections_append _ (by simp [Happening.launched?])]
    exact underway.numbered

theorem launching (underway : Underway c .idle) (server : ServerOptions) :
    Underway (c.note (.launching server)) .launching where
  course := underway.course.launching server
  numbered := by
    rw [note, connections_append _ (by simp [Happening.launched?])]
    exact underway.numbered

theorem launchFailed (underway : Underway c .launching) (e : ClientError) (w : W) :
    Underway (c.after w [.launchFailed e]) .idle where
  course := underway.course.launchFailed e
  numbered := by
    rw [after, connections_append _ (by simp [Happening.launched?])]
    exact underway.numbered

theorem launched (underway : Underway c .launching) (peer : P) (server : ServerOptions)
    (options : ClientOptions) (w : W) : Underway
      { c.after w [.launched peer server options] with nextId := c.nextId + 1 } (.running peer) where
  course := underway.course.launched peer server options
  numbered := by simp [after, connections_launched, underway.numbered]

end Underway

def station (c : Client W P) : Station P :=
  match c.active with
  | none => .idle
  | some (_, peer) => .running peer

/-- No call is under way: the client is started when it has a connection in use, which is the one
that was launched last and has not been stopped. -/
structure Settled (c : Client W P) : Prop extends Underway c c.station where
  connected : c.isStarted = c.active.isSome
  current : ∀ id peer, c.active = some (id, peer) → id = (connections c.history).length

namespace Settled

theorem new (settings : ServerSettings) (root : String) (world : W) :
    Settled (Client.new settings root world : Client W P) :=
  ⟨⟨.nil, rfl⟩, rfl, by simp [Client.new]⟩

theorem idle (underway : Underway c .idle) (vacant : c.active = none) (stopped : c.isStarted = false) :
    Settled c := by
  refine ⟨?_, by rw [stopped, vacant]; rfl, by simp [vacant]⟩
  rw [station, vacant]
  exact underway

theorem running {id : Nat} {peer : P} (underway : Underway c (.running peer))
    (inUse : c.active = some (id, peer)) (number : id = (connections c.history).length)
    (started : c.isStarted = true) : Settled c := by
  refine ⟨?_, by rw [started, inUse]; rfl, fun other peer' inUse' => ?_⟩
  · rw [station, inUse]
    exact underway
  · cases inUse.symm.trans inUse'
    exact number

theorem active_none (settled : Settled c) (stopped : c.isStarted = false) : c.active = none := by
  rw [settled.connected] at stopped
  simpa using stopped

theorem vacant (settled : Settled c) (vacant : c.active = none) : Underway c .idle := by
  have underway := settled.toUnderway
  rwa [station, vacant] at underway

theorem inUse (settled : Settled c) {id : Nat} {peer : P} (inUse : c.active = some (id, peer)) :
    Underway c (.running peer) := by
  have underway := settled.toUnderway
  rwa [station, inUse] at underway

theorem same (settled : Settled c) (kept : SameConnection c c') : Settled c' := by
  have underway := settled.toUnderway.same kept
  have count := settled.toUnderway.count underway kept.nextId
  have station : c'.station = c.station := by rw [Client.station, kept.active]; rfl
  refine ⟨station ▸ underway, by rw [kept.started, kept.active, settled.connected], ?_⟩
  rw [kept.active, count]
  exact settled.current

private theorem stoppedOn (settled : Settled c) {id : Nat} {peer : P} (inUse : c.active = some (id, peer))
    (result : Except ClientError Unit) (w : W) : Settled (c.stoppedOn id peer result w) := by
  have number := settled.current id peer inUse
  have stopping := (settled.inUse inUse).stopping number
  have count := (settled.inUse inUse).count stopping rfl
  have stopped := stopping.stopped (number.trans count.symm) result w
  exact idle (stopped.congr (by simp [Client.stoppedOn, note, after]) rfl) rfl rfl

private theorem launchNew (settled : Settled c) (host : Host W P) (vacant : c.active = none) :
    Settled (c.launchNew host).2 := by
  have launching := (settled.vacant vacant).launching c.serverOptions
  have outcome := c.launchNew_outcome host
  generalize c.launchNew host = result at outcome ⊢
  cases outcome with
  | failed e w =>
    have failed := launching.launchFailed e w
    have stopped : c.isStarted = false := by rw [settled.connected, vacant]; rfl
    exact idle (failed.congr (by simp [note, after]) rfl) vacant stopped
  | started peer w =>
    have launched := launching.launched peer c.serverOptions c.clientOptions w
    have underway : Underway (c.launchedOn peer w) (.running peer) :=
      launched.congr (by simp [launchedOn, note, after]) rfl
    have number : c.nextId = (connections (c.launchedOn peer w).history).length := by
      have numbered := underway.numbered
      change c.nextId + 1 = _ at numbered
      omega
    have started := running underway rfl number rfl
    exact started.same (((c.launchedOn peer w).reopen_same host peer).trans (announce_same _ _))

/-- Every call leaves the client settled. -/
theorem perform (settled : Settled c) (host : Host W P) (call : ClientCall P) :
    Settled (c.perform host call).2 := by
  cases turn : call.lifecycle? with
  | none => exact settled.same (c.perform_same host call turn)
  | some lifecycle =>
    cases call with
    | start | restart =>
      change Settled (c.restart host).2
      have outcome := c.restart_outcome host settled.connected
      generalize c.restart host = result at outcome ⊢
      cases outcome with
      | idle vacant => exact settled.launchNew host vacant
      | stopFailed id peer e w inUse => exact settled.stoppedOn inUse _ w
      | replaced id peer w inUse => exact (settled.stoppedOn inUse _ w).launchNew host rfl
    | stop =>
      change Settled (c.stop host).2
      have outcome := c.stop_outcome host settled.connected
      generalize c.stop host = result at outcome ⊢
      cases outcome with
      | idle vacant => exact settled
      | stopped id peer result w inUse => exact settled.stoppedOn inUse result w
    | _ => simp [ClientCall.lifecycle?] at turn

theorem run (settled : Settled c) (host : Host W P) (calls : List (ClientCall P)) :
    Settled (c.run host calls) := by
  induction calls using List.reverseRecOn with
  | nil => exact settled
  | append_singleton calls call ih =>
    rw [run_append_singleton]
    exact ih.perform host call

end Settled

end Client

end LanguageClient
