import LanguageClient.Client.Rehearsal
import LanguageClient.Proofs.Client.Tasks.Sessions
import LanguageClient.Proofs.Client.Tasks.Silence
import LanguageClient.Proofs.Table

/-! Where publications of diagnostics go. Connections publish at any time, between any two steps of the
calls that start and stop the client and also before their launch has returned, while listeners come
and go. All connections share one registry of listeners, but each files what it receives for itself, so
what a listener hears and what the connection in use has on file are read off the same publications in
different ways. -/
namespace LanguageClient

variable {W P : Type}

/-- What a client with calls under way meets, one thing at a time. -/
inductive Input (P : Type) where
  /-- A call begins beside the others. -/
  | begun (phase : TaskPhase P) (fresh : phase.isFresh = true)
  /-- A call makes a step, if it can. -/
  | step (task : Nat)
  /-- A call that does not start or stop the client is made in one go. -/
  | call (call : ClientCall P) (aside : call.lifecycle? = none)

namespace Input

def published? : Input P → Option (P × DiagnosticEvent)
  | .call (.publish peer event) _ => some (peer, event)
  | _ => none

def register (listener : String) : Input P := .call (.onDiagnostics listener) rfl

def remove (id : ListenerId) : Input P := .call (.removeDiagnostics id) rfl

def registered? : Input P → Option String
  | .call (.onDiagnostics listener) _ => some listener
  | _ => none

def removed? : Input P → Option ListenerId
  | .call (.removeDiagnostics id) _ => some id
  | _ => none

def listeners (e : Emitter String) : Input P → Emitter String
  | .call (.onDiagnostics listener) _ => (e.subscribe listener).1
  | .call (.removeDiagnostics id) _ => (e.unsubscribe id).1
  | _ => e

end Input

/-- The publications among the inputs, with the connections they come from. -/
def published (inputs : List (Input P)) : List (P × DiagnosticEvent) := inputs.filterMap Input.published?

/-- The last diagnostics that a connection has published for a document. -/
def latest [DecidableEq P] (peer : P) (uri : String) (inputs : List (Input P)) : List Diagnostic :=
  (((published inputs).filter fun (other, event) => other = peer ∧ event.uri = uri).getLast?.map
    fun (_, event) => event.diagnostics).getD []

/-- What a listener has heard, in order. -/
def heard (listener : String) (history : List (Happening P)) : List DiagnosticEvent :=
  ((history.filterMap Happening.heardDiagnostics?).filter fun entry => entry.1 = listener).map Prod.snd

private theorem published_concat (inputs : List (Input P)) (input : Input P) :
    published (inputs ++ [input]) = published inputs ++ input.published?.toList := by
  cases publication : input.published? <;> simp [published, publication]

private theorem heard_append (listener : String) (history more : List (Happening P)) :
    heard listener (history ++ more) = heard listener history ++ heard listener more := by
  simp [heard]

private theorem heard_audience (listener : String) (e : Emitter String) (event : DiagnosticEvent) :
    heard listener (e.audience.map fun other => (.heardDiagnostics other event : Happening P)) =
      (e.listeners.filter fun entry => entry.2 = listener).map fun _ => event := by
  unfold Emitter.audience
  induction e.listeners with
  | nil => rfl
  | cons entry rest ih =>
    by_cases same : entry.2 = listener <;>
      simpa [heard, Happening.heardDiagnostics?, same] using ih

namespace Host

def Keeps (host : Host W P) (known : W → P → Prop) (w w' : W) : Prop :=
  ∀ peer, known w peer → known w' peer ∧ ∀ uri, host.diagnostics peer uri w' = host.diagnostics peer uri w

/-- Each connection has a file of its own, which changes only when the connection stores diagnostics: the
document then has these. A server can publish while its launch has yet to return, so the connection of a
launch has what it stored so far if it was known from the start, in `world`, and else it is new and has
nothing on file. -/
structure Files [DecidableEq P] (host : Host W P) (known : W → P → Prop) (world : W) : Prop where
  launched : ∀ server options w peer w', host.launch server options w = (.ok peer, w') →
    (known world peer ∨ ¬ known w peer ∧ ∀ uri, host.diagnostics peer uri w' = []) ∧
      known w' peer ∧ host.Keeps known w w'
  launchFailed : ∀ server options w e w', host.launch server options w = (.error e, w') →
    host.Keeps known w w'
  notify : ∀ peer notice w, host.Keeps known w (host.notify peer notice w).2
  request : ∀ peer method params w, host.Keeps known w (host.request peer method params w).2
  stop : ∀ peer w, host.Keeps known w (host.stop peer w).2
  store : ∀ peer event w, known w peer → ∀ other, known w other →
    known (host.store peer event w) other ∧ ∀ uri, host.diagnostics other uri (host.store peer event w) =
      if peer = other ∧ event.uri = uri then event.diagnostics else host.diagnostics other uri w

theorem Keeps.refl (host : Host W P) (known : W → P → Prop) (w : W) : host.Keeps known w w :=
  fun _ known => ⟨known, fun _ => rfl⟩

theorem Keeps.trans {host : Host W P} {known : W → P → Prop} {w w' w'' : W} (first : host.Keeps known w w')
    (second : host.Keeps known w' w'') : host.Keeps known w w'' := by
  intro peer before
  obtain ⟨between, same⟩ := first peer before
  obtain ⟨after, same'⟩ := second peer between
  exact ⟨after, fun uri => (same' uri).trans (same uri)⟩

private theorem Files.keeps [DecidableEq P] {host : Host W P} {known : W → P → Prop} {world : W}
    (files : host.Files known world) {c c' : Client W P} (silent : Client.Silently host c c') : host.Keeps known c.world c'.world := by
  induction silent with
  | kept listeners history world =>
    rw [world]
    exact .refl host known _
  | noted => exact .refl host known _
  | told c peer notice =>
    have kept := files.notify peer notice c.world
    unfold Client.notify
    split
    · next w taken => rwa [taken] at kept
    · next e w refused => rwa [refused] at kept
  | asked c peer method params => exact files.request peer method params c.world
  | halted c peer => exact files.stop peer c.world
  | launchFailed c e w failed => exact files.launchFailed _ _ _ _ _ failed
  | trans first second ih ih' => exact ih.trans ih'

end Host

namespace Tasks

open Client

def take (host : Host W P) (t : Tasks W P) : Input P → Tasks W P
  | .begun phase _ => { t with phases := t.phases ++ [phase] }
  | .step task => (t.step? host task).getD t
  | .call call _ => { t with client := (t.client.perform host call).2 }

def takeAll (host : Host W P) (t : Tasks W P) (inputs : List (Input P)) : Tasks W P :=
  inputs.foldl (take host) t

inductive Met (host : Host W P) (c : Client W P) : Input P → Client W P → Prop
  | silent {input : Input P} {c' : Client W P} (silent : Silently host c c')
      (unpublished : input.published? = none) (listeners : ∀ e, input.listeners e = e) : Met host c input c'
  | launched (task : Nat) (peer : P) (w : W)
      (launch : host.launch c.serverOptions c.clientOptions c.world = (.ok peer, w)) : Met host c (.step task)
        { c.after w [.launched peer c.serverOptions c.clientOptions] with nextId := c.nextId + 1 }
  | subscribed (listener : String) : Met host c (.call (.onDiagnostics listener) rfl) (c.onDiagnostics listener).1
  | unsubscribed (id : ListenerId) : Met host c (.call (.removeDiagnostics id) rfl) (c.removeDiagnostics id).1
  | published (peer : P) (event : DiagnosticEvent) :
      Met host c (.call (.publish peer event) rfl) (c.publish host peer event)

private theorem met (host : Host W P) (t : Tasks W P) (input : Input P) :
    Met host t.client input (t.take host input).client := by
  cases input with
  | begun phase fresh => exact .silent (.refl _) rfl fun _ => rfl
  | step task =>
    change Met host t.client _ ((t.step? host task).getD t).client
    cases step : t.step? host task with
    | none => exact .silent (.refl _) rfl fun _ => rfl
    | some t' =>
      obtain ⟨phase, next, found, phases, advances⟩ := step?_advances step
      rw [Option.getD_some]
      generalize t'.client = client at advances
      cases advances with
      | entered | queued | granted => exact .silent (.refl _) rfl fun _ => rfl
      | ended phase result client ends => exact .silent (.ends ends) rfl fun _ => rfl
      | worked phase next client works => exact .silent (.works works) rfl fun _ => rfl
      | moved phase next client moves =>
        by_cases launching : phase = .launching
        · subst launching
          cases moves with
          | launched id peer client launch =>
            unfold launchPeer at launch
            split at launch
            · next launched =>
              cases launch
              exact .launched task peer _ launched
            · cases launch
        · exact .silent (.moves moves launching) rfl fun _ => rfl
  | call call aside =>
    cases call with
    | start | restart | stop => simp [ClientCall.lifecycle?] at aside
    | openDocument d | changeDocument d => exact .silent (.syncDocument _ d) rfl fun _ => rfl
    | closeDocument uri => exact .silent (.closeDocument _ uri) rfl fun _ => rfl
    | refreshDependencies d => exact .silent (.refreshDependencies _ d) rfl fun _ => rfl
    | goalAt uri position => exact .silent (.goalAt _ uri position) rfl fun _ => rfl
    | publishedDiagnostics | onRestarted | removeRestarted => exact .silent (.kept rfl rfl rfl) rfl fun _ => rfl
    | onDiagnostics listener => exact .subscribed listener
    | removeDiagnostics id => exact .unsubscribed id
    | publish peer event => exact .published peer event

private theorem takeAll_concat (host : Host W P) (t : Tasks W P) (inputs : List (Input P)) (input : Input P) :
    t.takeAll host (inputs ++ [input]) = (t.takeAll host inputs).take host input := by
  simp [takeAll]

private theorem takeAll_append (host : Host W P) (t : Tasks W P) (inputs more : List (Input P)) :
    t.takeAll host (inputs ++ more) = (t.takeAll host inputs).takeAll host more :=
  List.foldl_append

def registrations (listener : String) (e : Emitter String) : List (ListenerId × String) :=
  e.listeners.filter fun entry => entry.2 = listener

private theorem registrations_subscribe (listener other : String) (e : Emitter String) :
    registrations listener (e.subscribe other).1 =
      registrations listener e ++ if other = listener then [(e.nextId, other)] else [] := by
  by_cases same : other = listener <;> simp [registrations, Emitter.subscribe, same]

private theorem registrations_unsubscribe (listener : String) (id : ListenerId) (e : Emitter String) :
    registrations listener (e.unsubscribe id).1 =
      (registrations listener e).filter fun entry => entry.1 ≠ id := by
  simp only [registrations, Emitter.unsubscribe, List.filter_filter]
  exact List.filter_congr fun entry _ => Bool.and_comm _ _

private theorem Met.listeners {host : Host W P} {c c' : Client W P} {input : Input P} (met : Met host c input c') :
    c'.diagnostics = input.listeners c.diagnostics := by
  cases met with
  | silent silent unpublished listeners => rw [silent.listeners, listeners]
  | launched | subscribed | unsubscribed => rfl
  | published peer event =>
    obtain ⟨w, heard⟩ := c.publish_eq host peer event
    rw [heard]
    rfl

private theorem Met.heard {host : Host W P} {c c' : Client W P} {input : Input P} (met : Met host c input c')
    (listener : String) : LanguageClient.heard listener c'.history = LanguageClient.heard listener c.history ++
      input.published?.toList.flatMap fun entry =>
        (registrations listener c.diagnostics).map fun _ => entry.2 := by
  cases met with
  | silent silent unpublished listeners =>
    simp [LanguageClient.heard, silent.unheard, unpublished]
  | launched | subscribed | unsubscribed =>
    simp [LanguageClient.heard, after, Happening.heardDiagnostics?, Input.published?, onDiagnostics,
      removeDiagnostics]
  | published peer event =>
    obtain ⟨w, heard⟩ := c.publish_eq host peer event
    rw [heard, after, ← List.singleton_append, heard_append, heard_append, heard_audience]
    simp [Input.published?, registrations, LanguageClient.heard, Happening.heardDiagnostics?]

/-- As long as the registrations of a listener are the same, it hears each publication once for each. -/
theorem takeAll_heard (host : Host W P) {listener : String} {own : List (ListenerId × String)}
    (inputs : List (Input P)) (t : Tasks W P) (now : registrations listener t.client.diagnostics = own)
    (stays : ∀ input ∈ inputs, ∀ e, registrations listener e = own →
      registrations listener (input.listeners e) = own) :
    registrations listener (t.takeAll host inputs).client.diagnostics = own ∧
      heard listener (t.takeAll host inputs).client.history = heard listener t.client.history ++
        (published inputs).flatMap fun entry => own.map fun _ => entry.2 := by
  induction inputs using List.reverseRecOn with
  | nil => exact ⟨now, by simp [takeAll, published]⟩
  | append_singleton inputs input ih =>
    obtain ⟨before, heard⟩ := ih fun input inside => stays input (by simp [inside])
    have met := (t.takeAll host inputs).met host input
    rw [takeAll_concat]
    constructor
    · rw [met.listeners]
      exact stays input (by simp) _ before
    · rw [met.heard, heard, before, published_concat, List.flatMap_append, List.append_assoc]

private theorem takeAll_unheard (host : Host W P) {listener : String} (inputs : List (Input P)) (t : Tasks W P)
    (now : registrations listener t.client.diagnostics = [])
    (others : ∀ input ∈ inputs, input.registered? ≠ some listener) :
    registrations listener (t.takeAll host inputs).client.diagnostics = [] ∧
      heard listener (t.takeAll host inputs).client.history = heard listener t.client.history := by
  have nothing : ((published inputs).flatMap fun entry =>
      ([] : List (ListenerId × String)).map fun _ => entry.2) = [] := by simp
  rw [← List.append_nil (heard listener t.client.history), ← nothing]
  refine takeAll_heard host inputs t now fun input inside e none => ?_
  unfold Input.listeners
  split
  · next another aside =>
    have differs : another ≠ listener := by
      rintro rfl
      exact others _ inside rfl
    rw [registrations_subscribe, none, if_neg differs]
    rfl
  · rw [registrations_unsubscribe, none]
    rfl
  · exact none

private theorem takeAll_heard_once (host : Host W P) {listener : String} {id : ListenerId} (inputs : List (Input P))
    (t : Tasks W P) (now : registrations listener t.client.diagnostics = [(id, listener)])
    (others : ∀ input ∈ inputs, input.registered? ≠ some listener)
    (kept : ∀ input ∈ inputs, input.removed? ≠ some id) :
    registrations listener (t.takeAll host inputs).client.diagnostics = [(id, listener)] ∧
      heard listener (t.takeAll host inputs).client.history =
        heard listener t.client.history ++ (published inputs).map Prod.snd := by
  rw [List.map_eq_flatMap]
  refine takeAll_heard host inputs t now fun input inside e one => ?_
  unfold Input.listeners
  split
  · next another aside =>
    have differs : another ≠ listener := by
      rintro rfl
      exact others _ inside rfl
    rw [registrations_subscribe, one, if_neg differs]
    rfl
  · next removed aside =>
    have differs : id ≠ removed := by
      rintro rfl
      exact kept _ inside rfl
    rw [registrations_unsubscribe, one]
    simp [differs]
  · exact one

/-- A listener is registered once, and is removed behind `during` if it is removed at all. -/
structure Listens (host : Host W P) (t : Tasks W P) (listener : String)
    (before during after : List (Input P)) : Prop where
  once : ∀ input ∈ before ++ (during ++ after), input.registered? ≠ some listener
  kept : ∀ input ∈ during,
    input.removed? ≠ some ((t.takeAll host before).client.onDiagnostics listener).2
  ended : after = [] ∨
    ∃ rest, after = .remove ((t.takeAll host before).client.onDiagnostics listener).2 :: rest

private theorem Listens.heard_eq {host : Host W P} {t : Tasks W P} {listener : String}
    {before during after : List (Input P)} (listens : Listens host t listener before during after)
    (unused : registrations listener t.client.diagnostics = [])
    (silence : heard listener t.client.history = []) :
    heard listener (t.takeAll host (before ++ .register listener :: (during ++ after))).client.history =
      (published during).map Prod.snd := by
  obtain ⟨once, kept, ended⟩ := listens
  obtain ⟨unused', nothing⟩ := takeAll_unheard host before t unused
    fun input inside => once input (by simp [inside])
  rw [← List.singleton_append, takeAll_append, takeAll_append, takeAll_append]
  generalize t.takeAll host before = t₁ at *
  have registered : registrations listener (t₁.takeAll host [.register listener]).client.diagnostics =
      [((t₁.client.onDiagnostics listener).2, listener)] := by
    have subscribed := registrations_subscribe listener listener t₁.client.diagnostics
    rwa [unused', if_pos rfl, List.nil_append] at subscribed
  have silence' : heard listener (t₁.takeAll host [.register listener]).client.history = [] :=
    nothing.trans silence
  obtain ⟨still, all⟩ := takeAll_heard_once host during (t₁.takeAll host [.register listener]) registered
    (fun input inside => once input (by simp [inside])) kept
  rw [silence', List.nil_append] at all
  rcases ended with rfl | ⟨rest, rfl⟩
  · exact all
  · generalize (t₁.takeAll host [.register listener]).takeAll host during = t₂ at *
    rw [← List.singleton_append, takeAll_append]
    have gone : registrations listener (t₂.takeAll host
        [.remove (t₁.client.onDiagnostics listener).2]).client.diagnostics = [] := by
      have removed := registrations_unsubscribe listener (t₁.client.onDiagnostics listener).2
        t₂.client.diagnostics
      rw [still] at removed
      exact removed.trans (by simp)
    have same := takeAll_unheard host rest _ gone fun input inside => once input (by simp [inside])
    exact same.2.trans all

private theorem Met.launched_subset {host : Host W P} {c c' : Client W P} {input : Input P}
    (met : Met host c input c') :
    c.history.filterMap Happening.launched? ⊆ c'.history.filterMap Happening.launched? := by
  cases met with
  | silent silent => exact silent.unlaunched ▸ List.Subset.refl _
  | launched => simp [after]
  | subscribed | unsubscribed => exact List.Subset.refl _
  | published peer event =>
    obtain ⟨w, heard⟩ := c.publish_eq host peer event
    simp [heard, after]

private theorem Named.take {t : Tasks W P} (named : Named t) (host : Host W P) (input : Input P) :
    Named (t.take host input) := by
  cases input with
  | begun phase fresh =>
    refine ⟨named.inUse, fun other inside peer names => ?_⟩
    rcases List.mem_append.1 inside with before | new
    · exact named.working other before peer names
    · rw [List.mem_singleton.1 new] at names
      cases phase <;> simp [TaskPhase.isFresh, TaskPhase.peer?] at fresh names
  | call call aside =>
    have grows := (t.met host (.call call aside)).launched_subset
    have kept := t.client.perform_same host call aside
    exact ⟨fun id peer inUse => grows (named.inUse id peer (kept.active.symm.trans inUse)),
      fun phase inside peer names => grows (named.working phase inside peer names)⟩
  | step task =>
    change Named ((t.step? host task).getD t)
    cases step : t.step? host task with
    | none => exact named
    | some t' => exact named.step step

/-- A connection has on file what it has published last, once it is launched or if it was known from the
start. -/
structure Filed [DecidableEq P] (host : Host W P) (known : W → P → Prop) (world : W) (peer : P)
    (inputs : List (Input P)) (c : Client W P) : Prop where
  onFile : peer ∈ c.history.filterMap Happening.launched? ∨ known world peer →
    known c.world peer ∧ ∀ uri, host.diagnostics peer uri c.world = latest peer uri inputs
  origin : ∀ entry ∈ published inputs, known c.world entry.1

private theorem latest_unpublished [DecidableEq P] {input : Input P} (unpublished : input.published? = none)
    (peer : P)
    (uri : String) (inputs : List (Input P)) : latest peer uri (inputs ++ [input]) = latest peer uri inputs := by
  simp [latest, published_concat, unpublished]

private theorem latest_published [DecidableEq P] (peer other : P) (uri : String) (event : DiagnosticEvent)
    (inputs : List (Input P)) : latest peer uri (inputs ++ [.call (.publish other event) rfl]) =
      if other = peer ∧ event.uri = uri then event.diagnostics else latest peer uri inputs := by
  unfold latest
  rw [published_concat]
  by_cases own : other = peer ∧ event.uri = uri <;> simp [own, Input.published?, List.filter_append]

private theorem latest_of_silent [DecidableEq P] {peer : P} {inputs : List (Input P)}
    (silent : ∀ entry ∈ published inputs, entry.1 ≠ peer) (uri : String) : latest peer uri inputs = [] := by
  have none : ((published inputs).filter fun (other, event) => other = peer ∧ event.uri = uri) = [] := by
    apply List.filter_eq_nil_iff.2
    intro entry inside
    simp [silent entry inside]
  rw [latest, none]
  rfl

private theorem publish_world (host : Host W P) (c : Client W P) (peer : P) (event : DiagnosticEvent) :
    (c.publish host peer event).world = host.store peer event c.world := by
  unfold publish hear
  rw [foldl_note _ (fun _ l => .heardDiagnostics l event) _ fun _ _ => rfl]
  rfl

private theorem Met.known [DecidableEq P] {host : Host W P} {known : W → P → Prop} {world : W}
    (files : host.Files known world) {c c' : Client W P} {input : Input P} (met : Met host c input c')
    (origin : ∀ entry, input.published? = some entry → known c.world entry.1) {peer : P}
    (before : known c.world peer) : known c'.world peer := by
  cases met with
  | silent silent => exact (files.keeps silent peer before).1
  | launched task peer' w launch => exact ((files.launched _ _ _ _ _ launch).2.2 peer before).1
  | subscribed | unsubscribed => exact before
  | published sender event =>
    rw [publish_world]
    exact (files.store sender event c.world (origin _ rfl) peer before).1

private theorem Filed.met [DecidableEq P] {host : Host W P} {known : W → P → Prop} {world : W} {peer : P}
    (files : host.Files known world) {inputs : List (Input P)} {input : Input P} {c c' : Client W P}
    (filed : Filed host known world peer inputs c) (met : Met host c input c')
    (origin : ∀ entry, input.published? = some entry → known c.world entry.1) :
    Filed host known world peer (inputs ++ [input]) c' := by
  have stays {other : P} : known c.world other → known c'.world other := met.known files origin
  refine ⟨fun expected => ?_, fun entry inside => ?_⟩
  · cases met with
    | silent silent unpublished listeners =>
      rw [silent.unlaunched] at expected
      obtain ⟨before, file⟩ := filed.onFile expected
      obtain ⟨after, same⟩ := files.keeps silent peer before
      exact ⟨after, fun uri => by rw [same, file, latest_unpublished unpublished]⟩
    | launched task peer' w launch =>
      obtain ⟨origins, now, kept⟩ := files.launched _ _ _ _ _ launch
      by_cases earlier : peer ∈ c.history.filterMap Happening.launched? ∨ known world peer
      · obtain ⟨before, file⟩ := filed.onFile earlier
        obtain ⟨after, same⟩ := kept peer before
        exact ⟨after, fun uri => (same uri).trans ((file uri).trans (latest_unpublished rfl ..).symm)⟩
      · obtain ⟨unlaunched, unknown⟩ := not_or.1 earlier
        have launched := expected.resolve_right unknown
        simp only [after, List.filterMap_append, List.mem_append] at launched
        obtain rfl : peer = peer' := by simpa [Happening.launched?] using launched.resolve_left unlaunched
        obtain ⟨new, empty⟩ := origins.resolve_left unknown
        refine ⟨now, fun uri => (empty uri).trans ?_⟩
        -- Whoever has published is known, and this connection was not.
        have silent : ∀ entry ∈ published inputs, entry.1 ≠ peer := by
          rintro entry inside rfl
          exact new (filed.origin entry inside)
        rw [latest_unpublished rfl, latest_of_silent silent]
    | subscribed | unsubscribed =>
      obtain ⟨before, file⟩ := filed.onFile expected
      exact ⟨before, fun uri => (file uri).trans (latest_unpublished rfl peer uri inputs).symm⟩
    | published sender event =>
      obtain ⟨w, heard⟩ := c.publish_eq host sender event
      have expected' : peer ∈ c.history.filterMap Happening.launched? ∨ known world peer := by
        simpa [heard, after, Happening.launched?, List.filterMap_cons, List.mem_filterMap] using expected
      obtain ⟨before, file⟩ := filed.onFile expected'
      obtain ⟨after, stored⟩ := files.store sender event c.world (origin _ rfl) peer before
      rw [publish_world]
      exact ⟨after, fun uri => by rw [stored, file, latest_published]⟩
  · rw [published_concat] at inside
    rcases List.mem_append.1 inside with before | last
    · exact stays (filed.origin entry before)
    · exact stays (origin entry (by simpa using last))

/-- Whatever is published comes from a connection that is known by then. -/
def FromConnections (host : Host W P) (known : W → P → Prop) (t : Tasks W P) : List (Input P) → Prop
  | [] => True
  | input :: rest =>
    (∀ entry ∈ input.published?.toList, known t.client.world entry.1) ∧
      FromConnections host known (t.take host input) rest

instance instDecidableFromConnections (host : Host W P) (known : W → P → Prop)
    [∀ w peer, Decidable (known w peer)] :
    (t : Tasks W P) → (inputs : List (Input P)) → Decidable (FromConnections host known t inputs)
  | _, [] => .isTrue trivial
  | t, input :: rest =>
    have := instDecidableFromConnections host known (t.take host input) rest
    inferInstanceAs (Decidable (_ ∧ _))

private theorem fromConnections_concat {host : Host W P} {known : W → P → Prop} {t : Tasks W P}
    {inputs : List (Input P)} {input : Input P} :
    FromConnections host known t (inputs ++ [input]) ↔ FromConnections host known t inputs ∧
      ∀ entry ∈ input.published?.toList, known (t.takeAll host inputs).client.world entry.1 := by
  induction inputs generalizing t with
  | nil => simp [FromConnections, takeAll]
  | cons first rest ih =>
    rw [List.cons_append, FromConnections, FromConnections, ih, and_assoc]
    rfl

private theorem InSession.beside {t : Tasks W P} (inSession : InSession t) {phase : TaskPhase P}
    (fresh : phase.isFresh = true) : InSession { t with phases := t.phases ++ [phase] } := by
  have outside : phase.holdsLock = false := by
    cases phase <;> simp [TaskPhase.isFresh, TaskPhase.holdsLock] at fresh ⊢
  have here {task : Nat} {other : TaskPhase P} (found : (t.phases ++ [phase])[task]? = some other) :
      t.phases[task]? = some other ∨ other = phase := by
    rw [List.getElem?_append] at found
    split at found
    · exact .inl found
    · exact .inr (List.mem_singleton.1 (List.mem_of_getElem? found))
  have still {task : Nat} {other : TaskPhase P} (found : t.phases[task]? = some other) :
      (t.phases ++ [phase])[task]? = some other := by
    rw [List.getElem?_append_left (List.getElem?_eq_some_iff.1 found).1, found]
  refine ⟨⟨fun task holds => ?_, fun task other found inside => ?_, fun task => ?_, inSession.once⟩,
    fun task other found inside => ?_, inSession.outside⟩
  · obtain ⟨other, found, inside⟩ := inSession.held task holds
    exact ⟨other, still found, inside⟩
  · rcases here found with before | rfl
    · exact inSession.alone task other before inside
    · simp [outside] at inside
  · rw [inSession.lined]
    constructor
    · rintro ⟨call, found⟩
      exact ⟨call, still found⟩
    · rintro ⟨call, found⟩
      rcases here found with before | rfl
      · exact ⟨call, before⟩
      · simp [TaskPhase.isFresh] at fresh
  · rcases here found with before | rfl
    · exact inSession.inside task other before inside
    · simp [outside] at inside

private theorem InSession.take {t : Tasks W P} (inSession : InSession t) (host : Host W P) (input : Input P) :
    InSession (t.take host input) := by
  cases input with
  | begun phase fresh => exact inSession.beside fresh
  | step task =>
    change InSession ((t.step? host task).getD t)
    cases step : t.step? host task with
    | none => exact inSession
    | some t' => exact inSession.change (step?_change step)
  | call call aside =>
    have same := t.client.perform_same host call aside
    exact ⟨⟨inSession.held, inSession.alone, inSession.lined, inSession.once⟩,
      fun task phase found inside => (inSession.inside task phase found inside).same same,
      fun vacant => (inSession.outside vacant).same same⟩

private theorem InSession.takeAll {t : Tasks W P} (inSession : InSession t) (host : Host W P)
    (inputs : List (Input P)) : InSession (t.takeAll host inputs) := by
  induction inputs using List.reverseRecOn with
  | nil => exact inSession
  | append_singleton inputs input ih =>
    rw [takeAll_concat]
    exact ih.take host input

private theorem Named.takeAll {t : Tasks W P} (named : Named t) (host : Host W P) (inputs : List (Input P)) :
    Named (t.takeAll host inputs) := by
  induction inputs using List.reverseRecOn with
  | nil => exact named
  | append_singleton inputs input ih =>
    rw [takeAll_concat]
    exact ih.take host input

private theorem Filed.takeAll [DecidableEq P] {host : Host W P} {known : W → P → Prop} {world : W} {peer : P}
    (files : host.Files known world) {t : Tasks W P} (filed : Filed host known world peer [] t.client)
    {inputs : List (Input P)} (origin : FromConnections host known t inputs) :
    Filed host known world peer inputs (t.takeAll host inputs).client := by
  induction inputs using List.reverseRecOn with
  | nil => exact filed
  | append_singleton inputs input ih =>
    obtain ⟨earlier, last⟩ := fromConnections_concat.1 origin
    rw [takeAll_concat]
    exact (ih earlier).met files ((t.takeAll host inputs).met host input) fun entry publication =>
      last entry (by simp [publication])

def idle (settings : ServerSettings) (root : String) (world : W) : Tasks W P :=
  Tasks.begin (Client.new settings root world) []

/-- Whatever else goes on, a listener hears what any connection publishes between its registration and
its removal, and the connection in use has on file what it has published last. -/
theorem publications_arrive [DecidableEq P] (host : Host W P) (settings : ServerSettings) (root : String)
    (world : W) (inputs : List (Input P)) :
    let start : Tasks W P := idle settings root world
    let t := start.takeAll host inputs
    (∀ listener before during after, inputs = before ++ .register listener :: (during ++ after) →
      Listens host start listener before during after →
      heard listener t.client.history = (published during).map Prod.snd) ∧
    (∀ known, host.Files known world → FromConnections host known start inputs →
      ∀ id peer uri, t.client.active = some (id, peer) →
        (known world peer → ∀ uri, host.diagnostics peer uri world = []) →
          t.client.publishedDiagnostics host uri = .ok (latest peer uri inputs)) ∧
    (t.holder = none → t.client.isStarted = true → ∃ id peer, t.client.active = some (id, peer)) := by
  intro start t
  refine ⟨?_, ?_, ?_⟩
  · intro listener before during after split listens
    have heard := listens.heard_eq rfl rfl
    rwa [← split] at heard
  · intro known files origin id peer uri inUse empty
    have begin : Filed host known world peer [] start.client := by
      refine ⟨fun expected => ?_, by simp [published]⟩
      have here : known world peer := by simpa [start, idle, Tasks.begin, Client.new] using expected
      exact ⟨here, fun uri => empty here uri⟩
    have named : Named start := by constructor <;> simp [start, idle, Tasks.begin, Client.new]
    have launched := (named.takeAll host inputs).inUse id peer inUse
    obtain ⟨_, file⟩ := (begin.takeAll files origin).onFile (.inl launched)
    rw [publishedDiagnostics, peer?, inUse]
    exact congrArg Except.ok (file uri)
  · intro vacant started
    have begin : InSession start := InSession.begin (Settled.new settings root world) (by simp)
    have connected := ((begin.takeAll host inputs).outside vacant).connected
    rw [started] at connected
    obtain ⟨⟨id, peer⟩, inUse⟩ := Option.isSome_iff_exists.1 connected.symm
    exact ⟨id, peer, inUse⟩

end Tasks

namespace Rehearsal

private theorem diagnostics_modify (w : World) (peer other : Nat) (f : Session → Session) (uri : String) :
    host.diagnostics other uri (w.modify peer f) =
      if peer = other then ((w.sessions[other]?.map f).bind fun s => s.stored.get? uri).getD []
      else host.diagnostics other uri w := by
  by_cases same : peer = other
  · subst same
    cases found : w.sessions[peer]? <;> simp [host, World.modify, found]
  · simp [host, World.modify, same]

private theorem files (world : World) : host.Files (fun w peer => peer < w.sessions.length) world where
  launched server options w peer w' launch := by
    unfold host at launch
    dsimp only at launch
    split at launch
    · simp at launch
    · obtain ⟨rfl, rfl⟩ := by simpa using launch
      refine ⟨.inr ⟨Nat.lt_irrefl _, fun uri => by simp [host, Table.get?]⟩, by simp,
        fun other before => ⟨?_, fun uri => ?_⟩⟩
      · simp only [List.length_append, List.length_singleton]
        omega
      · simp [host, List.getElem?_append_left before]
  launchFailed server options w e w' failed := by
    unfold host at failed
    dsimp only at failed
    split at failed
    · obtain ⟨_, rfl⟩ := by simpa using failed
      exact .refl _ _ w
    · simp at failed
  notify peer notice w := by
    unfold host
    dsimp only
    split <;> exact .refl _ _ w
  request peer method params w := by
    unfold host
    dsimp only
    split <;> exact .refl _ _ w
  stop peer w := by
    intro other before
    have length : (w.modify peer fun s => { s with stopped := true }).sessions.length = w.sessions.length := by
      simp [World.modify]
    refine ⟨Nat.lt_of_lt_of_eq before length.symm, fun uri => ?_⟩
    change host.diagnostics other uri (w.modify peer _) = _
    rw [diagnostics_modify]
    split
    · cases found : w.sessions[other]? <;> simp [host, found]
    · rfl
  store peer event w known other before := by
    have length : (host.store peer event w).sessions.length = w.sessions.length := by
      simp [host, World.modify]
    refine ⟨Nat.lt_of_lt_of_eq before length.symm, fun uri => ?_⟩
    have found : w.sessions[other]? = some w.sessions[other] := List.getElem?_eq_getElem before
    change host.diagnostics other uri (w.modify peer _) = _
    rw [diagnostics_modify, found]
    by_cases same : peer = other
    · subst same
      by_cases own : event.uri = uri
      · simp [own, Table.get?_insert]
      · simp [own, Ne.symm own, Table.get?_insert, host, found]
    · simp [same]

def filing : Host (World × (Nat → Table (List Diagnostic))) Nat where
  launch server options w :=
    let (result, world) := host.launch server options w.1
    (result, world, w.2)
  notify peer notice w :=
    let (result, world) := host.notify peer notice w.1
    (result, world, w.2)
  request peer method params w :=
    let (result, world) := host.request peer method params w.1
    (result, world, w.2)
  diagnostics peer uri w := ((w.2 peer).get? uri).getD []
  store peer event w := (w.1, fun other =>
    if peer = other then (w.2 other).insert event.uri event.diagnostics else w.2 other)
  stop peer w :=
    let (result, world) := host.stop peer w.1
    (result, world, w.2)

private theorem filing_files (world : World × (Nat → Table (List Diagnostic))) :
    filing.Files (fun _ _ => True) world where
  launched server options w peer w' launch := by
    obtain ⟨-, rfl⟩ := Prod.mk.inj launch
    exact ⟨.inl trivial, trivial, fun _ _ => ⟨trivial, fun _ => rfl⟩⟩
  launchFailed server options w e w' failed := by
    obtain ⟨-, rfl⟩ := Prod.mk.inj failed
    exact fun _ _ => ⟨trivial, fun _ => rfl⟩
  notify _ _ _ := fun _ _ => ⟨trivial, fun _ => rfl⟩
  request _ _ _ _ := fun _ _ => ⟨trivial, fun _ => rfl⟩
  stop _ _ := fun _ _ => ⟨trivial, fun _ => rfl⟩
  store peer event w _ other _ := by
    refine ⟨trivial, fun uri => ?_⟩
    by_cases same : peer = other
    · by_cases own : event.uri = uri
      · simp [filing, same, own, Table.get?_insert]
      · simp [filing, same, own, Ne.symm own, Table.get?_insert]
    · simp [filing, same]

end Rehearsal

namespace Tasks

def news (text : String) : DiagnosticEvent := ⟨"file:///a.lean", [.new (.point .zero) .error text]⟩

def early : List (Input Nat) :=
  .begun (.arriving .restart) rfl :: List.replicate 8 (.step 0) ++ [.call (.publish 0 (news "unheard")) rfl]

/-- The client is restarted; the new connection publishes, and then the old one does once more. -/
def meanwhile : List (Input Nat) :=
  .call (.publish 0 (news "first")) rfl :: .begun (.arriving .restart) rfl :: List.replicate 12 (.step 1) ++
    [.call (.publish 1 (news "current")) rfl, .call (.publish 0 (news "late")) rfl]

def later : List (Input Nat) := [.remove 1, .call (.publish 0 (news "missed")) rfl]

def handshake : List (Input Nat) :=
  .begun (.arriving .restart) rfl :: .call (.publish 0 (news "early")) rfl :: List.replicate 8 (.step 0)

theorem publications_arrive_late :
    let t := (idle .default "/work" .new).takeAll Rehearsal.host
      (early ++ .register "panel" :: (meanwhile ++ later))
    heard "panel" t.client.history = [news "first", news "current", news "late"] ∧
      t.client.publishedDiagnostics Rehearsal.host "file:///a.lean" = .ok (news "current").diagnostics ∧
      (∃ id peer, t.client.active = some (id, peer)) ∧
      ((idle .default "/work" (.new, fun _ => [])).takeAll Rehearsal.filing
        handshake).client.publishedDiagnostics Rehearsal.filing "file:///a.lean" =
          .ok (news "early").diagnostics := by
  obtain ⟨listeners, files, started⟩ := publications_arrive Rehearsal.host .default "/work" .new
    (early ++ .register "panel" :: (meanwhile ++ later))
  refine ⟨?_, ?_, started (by decide +kernel) (by decide +kernel), ?_⟩
  · apply listeners "panel" early meanwhile later rfl
    constructor
    · decide +kernel
    · decide +kernel
    · exact .inr ⟨_, rfl⟩
  · refine files _ (Rehearsal.files _) ?_ 2 1 _ ?_ ?_
    · decide +kernel
    · decide +kernel
    · intro known
      exact absurd known (by decide)
  · obtain ⟨_, files, _⟩ := publications_arrive Rehearsal.filing .default "/work" (.new, fun _ => []) handshake
    refine files _ (Rehearsal.filing_files _) ?_ 1 0 _ ?_ ?_
    · decide +kernel
    · decide +kernel
    · exact fun _ _ => rfl

end Tasks

end LanguageClient
