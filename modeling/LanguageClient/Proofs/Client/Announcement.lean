import LanguageClient.Client.Rehearsal
import LanguageClient.Proofs.Client.Mirror
import LanguageClient.Proofs.Client.Started
import LanguageClient.Proofs.Client.Synchronized

/-! What a start brings about, and in which order. The starts that succeed are numbered one after
another; each lets every listener hear of it once, and what a listener then finds is a started client
whose new connection was told of each open document once and of nothing else. -/
namespace LanguageClient

variable {W P : Type}

def Happening.heardRestart? : Happening P → Option (String × Bool × Option Nat)
  | .heardRestart listener isStarted connection => some (listener, isStarted, connection)
  | _ => none

private theorem Happening.eq_of_heardRestart? {h : Happening P} {listener : String} {isStarted : Bool}
    {connection : Option Nat} (heard : h.heardRestart? = some (listener, isStarted, connection)) :
    h = .heardRestart listener isStarted connection := by
  cases h with
  | heardRestart other started id =>
    cases heard
    rfl
  | _ => contradiction

def heardRestarts (history : List (Happening P)) : List (String × Bool × Option Nat) :=
  history.filterMap Happening.heardRestart?

/-- The notices about one document. -/
def noticesAbout (uri : String) (notices : List Notice) : List Notice :=
  notices.filter fun notice => notice.uri = uri

/-- The number of starts and restarts that succeeded. -/
def starts (outcomes : List (ClientCall P × Except ClientError Unit)) : Nat :=
  outcomes.countP fun outcome => outcome.1.lifecycle? = some .restart && outcome.2.isOk

namespace Client

variable {c c' : Client W P}

/-- The client after a restart that has come to its end. `front` is what happened before the
listeners heard of it: something with the connection before, the launch, and the reopening. -/
structure Announced (c : Client W P) (peer : P) (front : List (Happening P)) (c' : Client W P) :
    Prop where
  active : c'.active = some (c.nextId, peer)
  nextId : c'.nextId = c.nextId + 1
  documents : c'.documents = renewed c.documents
  history : c'.history = c.history ++ (front ++
    c.restarted.audience.map fun listener => .heardRestart listener true (some c.nextId))
  launched : ∃ before server options more, (∀ h ∈ before, h.heardRestart? = none) ∧
    Reopened peer (renewed c.documents) more ∧
    front = before ++ .launched peer server options ::
      (more ++ [.reopened (renewed c.documents).length, .started c.nextId])

theorem launchNew_announced (host : Host W P) (c : Client W P) :
    (∃ e w more, c.launchNew host = (.error e, c.after w more) ∧ ∀ h ∈ more, h.heardRestart? = none) ∨
    ∃ peer front c', c.launchNew host = (.ok (), c') ∧ Announced c peer front c' := by
  have outcome := c.launchNew_outcome host
  generalize c.launchNew host = result at outcome ⊢
  cases outcome with
  | failed e w => exact .inl ⟨e, w, _, rfl, by simp [Happening.heardRestart?]⟩
  | started peer w =>
    obtain ⟨w', more, opened, told⟩ := (c.launchedOn peer w).reopen_eq host peer
    refine .inr ⟨peer, [.launching c.serverOptions] ++
      .launched peer c.serverOptions c.clientOptions ::
        (more ++ [.reopened (renewed c.documents).length, .started c.nextId]), _, rfl, ?_⟩
    rw [announce_eq, opened]
    refine ⟨rfl, rfl, rfl, ?_, _, _, _, more, ?_, told, rfl⟩
    · simp [after, launchedOn, connectionId]
    · simp [Happening.heardRestart?]

/-- A restart that fails is heard of by nobody and uses up no number; one that succeeds is. -/
theorem restart_cases (host : Host W P) (connected : c.isStarted = c.active.isSome) :
    (∃ e c' more, c.restart host = (.error e, c') ∧ c'.nextId = c.nextId ∧
      c'.history = c.history ++ more ∧ ∀ h ∈ more, h.heardRestart? = none) ∨
    ∃ peer front c', c.restart host = (.ok (), c') ∧ Announced c peer front c' := by
  have outcome := c.restart_outcome host connected
  generalize c.restart host = result at outcome ⊢
  cases outcome with
  | idle vacant =>
    rcases c.launchNew_announced host with ⟨e, w, more, failed, silent⟩ | done
    · exact .inl ⟨e, _, more, failed, rfl, rfl, silent⟩
    · exact .inr done
  | stopFailed id peer e w inUse =>
    exact .inl ⟨e, _, _, rfl, rfl, rfl, by simp [Happening.heardRestart?]⟩
  | replaced id old w inUse =>
    rcases (c.stoppedOn id old (.ok ()) w).launchNew_announced host with
      ⟨e, w', more, failed, silent⟩ | ⟨peer, front, c', done, announced⟩
    · refine .inl ⟨e, _, [.stopping id old, .stopped id old (.ok ())] ++ more, failed, rfl, ?_, ?_⟩
      · simp [stoppedOn, after]
      · simpa [Happening.heardRestart?] using silent
    · obtain ⟨before, server, options, more, silent, told, fronted⟩ := announced.launched
      refine .inr ⟨peer, [.stopping id old, .stopped id old (.ok ())] ++ front, c', done,
        announced.active, announced.nextId, announced.documents, ?_, ?_⟩
      · rw [announced.history]
        simp [stoppedOn, after]
      · refine ⟨[.stopping id old, .stopped id old (.ok ())] ++ before, server, options, more, ?_, told, ?_⟩
        · simpa [Happening.heardRestart?] using silent
        · rw [fronted, List.append_assoc]
          rfl

private theorem Reopened.unheard {peer : P} {entries : Table OpenDocument} {more : List (Happening P)}
    (told : Reopened peer entries more) : ∀ h ∈ more, h.heardRestart? = none := by
  induction told with
  | nil => simp
  | delivered entry later ih | refused entry e later ih => simpa [Happening.heardRestart?] using ih

private theorem Announced.unheard {peer : P} {front : List (Happening P)}
    (announced : Announced c peer front c') : ∀ h ∈ front, h.heardRestart? = none := by
  obtain ⟨before, server, options, more, silent, told, rfl⟩ := announced.launched
  intro h inside
  rcases List.mem_append.1 inside with early | late
  · exact silent h early
  · rcases List.mem_cons.1 late with rfl | late
    · rfl
    · rcases List.mem_append.1 late with opened | ended
      · exact told.unheard h opened
      · rcases List.mem_pair.1 ended with rfl | rfl <;> rfl

private theorem heardRestarts_of_unheard {happened : List (Happening P)}
    (silent : ∀ h ∈ happened, h.heardRestart? = none) : heardRestarts happened = [] :=
  List.filterMap_eq_nil_iff.2 silent

private theorem Announced.heard {peer : P} {front : List (Happening P)} (announced : Announced c peer front c') :
    heardRestarts (front ++ c.restarted.audience.map fun listener =>
      .heardRestart listener true (some c.nextId)) =
        c.restarted.audience.map fun listener => (listener, true, some c.nextId) := by
  have silent := heardRestarts_of_unheard announced.unheard
  rw [heardRestarts] at silent ⊢
  rw [List.filterMap_append, silent, List.filterMap_map, List.nil_append, ← List.filterMap_eq_map]
  rfl

private theorem restart_nextId (host : Host W P) (connected : c.isStarted = c.active.isSome) :
    (c.restart host).2.nextId = c.nextId + if (c.restart host).1.isOk then 1 else 0 := by
  rcases c.restart_cases host connected with ⟨e, c', more, failed, same, _⟩ | ⟨peer, front, c', done, announced⟩
  · rw [failed]
    exact same
  · rw [done]
    exact announced.nextId

/-- Every start that succeeds takes the next number, and nothing else takes one. -/
theorem run_nextId (settled : Settled c) (host : Host W P) (calls : List (ClientCall P)) :
    (c.run host calls).nextId = c.nextId + starts (c.outcomes host calls) := by
  induction calls using List.reverseRecOn with
  | nil => rfl
  | append_singleton calls call ih =>
    have connected := (settled.run host calls).connected
    rw [run_append_singleton, outcomes_append_singleton, starts, List.countP_append, ← Nat.add_assoc]
    rw [starts] at ih
    rw [← ih]
    cases call with
    | start | restart =>
      have next := restart_nextId host connected
      simpa [perform, start, ClientCall.lifecycle?, List.countP_singleton] using next
    | stop =>
      have outcome := (c.run host calls).stop_outcome host connected
      have kept : ((c.run host calls).stop host).2.nextId = (c.run host calls).nextId := by
        generalize (c.run host calls).stop host = result at outcome ⊢
        cases outcome <;> rfl
      simpa [perform, ClientCall.lifecycle?] using kept
    | _ =>
      rw [((c.run host calls).perform_same host _ rfl).nextId]
      simp [ClientCall.lifecycle?]

/-- A connection that was in use before has a smaller number than the next one. -/
theorem connectionId_ne_nextId (settled : Settled c) (host : Host W P) (calls : List (ClientCall P)) :
    c.connectionId ≠ some (c.run host calls).nextId := by
  intro same
  obtain ⟨⟨id, peer⟩, inUse, number⟩ := Option.map_eq_some_iff.1 same
  have current := settled.current id peer inUse
  have numbered := settled.numbered
  have grown := run_nextId settled host calls
  dsimp only at number
  omega

section Received
variable [DecidableEq P]

/-- When no notice is refused, a new connection is told of the documents in turn. -/
theorem Reopened.received_eq {peer : P} {entries : Table OpenDocument} {more : List (Happening P)}
    (told : Reopened peer entries more) (accepted : ∀ h ∈ more, h.isRefused = false)
    (history : List (Happening P)) :
    received peer (history ++ more) = received peer history ++ entries.map reopening := by
  induction told generalizing history with
  | nil => simp
  | @delivered entry rest more later ih =>
    have one : received peer (history ++ [.delivered peer (reopening entry)]) =
        received peer history ++ [reopening entry] := by
      simp [Happening.addReceived]
    have next := ih (fun h inside => accepted h (by simp [inside]))
      (history ++ [.delivered peer (reopening entry)])
    rw [one] at next
    simpa using next
  | refused entry e later ih =>
    have refusal := accepted (.refused peer (reopening entry) e) (by simp)
    simp [Happening.isRefused] at refusal

/-- The documents of a sorted table, opened in turn, are opened once each. -/
theorem noticesAbout_reopening {documents : Table OpenDocument} (sorted : documents.Sorted)
    (uri : String) : noticesAbout uri (documents.map reopening) =
      ((documents.get? uri).map fun known => Notice.opened (known.toDocument uri)).toList := by
  rw [noticesAbout, List.filter_map]
  have about : ((fun notice : Notice => decide (notice.uri = uri)) ∘ reopening) =
      fun entry : String × OpenDocument => decide (entry.1 = uri) := rfl
  rw [about, sorted.filter_key]
  cases documents.get? uri <;> rfl

private theorem Announced.received_eq {peer : P} {front : List (Happening P)}
    (announced : Announced c peer front c')
    (accepted : ∀ h ∈ front, h.isRefused = false) {later : List (Happening P)}
    (silent : ∀ h ∈ later, h.Quiet) :
    received peer (c.history ++ (front ++ later)) = (renewed c.documents).map reopening := by
  obtain ⟨before, server, options, more, _, told, rfl⟩ := announced.launched
  have fresh : received peer ((c.history ++ before) ++ [.launched peer server options]) = [] := by
    rw [received_concat, Happening.addReceived, if_pos rfl]
  have opened := told.received_eq (fun h inside => accepted h (by simp [inside]))
    ((c.history ++ before) ++ [.launched peer server options])
  have silent' : ∀ h ∈ .reopened (renewed c.documents).length :: .started c.nextId :: later, h.Quiet := by
    simpa [Happening.Quiet] using silent
  have ended := received_append_quiet peer
    (((c.history ++ before) ++ [.launched peer server options]) ++ more) silent'
  rw [opened, fresh] at ended
  simpa using ended

private theorem append_of_notMem {α : Type} {front later told rest : List α} {x : α}
    (whole : front ++ later = told ++ x :: rest) (absent : x ∉ front) :
    ∃ between, told = front ++ between ∧ later = between ++ x :: rest := by
  rcases List.append_eq_append_iff.1 whole with ⟨between, split, behind⟩ | ⟨between, split, behind⟩
  · exact ⟨between, split, behind⟩
  · cases between with
    | nil => exact ⟨[], by simpa using split.symm, by simpa using behind.symm⟩
    | cons y ys =>
      have first : x = y := (List.cons.inj behind).1
      exact absurd (by simp [split, first]) absent

/-- When a listener hears of a start and no notice was refused, the new connection has received one
opening of each document of the table, in its first version, and nothing else. -/
theorem Announced.told {peer : P} {front : List (Happening P)} (announced : Announced c peer front c')
    (sorted : c.documents.Sorted) {happened told rest : List (Happening P)} {listener : String}
    {isStarted : Bool} {connection : Option Nat}
    (grown : c'.history = c.history ++ happened) (accepted : ∀ h ∈ happened, h.isRefused = false)
    (split : happened = told ++ .heardRestart listener isStarted connection :: rest) (uri : String) :
    noticesAbout uri (received peer (c.history ++ told)) =
      ((c.documents.get? uri).map fun known =>
        Notice.opened ⟨uri, known.languageId, 1, known.text⟩).toList := by
  have whole := List.append_cancel_left (grown.symm.trans announced.history)
  have absent : .heardRestart listener isStarted connection ∉ front := by
    intro inside
    simpa [Happening.heardRestart?] using announced.unheard _ inside
  obtain ⟨between, rfl, heard⟩ := append_of_notMem (whole.symm.trans split) absent
  have silent : ∀ h ∈ between, h.Quiet := by
    intro h inside
    have listened : h ∈ c.restarted.audience.map fun listener =>
        Happening.heardRestart listener true (some c.nextId) := by rw [heard]; simp [inside]
    obtain ⟨l, _, rfl⟩ := List.mem_map.1 listened
    trivial
  rw [announced.received_eq (fun h inside => accepted h (by rw [whole]; simp [inside])) silent,
    renewed, noticesAbout_reopening (sorted.mapValues _), Table.get?_mapValues]
  cases c.documents.get? uri <;> rfl

end Received

/-- Whatever was called before: a start or a restart that fails uses up no number and is heard of by
nobody. One that succeeds, the `k`-th, puts a connection in use under the number `k`, which no
connection had before, and each listener hears of it once, of a started client and of this
connection. Unless a notice is refused, the connection was by then told of every document in the
table once, in its first version, in the language and with the text that were last sent, and of
nothing else. -/
theorem restart_announced [DecidableEq P] (host : Host W P) (settings : ServerSettings) (root : String)
    (world : W) (earlier : List (ClientCall P)) (call : ClientCall P)
    (isStart : call.lifecycle? = some .restart) (c c' : Client W P) (result : Except ClientError Unit)
    (reached : c = (Client.new settings root world).run host earlier)
    (performed : c.perform host call = (result, c')) :
    ∃ happened, c'.history = c.history ++ happened ∧
      (∀ e, result = .error e → heardRestarts happened = [] ∧ c'.nextId = c.nextId) ∧
      (result = .ok () → ∃ peer number,
        number = starts ((Client.new settings root world).outcomes host earlier) + 1 ∧
        c'.active = some (number, peer) ∧
        (∀ before, before <+: earlier →
          ((Client.new settings root world).run host before).connectionId ≠ some number) ∧
        heardRestarts happened =
          c.restarted.audience.map (fun listener => (listener, true, some number)) ∧
        c'.documents = renewed c.documents ∧
        (∀ uri known, c.documents.get? uri = some known →
          lastSynchronized uri c.history = some (known.languageId, known.text)) ∧
        ((∀ h ∈ happened, h.isRefused = false) → ∀ told listener isStarted connection rest,
          happened = told ++ .heardRestart listener isStarted connection :: rest →
          ∀ uri, noticesAbout uri (received peer (c.history ++ told)) =
            ((c.documents.get? uri).map fun known =>
              Notice.opened ⟨uri, known.languageId, 1, known.text⟩).toList)) := by
  have fresh := Settled.new (P := P) settings root world
  have settled := fresh.run host earlier
  have synchronized := Synchronized.run fresh ⟨List.Pairwise.nil, by simp [Client.new]⟩ host earlier
  have numbered := run_nextId fresh host earlier
  rw [← reached] at settled synchronized numbered
  have asked : c.restart host = (result, c') := by
    cases call with
    | start | restart => exact performed
    | _ => simp [ClientCall.lifecycle?] at isStart
  rcases c.restart_cases host settled.connected with
    ⟨e, failed, more, outcome, same, grown, silent⟩ | ⟨peer, front, done, outcome, announced⟩
  · obtain ⟨rfl, rfl⟩ := Prod.mk.inj (asked.symm.trans outcome)
    exact ⟨more, grown, fun _ _ => ⟨heardRestarts_of_unheard silent, same⟩, fun ok => by simp at ok⟩
  · obtain ⟨rfl, rfl⟩ := Prod.mk.inj (asked.symm.trans outcome)
    refine ⟨_, announced.history, fun e failed => by simp at failed, fun _ =>
      ⟨peer, c.nextId, ?_, announced.active, ?_, announced.heard, announced.documents,
        synchronized.sent, ?_⟩⟩
    · rw [numbered, Client.new, Nat.add_comm]
    · intro before start
      obtain ⟨after, rfl⟩ := start
      have differs := connectionId_ne_nextId (fresh.run host before) host after
      rw [reached, run_append]
      exact differs
    · intro accepted told listener isStarted connection rest split uri
      exact announced.told synchronized.sorted announced.history accepted split uri

def attended : Client Rehearsal.World Nat :=
  (Client.new .default "/work" .new).run Rehearsal.host
    [.onRestarted "first", .onRestarted "second", .start, .openDocument ⟨"file:///a.lean", "lean4", 3, "a"⟩,
      .changeDocument ⟨"file:///a.lean", "lean4", 4, "b"⟩, .stop]

theorem restart_announced_attended : ∃ peer told rest,
    (attended.start Rehearsal.host).2.active = some (2, peer) ∧
    (attended.start Rehearsal.host).2.history =
      attended.history ++ (told ++ .heardRestart "first" true (some 2) :: rest) ∧
    heardRestarts rest = [("second", true, some 2)] ∧
    noticesAbout "file:///a.lean" (received peer (attended.history ++ told)) =
      [.opened ⟨"file:///a.lean", "lean4", 1, "b"⟩] := by
  have accepted : (attended.start Rehearsal.host).2.history.all (fun h => !h.isRefused) = true := by decide
  have done : (attended.start Rehearsal.host).1 = .ok () := by decide
  have audience : attended.restarted.audience = ["first", "second"] := by decide
  have open? : attended.documents.get? "file:///a.lean" = some ⟨"lean4", 2, "b"⟩ := by decide
  obtain ⟨happened, grown, _, announced⟩ := restart_announced Rehearsal.host .default "/work" .new _ .start
    rfl attended (attended.start Rehearsal.host).2 (attended.start Rehearsal.host).1 rfl rfl
  obtain ⟨peer, number, numbered, active, _, heard, _, _, received⟩ := announced done
  have second : number = 2 := numbered.trans (by decide)
  subst second
  rw [audience] at heard
  obtain ⟨told, h, rest, split, _, first, others⟩ := List.filterMap_eq_cons_iff.1 heard
  obtain rfl := Happening.eq_of_heardRestart? first
  refine ⟨peer, told, rest, active, by rw [grown, split], others, ?_⟩
  rw [received (fun h inside => ?_) told "first" true (some 2) rest split, open?]
  · rfl
  · have taken := List.all_eq_true.1 accepted h (by rw [grown]; simp [inside])
    simpa using taken

end Client

end LanguageClient
