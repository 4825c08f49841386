import LanguageClient.Client.Rehearsal
import LanguageClient.Proofs.Client.Tasks.Tune
import LanguageClient.Proofs.Client.Tasks.Turns

/-! Calls about documents, side by side. What one call tells the server about a document that another
call has just taken out of the table overtakes the closing, and only then do the table and the server
part. -/
namespace LanguageClient

variable {W P : Type}

namespace Tasks

open Client

variable [DecidableEq P]

structure Forwarding (peer : P) (t : Tasks W P) : Prop where
  aside : ∀ phase ∈ t.phases, phase.isAside = true
  inUse : ∃ id, t.client.active = some (id, peer)
  ours : ∀ phase ∈ t.phases, ∀ other, phase.peer? = some other → other = peer
  live : isLive peer t.client.history = true
  sorted : t.client.documents.Sorted

/-- The document, if a call tells the connection of one of which another call has still to tell it that
it was closed. -/
def overtaken? (peer : P) (t : Tasks W P) (task : Nat) : Option String :=
  match (t.phases[task]?).bind TaskPhase.tells? with
  | some (other, uri) => if other = peer ∧ .dismissing peer uri ∈ t.phases then some uri else none
  | none => none

/-- The documents of which a closing is overtaken. -/
def overtaken (host : Host W P) (peer : P) : Tasks W P → List Nat → List String :=
  singledOut host (overtaken? peer)

private theorem Forwarding.step {host : Host W P} {peer : P} {t t' : Tasks W P} {task : Nat}
    (forwarding : Forwarding peer t) (step : t.step? host task = some t') : ∃ phase next,
      t.phases[task]? = some phase ∧ t'.phases = t.phases.set task next ∧
      Works host t.client phase next t'.client ∧ Forwarding peer t' := by
  have forwards := forwarding.aside
  obtain ⟨id, inUse⟩ := forwarding.inUse
  obtain ⟨phase, found, _⟩ := Option.bind_eq_some_iff.1 step
  have inside := List.mem_of_getElem? found
  obtain ⟨next, client, rfl, works⟩ := step?_works found (forwards phase inside) step
  have same := works.same
  obtain ⟨more, grown, aside⟩ := same.history
  refine ⟨phase, next, found, rfl, works, ?_, ⟨id, same.active.trans inUse⟩, ?_, ?_,
    works.sorted forwarding.sorted⟩
  · intro other among
    rcases List.mem_or_eq_of_mem_set among with before | rfl
    · exact forwards other before
    · exact works.aside
  · intro other among peer' names
    rcases List.mem_or_eq_of_mem_set among with before | rfl
    · exact forwarding.ours other before peer' names
    · rcases works.peer? names with before | ⟨id', inUse'⟩
      · exact forwarding.ours phase inside peer' before
      · cases inUse.symm.trans inUse'
        rfl
  · change isLive peer client.history = true
    rw [grown, isLive_append_aside peer _ more aside]
    exact forwarding.live

private theorem Forwarding.timely {peer : P} {t : Tasks W P} {task : Nat} {phase : TaskPhase P} {uri : String}
    (forwarding : Forwarding peer t) (found : t.phases[task]? = some phase)
    (timely : overtaken? peer t task ≠ some uri) : ¬ Intrudes peer uri t.client t.phases phase := by
  rintro (⟨_, tells, opening⟩ | ⟨_, tells, dismissing⟩ | ⟨older, differs⟩)
  · obtain ⟨other, inside, opens⟩ := opening
    have aside := forwarding.aside other inside
    cases other <;> simp [TaskPhase.isAside, TaskPhase.opens?] at aside opens
  · apply timely
    rw [overtaken?, found, Option.bind_some, tells]
    exact if_pos ⟨rfl, dismissing⟩
  · exact differs (forwarding.ours _ (List.mem_of_getElem? found) older rfl)

private theorem Forwarding.run {peer : P} {t : Tasks W P} (forwarding : Forwarding peer t)
    (host : Host W P) (schedule : List Nat) : Forwarding peer (t.run host schedule) := by
  induction schedule using List.reverseRecOn with
  | nil => exact forwarding
  | append_singleton schedule task ih =>
    rw [run_concat]
    cases step : (t.run host schedule).step? host task with
    | none => exact ih
    | some t' =>
      obtain ⟨_, _, _, _, _, after⟩ := ih.step step
      exact after

/-- As long as no closing of the document is overtaken, connection and table stay in tune. -/
theorem Tuned.run {host : Host W P} {peer : P} {uri : String} {t : Tasks W P} (forwarding : Forwarding peer t)
    (tuned : Tuned peer uri t.client t.phases) {schedule : List Nat}
    (heeds : Heeds peer (t.run host schedule).client.history) (timely : uri ∉ overtaken host peer t schedule) :
    Tuned peer uri (t.run host schedule).client (t.run host schedule).phases := by
  -- What is overtaken is looked for along the run, so the induction takes off the last step of it.
  induction schedule using List.reverseRecOn with
  | nil => exact tuned
  | append_singleton schedule task ih =>
    rw [run_concat] at heeds ⊢
    rw [overtaken, singledOut_concat, List.mem_append, not_or] at timely
    obtain ⟨earlier, now⟩ := timely
    cases step : (t.run host schedule).step? host task with
    | none =>
      rw [step] at heeds
      exact ih heeds earlier
    | some t' =>
      rw [step, Option.getD_some] at heeds
      obtain ⟨_, _, _, _, advances⟩ := step?_advances step
      have before := forwarding.run host schedule
      obtain ⟨phase, next, found, phases, works, _⟩ := before.step step
      rw [Option.getD_some, phases]
      have tuned := ih (heeds.of_prefix advances.grows) earlier
      apply tuned.works found works (before.timely found (by simpa using now)) heeds
      intro other notice more names grown
      exact ⟨fun _ => before.live, fun _ => before.ours phase (List.mem_of_getElem? found) other names⟩

private theorem Forwarding.begin {c : Client W P} {id : Nat} {peer : P} (inStep : InStep c)
    (inUse : c.active = some (id, peer)) {phases : List (TaskPhase P)}
    (calls : ∀ phase ∈ phases, phase.isFresh = true ∧ phase.isAside = true) :
    Forwarding peer (Tasks.begin c phases) where
  aside phase inside := (calls phase inside).2
  inUse := ⟨id, inUse⟩
  ours phase inside other names := by
    have fresh := (calls phase inside).1
    cases phase <;> simp [TaskPhase.isFresh, TaskPhase.peer?] at fresh names
  live := inStep.live id peer inUse
  sorted := inStep.sorted

private theorem Tuned.begin {c : Client W P} {id : Nat} {peer : P} (inStep : InStep c) (tidied : Tidied c.history)
    (inUse : c.active = some (id, peer)) {phases : List (TaskPhase P)}
    (calls : ∀ phase ∈ phases, phase.isFresh = true ∧ phase.isAside = true) (uri : String) :
    Tuned peer uri c phases where
  tidy := tidied peer uri
  fresh _ opening := by
    obtain ⟨phase, inside, opens⟩ := opening
    have fresh := (calls phase inside).1
    cases phase <;> simp [TaskPhase.isFresh, TaskPhase.opens?] at fresh opens
  agree _ _ := .inl (by rw [inStep.view_eq inUse])
  pending _ dismissing := by
    have fresh := (calls _ dismissing).1
    simp [TaskPhase.isFresh] at fresh

/-- Calls about documents, made side by side on a started client, tell the server things in good order
and leave it with what the table has, as to every document of which no closing is overtaken. -/
theorem replay_unless_overtaken (host : Host W P) (settings : ServerSettings) (root : String) (world : W)
    (earlier : List (ClientCall P)) (c : Client W P)
    (reached : c = (Client.new settings root world).run host earlier) (started : c.isStarted = true)
    (phases : List (TaskPhase P)) (calls : ∀ phase ∈ phases, phase.isFresh = true ∧ phase.isAside = true)
    (schedule : List Nat) (t : Tasks W P) (ran : t = (Tasks.begin c phases).run host schedule)
    (reliable : Reliable t.client.history) : ∃ id peer, t.client.active = some (id, peer) ∧
      (∀ uri, uri ∉ overtaken host peer (Tasks.begin c phases) schedule →
        Tidy uri (received peer t.client.history) ∧ (t.AllFinished →
          (replay (received peer t.client.history)).get? uri = t.client.documents.get? uri)) ∧
      (overtaken host peer (Tasks.begin c phases) schedule = [] → t.AllFinished →
        replay (received peer t.client.history) = t.client.documents) := by
  subst reached ran
  have grows := run_grows host (Tasks.begin ((Client.new settings root world).run host earlier) phases) schedule
  have reliable' : Reliable ((Client.new settings root world).run host earlier).history := reliable.of_prefix grows
  have inStep := (InStep.new settings root world).run host earlier reliable'
  have tidied := run_tidied host settings root world earlier reliable'
  generalize (Client.new settings root world).run host earlier = c at *
  obtain ⟨⟨id, peer⟩, inUse⟩ := Option.isSome_iff_exists.1 (inStep.started ▸ started)
  have begun := Forwarding.begin inStep inUse calls
  have tuned (uri : String) (timely : uri ∉ overtaken host peer (Tasks.begin c phases) schedule) :=
    Tuned.run begun (Tuned.begin inStep tidied inUse calls uri) (reliable.heeds peer) timely
  have forwarding := begun.run host schedule
  obtain ⟨id', inUse'⟩ := forwarding.inUse
  refine ⟨id', peer, inUse', fun uri timely => ?_, fun none finished => ?_⟩
  · exact ⟨(tuned uri timely).tidy, (tuned uri timely).finished forwarding.live⟩
  · apply (sorted_replay _).ext forwarding.sorted
    intro uri
    exact (tuned uri (by simp [none])).finished forwarding.live finished

def editing : Client Rehearsal.World Nat :=
  (Client.new .default "/work" .new).run Rehearsal.host
    [.start, .openDocument ⟨"file:///a.lean", "lean4", 1, "a"⟩]

def crossing : List (TaskPhase Nat) :=
  [.seekingClose "file:///a.lean", .seeking ⟨"file:///a.lean", "lean4", 1, "b"⟩,
    .seekingRefresh ⟨"file:///a.lean", "lean4", 1, "c"⟩, .seeking ⟨"file:///b.lean", "lean4", 1, ""⟩]

theorem replay_unless_overtaken_crossing :
    let t := (Tasks.begin editing crossing).run Rehearsal.host [1, 3, 0, 2, 0, 3, 0, 1, 2]
    t.AllFinished ∧ replay (received 0 t.client.history) = t.client.documents ∧
      t.client.documents = [("file:///a.lean", ⟨"lean4", 1, "c"⟩), ("file:///b.lean", ⟨"lean4", 1, ""⟩)] ∧
      Tidy "file:///a.lean" (received 0 t.client.history) := by
  intro t
  have finished : t.AllFinished := by
    unfold AllFinished
    decide
  obtain ⟨id, peer, inUse, each, all⟩ := replay_unless_overtaken Rehearsal.host .default "/work" .new _
    editing rfl (by decide) crossing (by simp [crossing, TaskPhase.isFresh, TaskPhase.isAside])
    [1, 3, 0, 2, 0, 3, 0, 1, 2] t rfl (.of_accepted (by decide))
  have number : t.client.active = some (1, 0) := by decide
  cases number.symm.trans inUse
  have timely : overtaken Rehearsal.host 0 (Tasks.begin editing crossing)
      [1, 3, 0, 2, 0, 3, 0, 1, 2] = [] := by decide
  exact ⟨finished, all timely finished, by decide, (each _ (by simp [timely])).1⟩

/-- The document is taken out of the table; it is opened again, and then the server hears that it was
closed. The table has the document, and the server, which was told to open it twice, has not. -/
theorem replay_overtaken :
    let t := (Tasks.begin editing
      [.seekingClose "file:///a.lean", .seeking ⟨"file:///a.lean", "lean4", 1, "b"⟩]).run
        Rehearsal.host [0, 0, 1, 1, 0]
    editing.isStarted = true ∧ Reliable t.client.history ∧ t.AllFinished ∧
      received 0 t.client.history = [.opened ⟨"file:///a.lean", "lean4", 1, "a"⟩,
        .opened ⟨"file:///a.lean", "lean4", 1, "b"⟩, .closed "file:///a.lean"] ∧
      t.client.documents = [("file:///a.lean", ⟨"lean4", 1, "b"⟩)] ∧
      replay (received 0 t.client.history) ≠ t.client.documents ∧
      ¬ Tidy "file:///a.lean" (received 0 t.client.history) := by
  intro t
  have told : received 0 t.client.history = [.opened ⟨"file:///a.lean", "lean4", 1, "a"⟩,
      .opened ⟨"file:///a.lean", "lean4", 1, "b"⟩, .closed "file:///a.lean"] := by decide
  refine ⟨by decide, .of_accepted (by decide), by unfold AllFinished; decide, told, by decide, by decide, ?_⟩
  rw [told]
  intro tidy
  have twice := tidy [.opened ⟨"file:///a.lean", "lean4", 1, "a"⟩] _ _ rfl rfl
  simp [Notice.Suits, replay, Notice.apply, Table.insert, Table.get?] at twice

end Tasks

end LanguageClient
