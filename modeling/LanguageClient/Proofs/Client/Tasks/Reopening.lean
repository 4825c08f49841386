import LanguageClient.Client.Rehearsal
import LanguageClient.Proofs.Client.Synchronized
import LanguageClient.Proofs.Client.Tasks.Sessions
import LanguageClient.Proofs.Client.Tasks.Tune
import LanguageClient.Proofs.Client.Tasks.Turns

/-! A restart and calls about documents, side by side. A new connection is put in use before the documents
of the table are opened on it. A call that finds the connection in between and tells it of a document is
too early: the server hears of a change to a document it does not have, or is told to open it twice. -/
namespace LanguageClient

variable {W P : Type}

section Notices
variable [DecidableEq P]

def Happening.taker? : Happening P → Option P
  | .delivered peer _ => some peer
  | _ => none

/-- Only connections that are live take notices. -/
def Mortal (history : List (Happening P)) : Prop :=
  ∀ before peer notice after, history = before ++ .delivered peer notice :: after → isLive peer before = true

private theorem Mortal.of_prefix {history longer : List (Happening P)} (mortal : Mortal longer)
    (start : history <+: longer) : Mortal history := by
  obtain ⟨more, rfl⟩ := start
  intro before peer notice after split
  apply mortal before peer notice (after ++ more)
  rw [split, List.append_assoc, List.cons_append]

instance (history : List (Happening P)) : Decidable (Mortal history) :=
  decidable_of_iff (∀ n, (bound : n < history.length) →
      (history[n].taker?.all fun peer => isLive peer (history.take n)) = true) (by
    constructor
    · rintro alive before peer notice after rfl
      simpa [Happening.taker?] using alive before.length (by simp)
    · intro mortal n bound
      cases here : history[n] with
      | delivered peer notice =>
        have split : history = history.take n ++ .delivered peer notice :: history.drop (n + 1) := by
          rw [← here, List.getElem_cons_drop, List.take_append_drop]
        exact mortal _ peer notice _ split
      | _ => rfl)

private theorem isLive_of_unlaunched {peer : P} {history : List (Happening P)}
    (unlaunched : peer ∉ history.filterMap Happening.launched?) : isLive peer history = false := by
  induction history using List.reverseRecOn with
  | nil => rfl
  | append_singleton history h ih =>
    simp only [List.filterMap_append, List.mem_append, not_or] at unlaunched
    rw [isLive_concat, ih unlaunched.1]
    cases h with
    | launched other =>
      have differs : peer ≠ other := by simpa [Happening.launched?] using unlaunched.2
      simp [Happening.nowLive, Ne.symm differs]
    | _ => simp [Happening.nowLive]

private theorem Mortal.received_of_unlaunched {peer : P} {history : List (Happening P)} (mortal : Mortal history)
    (unlaunched : peer ∉ history.filterMap Happening.launched?) : received peer history = [] := by
  induction history using List.reverseRecOn with
  | nil => rfl
  | append_singleton history h ih =>
    simp only [List.filterMap_append, List.mem_append, not_or] at unlaunched
    rw [received_concat, ih (mortal.of_prefix (List.prefix_append _ _)) unlaunched.1]
    cases h with
    | delivered other notice =>
      have differs : other ≠ peer := by
        rintro rfl
        have live := mortal history other notice [] rfl
        simp [isLive_of_unlaunched unlaunched.1] at live
      simp [Happening.addReceived, differs]
    | _ => simp [Happening.addReceived]

private theorem Client.Reopened.unreceived {other : P} {entries : Table OpenDocument} {more : List (Happening P)}
    (told : Client.Reopened other entries more) {peer : P} (differs : other ≠ peer)
    (history : List (Happening P)) :
    received peer (history ++ more) = received peer history := by
  induction told generalizing history with
  | nil => simp
  | delivered entry later ih =>
    rw [List.append_cons, ih, received_concat, Happening.addReceived, if_neg differs]
  | refused entry e later ih =>
    rw [List.append_cons, List.append_cons, ih, List.append_assoc]
    exact received_append_quiet peer history (by simp [Happening.Quiet])

end Notices

private theorem TaskPhase.holdsLock_of_opens? {phase : TaskPhase P} {peer : P} (opens : phase.opens? = some peer) :
    phase.holdsLock = true := by
  cases phase <;> first | rfl | simp [opens?] at opens

namespace Tasks

open Client

private theorem Advances.sorted {host : Host W P} {c c' : Client W P} {phase next : TaskPhase P}
    (advances : Advances host c phase next c') (sorted : c.documents.Sorted) : c'.documents.Sorted := by
  cases advances with
  | entered | queued | granted => exact sorted
  | worked phase next c' works => exact works.sorted sorted
  | moved phase next c' moves =>
    cases moves with
    | launched id peer c' launch =>
      obtain ⟨w, rfl⟩ := launchPeer_ok launch
      exact sorted
    | reopened id peer =>
      obtain ⟨w, more, whole, _⟩ := c.reopen_eq host peer
      have renews : (renewed c.documents).Sorted := sorted.mapValues _
      rw [whole]
      exact renews
    | _ => exact sorted
  | ended phase result c' ends =>
    cases ends with
    | notStarted | stopped | stopFailed => exact sorted
    | launchFailed e c' launch =>
      obtain ⟨w, rfl⟩ := launchPeer_error launch
      exact sorted
    | announced id =>
      rw [announce_eq]
      exact sorted

variable [DecidableEq P]

private theorem Advances.opens? {host : Host W P} {c c' : Client W P} {phase next : TaskPhase P}
    (advances : Advances host c phase next c')
    (before : ∀ peer, phase.opens? = some peer → isLive peer c.history = true) {peer : P}
    (opens : next.opens? = some peer) : isLive peer c'.history = true := by
  cases advances with
  | entered | queued | granted | ended => simp [TaskPhase.opens?] at opens
  | worked phase next c' works => cases works <;> simp [TaskPhase.opens?] at opens
  | moved phase next c' moves =>
    cases moves with
    | launched id other c' launch =>
      obtain ⟨w, rfl⟩ := launchPeer_ok launch
      cases opens
      simp [after, Happening.nowLive]
    | installed | raised => exact before peer opens
    | _ => simp [TaskPhase.opens?] at opens

/-- What holds while calls of any kind are under way: the connections they name were launched, and one
on which the documents are still to be opened is live. -/
structure InOrder (t : Tasks W P) : Prop extends InSession t, Named t where
  sorted : t.client.documents.Sorted
  opening : ∀ (task : Nat) (phase : TaskPhase P), t.phases[task]? = some phase → phase.holdsLock = true →
    ∀ peer, phase.opens? = some peer → isLive peer t.client.history = true

private theorem InOrder.begin {c : Client W P} (settled : Settled c) (sorted : c.documents.Sorted)
    {phases : List (TaskPhase P)} (fresh : ∀ phase ∈ phases, phase.isFresh = true) :
    InOrder (Tasks.begin c phases) where
  toInSession := InSession.begin settled fresh
  sorted := sorted
  inUse id peer inUse := by
    have live : isLive peer c.history = true := ((settled.inUse inUse).course.isLive_iff peer).2 rfl
    by_contra unlaunched
    have dead : isLive peer c.history = false := isLive_of_unlaunched unlaunched
    simp [live] at dead
  working phase inside peer names := by
    have begun := fresh phase inside
    cases phase <;> simp [TaskPhase.isFresh, TaskPhase.peer?] at begun names
  opening task phase found inside := by
    have begun := fresh phase (List.mem_of_getElem? found)
    cases phase <;> simp [TaskPhase.isFresh, TaskPhase.holdsLock] at begun inside

private theorem InOrder.step {host : Host W P} {t t' : Tasks W P} {task : Nat} (inOrder : InOrder t)
    (step : t.step? host task = some t') : InOrder t' := by
  obtain ⟨phase, next, found, phases, advances⟩ := step?_advances step
  refine ⟨inOrder.toInSession.change (step?_change step), inOrder.toNamed.step step,
    advances.sorted inOrder.sorted, ?_⟩
  rw [phases]
  refine inside_set found (fun _ peer opens => ?_) fun other differs phase' found' inside' peer opens => ?_
  · refine advances.opens? (fun peer opens => ?_) opens
    exact inOrder.opening task phase found (TaskPhase.holdsLock_of_opens? opens) peer opens
  · have before := inOrder.opening other phase' found' inside' peer opens
    -- While another call is inside, a step launches and stops nothing.
    have outside : phase.holdsLock ≠ true := inOrder.not_inside found' inside' differs.symm found
    generalize t'.client = c' at advances ⊢
    cases advances with
    | entered | queued | granted => exact before
    | moved phase next c' moves => exact absurd moves.inside.1 outside
    | ended phase result c' ends => exact absurd ends.inside outside
    | worked phase next c' works =>
      obtain ⟨more, grown, aside⟩ := works.same.history
      rwa [grown, isLive_append_aside peer _ more aside]

private theorem InOrder.run {t : Tasks W P} (inOrder : InOrder t) (host : Host W P) (schedule : List Nat) :
    InOrder (t.run host schedule) := by
  induction schedule using List.reverseRecOn with
  | nil => exact inOrder
  | append_singleton schedule task ih =>
    rw [run_concat]
    cases step : (t.run host schedule).step? host task with
    | none => exact ih
    | some t' => exact ih.step step

private theorem InOrder.live_unique {t : Tasks W P} (inOrder : InOrder t) {peer other : P}
    (live : isLive peer t.client.history = true) (live' : isLive other t.client.history = true) : other = peer := by
  obtain ⟨station, course⟩ := inOrder.toInSession.course
  have left := (course.isLive_iff peer).1 live
  have left' := (course.isLive_iff other).1 live'
  exact Option.some.inj (left'.symm.trans left)

namespace Tuned

variable {peer : P} {uri : String} {c : Client W P} {phases phases' : List (TaskPhase P)}

private theorem stopped (tuned : Tuned peer uri c phases) (id : Nat) (other : P) (result : Except ClientError Unit)
    (w : W) : Tuned peer uri (c.after w [.stopped id other result]) phases := by
  have told : received peer (c.after w [.stopped id other result]).history = received peer c.history := by
    simp [after, Happening.addReceived]
  by_cases same : other = peer
  · have dead : isLive peer (c.after w [.stopped id other result]).history = false := by
      simp [after, Happening.nowLive, same]
    exact .dead (told ▸ tuned.tidy) (by simp [dead])
  · exact tuned.congr told (by simp [after, Happening.nowLive, same]) rfl .rfl .rfl

private theorem launched (tuned : Tuned peer uri c phases) {task id : Nat} {other : P} (server : ServerOptions)
    (options : ClientOptions) (w : W) (found : phases[task]? = some .launching)
    (unnamed : other = peer → .dismissing peer uri ∉ phases) :
    Tuned peer uri { c.after w [.launched other server options] with nextId := c.nextId + 1 }
      (phases.set task (.installing id other)) := by
  have dismissing : .dismissing peer uri ∈ phases.set task (.installing id other) ↔
      .dismissing peer uri ∈ phases := mem_set_iff found (by simp) (by simp)
  by_cases same : other = peer
  · subst same
    have nothing : received other (c.history ++ [.launched other server options]) = [] := by
      simp [Happening.addReceived]
    unfold Tuned
    simp only [after, nothing]
    -- The call that launched it is about to open the documents on it, and no closing is on its way to it yet.
    refine ⟨.nil uri, fun _ _ => rfl, fun _ opened => ?_, fun _ now => ?_⟩
    · exact absurd ⟨_, List.mem_set (List.getElem?_eq_some_iff.1 found).1 _, rfl⟩ opened
    · exact absurd (dismissing.1 now) (unnamed rfl)
  · refine tuned.congr ?_ ?_ rfl (opening_set found ?_) dismissing
    · simp [after, Happening.addReceived, same]
    · simp [after, Happening.nowLive, same]
    · simp [TaskPhase.opens?, same]

private theorem reopened (tuned : Tuned peer uri c phases) {host : Host W P} {other : P}
    (sorted : c.documents.Sorted)
    (heeds : Heeds peer (c.reopen host other).history) (ours : other = peer ↔ isLive peer c.history = true)
    (opening : other = peer → Opening peer phases ∧ ¬ Opening peer phases')
    (dismissing : .dismissing peer uri ∈ phases' ↔ .dismissing peer uri ∈ phases) :
    Tuned peer uri (c.reopen host other) phases' := by
  obtain ⟨w, more, whole, told⟩ := c.reopen_eq host other
  rw [whole] at heeds ⊢
  unfold Tuned at tuned ⊢
  simp only [after, ← List.append_assoc] at heeds ⊢
  have silent : ∀ h ∈ [(.reopened (renewed c.documents).length : Happening P)], h.Quiet := by
    simp [Happening.Quiet]
  rw [received_append_quiet peer _ silent, isLive_append_quiet peer _ silent,
    isLive_append_aside peer _ more told.aside, propext dismissing]
  by_cases same : other = peer
  · subst same
    obtain ⟨now, past⟩ := opening rfl
    have live := ours.1 rfl
    rw [told.eq_delivered live (heeds.of_prefix (List.prefix_append _ _)), received_append_delivered, if_pos rfl]
    exact tuned.opened sorted live now past
  · rw [told.unreceived same]
    exact .dead tuned.tidy fun live => same (ours.2 live)

end Tuned

/-- A call that holds the lock and goes on without being about to open documents leaves no other that is. -/
theorem InOrder.not_opening {t : Tasks W P} (inOrder : InOrder t) {task : Nat} {phase next : TaskPhase P}
    (found : t.phases[task]? = some phase) (inside : phase.holdsLock = true) (past : next.opens? = none)
    (peer : P) : ¬ Opening peer (t.phases.set task next) := by
  rintro ⟨other, among, opens⟩
  obtain ⟨i, found'⟩ := List.getElem?_of_mem among
  rw [getElem?_set_found found] at found'
  by_cases same : i = task
  · rw [if_pos same] at found'
    cases found'
    simp [past] at opens
  · rw [if_neg same] at found'
    exact inOrder.not_inside found inside same found' (TaskPhase.holdsLock_of_opens? opens)

private theorem Tuned.moves {host : Host W P} {peer : P} {uri : String} {t : Tasks W P} {task : Nat}
    {phase next : TaskPhase P} {c' : Client W P} (inOrder : InOrder t) (tuned : Tuned peer uri t.client t.phases)
    (found : t.phases[task]? = some phase) (moves : Moves host t.client phase next c')
    (heeds : Heeds peer c'.history) (distinct : (c'.history.filterMap Happening.launched?).Nodup) :
    Tuned peer uri c' (t.phases.set task next) := by
  cases moves with
  | started | notStarted | missing | cleared | lowered | installed | raised =>
    exact tuned.set found .rfl (by simp) (by simp)
  | fetched call id other inUse =>
    have noted := tuned.quiet t.client.world [.stopping id other] (by simp [Happening.Quiet])
    exact noted.set found .rfl (by simp) (by simp)
  | prepared =>
    have noted := tuned.quiet t.client.world [.launching t.client.serverOptions] (by simp [Happening.Quiet])
    exact noted.set found .rfl (by simp) (by simp)
  | stopped call id other => exact (tuned.stopped id other _ _).set found .rfl (by simp) (by simp)
  | launched id other c' launch =>
    obtain ⟨w, rfl⟩ := launchPeer_ok launch
    refine tuned.launched _ _ w found ?_
    -- A connection that was only just launched is not named by any call.
    rintro rfl dismissing
    have known := inOrder.working _ dismissing other rfl
    simp only [after, List.filterMap_append, List.nodup_append] at distinct
    exact distinct.2.2 other known other (by simp [Happening.launched?]) rfl
  | reopened id other =>
    have live := inOrder.opening task _ found rfl other rfl
    refine tuned.reopened inOrder.sorted heeds ⟨?_, fun live' => ?_⟩ ?_ (mem_set_iff found (by simp) (by simp))
    · rintro rfl
      exact live
    · exact inOrder.live_unique live' live
    · rintro rfl
      exact ⟨⟨_, List.mem_of_getElem? found, rfl⟩, inOrder.not_opening found rfl rfl other⟩

private theorem Tuned.ends {host : Host W P} {peer : P} {uri : String} {c c' : Client W P}
    {phases : List (TaskPhase P)}
    {task : Nat} {phase : TaskPhase P} {result : Except ClientError Unit} (tuned : Tuned peer uri c phases)
    (found : phases[task]? = some phase) (ends : Ends host c phase result c') (end' : Except ClientError Bool) :
    Tuned peer uri c' (phases.set task (.finished end')) := by
  cases ends with
  | notStarted | stopped | stopFailed => exact tuned.set found .rfl (by simp) (by simp)
  | launchFailed e c' launch =>
    obtain ⟨w, rfl⟩ := launchPeer_error launch
    exact (tuned.quiet w [.launchFailed e] (by simp [Happening.Quiet])).set found .rfl (by simp) (by simp)
  | announced id =>
    rw [announce_eq]
    exact (tuned.quiet c.world _ (by simp [Happening.Quiet])).set found .rfl (by simp) (by simp)

/-- A step keeps a connection in tune with the table, unless it intrudes. -/
theorem Tuned.step {host : Host W P} {peer : P} {uri : String} {t t' : Tasks W P} {task : Nat} (inOrder : InOrder t)
    (tuned : Tuned peer uri t.client t.phases) (step : t.step? host task = some t')
    (timely : ∀ phase, t.phases[task]? = some phase → ¬ Intrudes peer uri t.client t.phases phase)
    (mortal : Mortal t'.client.history) (heeds : Heeds peer t'.client.history)
    (distinct : (t'.client.history.filterMap Happening.launched?).Nodup) : Tuned peer uri t'.client t'.phases := by
  obtain ⟨phase, next, found, phases, advances⟩ := step?_advances step
  rw [phases]
  generalize t'.client = c' at advances mortal heeds distinct ⊢
  cases advances with
  | entered | queued | granted => exact tuned.set found .rfl (by simp) (by simp)
  | moved phase next c' moves => exact tuned.moves inOrder found moves heeds distinct
  | ended phase result c' ends => exact tuned.ends found ends _
  | worked phase next c' works =>
    refine tuned.works found works (timely phase found) heeds fun other notice more _ grown => ?_
    have live := mortal _ other notice more grown
    constructor
    · rintro rfl
      exact live
    · exact fun live' => inOrder.live_unique live' live

def intruded? (peer : P) (t : Tasks W P) (task : Nat) : Option String := do
  let phase ← t.phases[task]?
  let (_, uri) ← phase.tells?.or phase.forgets?
  if Intrudes peer uri t.client t.phases phase then some uri else none

/-- The documents about which a call intrudes. -/
def intruded (host : Host W P) (peer : P) : Tasks W P → List Nat → List String :=
  singledOut host (intruded? peer)

private theorem Intrudes.intruded? {peer : P} {uri : String} {t : Tasks W P} {task : Nat} {phase : TaskPhase P}
    (found : t.phases[task]? = some phase) (intrudes : Intrudes peer uri t.client t.phases phase) :
    t.intruded? peer task = some uri := by
  have about : ∃ other, phase.tells?.or phase.forgets? = some (other, uri) := by
    cases intrudes with
    | early phase tells | overtaking phase tells => exact ⟨peer, by rw [tells, Option.some_or]⟩
    | late older => exact ⟨older, rfl⟩
  obtain ⟨other, about⟩ := about
  simp [Tasks.intruded?, found, about, intrudes]

/-- As long as no step intrudes, a connection that takes every notice stays in tune with the table. -/
theorem InOrder.tuned {host : Host W P} {peer : P} {uri : String} {t : Tasks W P} (inOrder : InOrder t)
    (tuned : Tuned peer uri t.client t.phases) {schedule : List Nat}
    (mortal : Mortal (t.run host schedule).client.history) (heeds : Heeds peer (t.run host schedule).client.history)
    (distinct : ((t.run host schedule).client.history.filterMap Happening.launched?).Nodup)
    (timely : uri ∉ intruded host peer t schedule) :
    Tuned peer uri (t.run host schedule).client (t.run host schedule).phases := by
  induction schedule using List.reverseRecOn with
  | nil => exact tuned
  | append_singleton schedule task ih =>
    rw [run_concat] at mortal heeds distinct ⊢
    rw [intruded, singledOut_concat, List.mem_append, not_or] at timely
    obtain ⟨earlier, now⟩ := timely
    cases step : (t.run host schedule).step? host task with
    | none =>
      rw [step] at mortal heeds distinct
      exact ih mortal heeds distinct earlier
    | some t' =>
      rw [step, Option.getD_some] at mortal heeds distinct
      obtain ⟨_, _, _, _, advances⟩ := step?_advances step
      have grows := advances.grows
      have before := ih (mortal.of_prefix grows) (heeds.of_prefix grows)
        ((grows.filterMap Happening.launched?).sublist.nodup distinct) earlier
      refine before.step (inOrder.run host schedule) step (fun phase found intrudes => now ?_) mortal heeds distinct
      simp [intrudes.intruded? found]

/-- Whatever calls go on side by side, a new connection is told things in good order and left with what
the table has, as to every document about which no step intrudes. -/
theorem tidy_unless_intruded (host : Host W P) (settings : ServerSettings) (root : String) (world : W)
    (earlier : List (ClientCall P)) (c : Client W P)
    (reached : c = (Client.new settings root world).run host earlier)
    (phases : List (TaskPhase P)) (fresh : ∀ phase ∈ phases, phase.isFresh = true)
    (schedule : List Nat) (t : Tasks W P) (ran : t = (Tasks.begin c phases).run host schedule)
    (mortal : Mortal t.client.history) (distinct : (t.client.history.filterMap Happening.launched?).Nodup)
    (peer : P) (new : peer ∉ c.history.filterMap Happening.launched?) (heeds : Heeds peer t.client.history) :
    (∀ uri, uri ∉ intruded host peer (Tasks.begin c phases) schedule →
      Tidy uri (received peer t.client.history) ∧ (isLive peer t.client.history = true → t.AllFinished →
        (replay (received peer t.client.history)).get? uri = t.client.documents.get? uri)) ∧
    (intruded host peer (Tasks.begin c phases) schedule = [] → isLive peer t.client.history = true →
      t.AllFinished → replay (received peer t.client.history) = t.client.documents) := by
  subst ran
  have settled : Settled c := reached ▸ (Settled.new settings root world).run host earlier
  have synchronized : Synchronized c := by
    rw [reached]
    refine Synchronized.run (Settled.new settings root world) ⟨List.Pairwise.nil, ?_⟩ host earlier
    simp [Client.new]
  have begun := InOrder.begin settled synchronized.sorted fresh
  have grows := run_grows host (Tasks.begin c phases) schedule
  have dead : isLive peer c.history = false := isLive_of_unlaunched new
  have nothing : received peer c.history = [] := (mortal.of_prefix grows).received_of_unlaunched new
  have tuned (uri : String) (timely : uri ∉ intruded host peer (Tasks.begin c phases) schedule) :=
    begun.tuned (.dead (nothing ▸ .nil uri) (by simp [Tasks.begin, dead])) mortal heeds distinct timely
  refine ⟨fun uri timely => ⟨(tuned uri timely).tidy, (tuned uri timely).finished⟩,
    fun none live finished => ?_⟩
  apply (sorted_replay _).ext (begun.run host schedule).sorted
  intro uri
  exact (tuned uri (by simp [none])).finished live finished

def reading : Client Rehearsal.World Nat :=
  (Client.new .default "/work" .new).run Rehearsal.host
    [.start, .openDocument ⟨"file:///a.lean", "lean4", 1, "a"⟩,
      .openDocument ⟨"file:///b.lean", "lean4", 1, "b"⟩]

def window : List (TaskPhase Nat) :=
  [.arriving .restart, .seekingClose "file:///a.lean", .seekingRefresh ⟨"file:///b.lean", "lean4", 1, "c"⟩,
    .seeking ⟨"file:///c.lean", "lean4", 1, ""⟩]

theorem tidy_unless_intruded_window :
    let t := (Tasks.begin reading window).run Rehearsal.host (List.replicate 9 0 ++ [1, 1, 2, 3, 0, 0, 1, 2, 0, 3])
    received 1 t.client.history = [.opened ⟨"file:///b.lean", "lean4", 1, "b"⟩, .closed "file:///a.lean",
        .closed "file:///b.lean", .opened ⟨"file:///b.lean", "lean4", 1, "c"⟩,
        .opened ⟨"file:///c.lean", "lean4", 1, ""⟩] ∧
      Tidy "file:///b.lean" (received 1 t.client.history) ∧ t.AllFinished ∧
      replay (received 1 t.client.history) = t.client.documents := by
  intro t
  have finished : t.AllFinished := by
    unfold AllFinished
    decide +kernel
  obtain ⟨each, all⟩ := tidy_unless_intruded Rehearsal.host .default "/work" .new _ reading rfl window
    (by simp [window, TaskPhase.isFresh]) (List.replicate 9 0 ++ [1, 1, 2, 3, 0, 0, 1, 2, 0, 3]) t rfl
    (by decide +kernel) (by decide +kernel) 1 (by decide) ((Reliable.of_accepted (by decide +kernel)).heeds 1)
  have timely : intruded Rehearsal.host 1 (Tasks.begin reading window)
      (List.replicate 9 0 ++ [1, 1, 2, 3, 0, 0, 1, 2, 0, 3]) = [] := by decide +kernel
  have tidy := (each "file:///b.lean" (by rw [timely]; exact List.not_mem_nil)).1
  exact ⟨by decide +kernel, tidy, finished, all timely (by decide +kernel) finished⟩

/-- A restart, and two calls that find the new connection before the documents are opened on it. One opens
a document and the other changes one, so the server is told of a change to a document it does not have,
and is then told to open a document it has. -/
theorem tidy_intruded :
    let calls := [.arriving .restart, .seeking ⟨"file:///c.lean", "lean4", 1, ""⟩,
      .seeking ⟨"file:///b.lean", "lean4", 1, "c"⟩]
    let t := (Tasks.begin reading calls).run Rehearsal.host (List.replicate 9 0 ++ [1, 1, 2, 2, 0, 0, 0])
    let changed := [.opened ⟨"file:///c.lean", "lean4", 1, ""⟩, .changed "file:///b.lean" 2 "c"]
    let reopened := [.opened ⟨"file:///a.lean", "lean4", 1, "a"⟩, .opened ⟨"file:///b.lean", "lean4", 1, "c"⟩,
      .opened ⟨"file:///c.lean", "lean4", 1, ""⟩]
    reading.isStarted = true ∧ Mortal t.client.history ∧ Reliable t.client.history ∧ t.AllFinished ∧
      received 1 t.client.history = changed ++ reopened ∧
      ¬ Tidy "file:///b.lean" (received 1 t.client.history) ∧
      ¬ Tidy "file:///c.lean" (received 1 t.client.history) := by
  intro calls t changed reopened
  have told : received 1 t.client.history = changed ++ reopened := by decide +kernel
  have unknown : (replay [.opened ⟨"file:///c.lean", "lean4", 1, ""⟩]).get? "file:///b.lean" = none := by decide
  have twice : (replay (changed ++ reopened.take 2)).get? "file:///c.lean" = some ⟨"lean4", 1, ""⟩ := by decide
  refine ⟨by decide, by decide +kernel, .of_accepted (by decide +kernel), by unfold AllFinished; decide +kernel,
    told, ?_, ?_⟩ <;> rw [told] <;> intro tidy
  · have suits := tidy [.opened ⟨"file:///c.lean", "lean4", 1, ""⟩] _ _ rfl rfl
    simp [Notice.Suits, unknown] at suits
  · have suits := tidy (changed ++ reopened.take 2) _ _ rfl rfl
    simp [Notice.Suits, twice] at suits

end Tasks

end LanguageClient
