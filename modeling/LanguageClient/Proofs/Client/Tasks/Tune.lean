import LanguageClient.Proofs.Client.Tasks.Work
import LanguageClient.Proofs.Client.Tidy

/-! Whether a connection and the table of documents are in tune. A call that brings a document up to date
changes the table and tells the server in one step, but one that closes a document first takes it out of
the table and tells the server in a later step, and a new connection is told of the table some time after
it was put in use. In the meantime they differ, and what they are told next may not suit both. -/
namespace LanguageClient

variable {W P : Type}

def Station.left? : Station P → Option P
  | .running peer | .stopping peer => some peer
  | .idle | .launching => none

/-- What a server has of a document after these notices, what the table has of it, and whether the
connection is live, still has to be told of the table, and is about to be told that it was closed. -/
structure InTune (uri : String) (notices : List Notice) (entry : Option OpenDocument)
    (live opening dismissing : Prop) : Prop where
  tidy : Tidy uri notices
  fresh : live → opening → (replay notices).get? uri = none
  agree : live → ¬ opening → (replay notices).get? uri = entry ∨ dismissing
  pending : live → dismissing → entry = none

namespace InTune

variable {uri : String} {notices : List Notice} {entry : Option OpenDocument} {live opening dismissing : Prop}

theorem dead (tidy : Tidy uri notices) (dead : ¬ live) : InTune uri notices entry live opening dismissing :=
  ⟨tidy, fun now => absurd now dead, fun now => absurd now dead, fun now => absurd now dead⟩

/-- A notice that goes with a change of the table. -/
theorem told {documents : Table OpenDocument}
    (inTune : InTune uri notices (documents.get? uri) live opening dismissing) {notice : Notice}
    (free : notice.uri = uri → live ∧ ¬ opening ∧ ¬ dismissing ∧ notice.Suits (documents.get? uri)) :
    InTune uri (notices ++ [notice]) ((notice.apply documents).get? uri) live opening dismissing := by
  by_cases own : notice.uri = uri
  · obtain ⟨isLive, opened, settled, suits⟩ := free own
    have view := (inTune.agree isLive opened).resolve_right settled
    have followed : (replay (notices ++ [notice])).get? uri = (notice.apply documents).get? uri := by
      rw [replay_concat, Notice.get?_apply, Notice.get?_apply, view]
    exact ⟨inTune.tidy.concat fun _ => view ▸ suits, fun _ now => absurd now opened,
      fun _ _ => .inl followed, fun _ now => absurd now settled⟩
  · have view : (replay (notices ++ [notice])).get? uri = (replay notices).get? uri := by
      rw [replay_concat, Notice.get?_apply, if_neg own]
    rw [Notice.get?_apply, if_neg own]
    refine ⟨inTune.tidy.concat fun same => absurd same own, ?_, ?_, inTune.pending⟩
    · rw [view]
      exact inTune.fresh
    · rw [view]
      exact inTune.agree

/-- The document is taken out of the table, and the server is about to hear of it. -/
theorem forgotten (inTune : InTune uri notices entry live opening dismissing) {dismissing' : Prop}
    (now : live → ¬ opening → dismissing') : InTune uri notices none live opening dismissing' :=
  ⟨inTune.tidy, inTune.fresh, fun isLive opened => .inr (now isLive opened), fun _ _ => rfl⟩

/-- The server hears that a document was closed that is not in the table any more. -/
theorem dismissed (inTune : InTune uri notices entry live opening dismissing) (isLive : live)
    (now : dismissing) {dismissing' : Prop} :
    InTune uri (notices ++ [.closed uri]) entry live opening dismissing' := by
  have gone := inTune.pending isLive now
  have view : (replay (notices ++ [.closed uri])).get? uri = none := by
    rw [replay_concat]
    exact Table.get?_erase_self _ _
  exact ⟨inTune.tidy.concat fun _ => trivial, fun _ _ => view, fun _ _ => .inl (view.trans gone.symm),
    fun _ _ => gone⟩

theorem opened {documents : Table OpenDocument}
    (inTune : InTune uri notices (documents.get? uri) live opening dismissing) (sorted : documents.Sorted)
    (isLive : live) (now : opening) {opening' : Prop} (past : ¬ opening') :
    InTune uri (notices ++ (Client.renewed documents).map Client.reopening)
      ((Client.renewed documents).get? uri) live opening' dismissing := by
  have once : (Client.renewed documents).keys.Nodup := (sorted.mapValues _).nodup_keys
  have isClosed := inTune.fresh isLive now
  refine ⟨inTune.tidy.openings once isClosed, fun _ again => absurd again past, fun _ _ => .inl ?_,
    fun _ settled => ?_⟩
  · rw [replay_openings, Table.get?_extend _ once, isClosed, Option.or_none]
  · rw [Client.renewed, Table.get?_mapValues, inTune.pending isLive settled]
    rfl

end InTune

section Live
variable [DecidableEq P]

theorem isLive_append_aside (peer : P) (history more : List (Happening P))
    (aside : ∀ h ∈ more, h.isMilestone = false) : isLive peer (history ++ more) = isLive peer history := by
  induction more using List.reverseRecOn with
  | nil => simp
  | append_singleton more h ih =>
    rw [← List.append_assoc, isLive_concat, ih fun h inside => aside h (by simp [inside])]
    have last := aside h (by simp)
    cases h <;> first | rfl | simp [Happening.isMilestone] at last

theorem Course.isLive_iff {history : List (Happening P)} {station : Station P} (course : Course history station)
    (peer : P) : isLive peer history = true ↔ station.left? = some peer := by
  induction course with
  | nil => simp [isLive, Station.left?]
  | launching before server ih | launchFailed before e ih => simpa [Happening.nowLive, Station.left?] using ih
  | launched before other server options ih =>
    rw [isLive_concat, Happening.nowLive]
    by_cases same : other = peer
    · simp [same, Station.left?]
    · simpa [same, Station.left?] using ih
  | stopping before ih => simpa [Happening.nowLive, Station.left?] using ih
  | @stopped history other before result ih =>
    rw [isLive_concat, Happening.nowLive]
    by_cases same : other = peer
    · simp [same, Station.left?]
    · simpa [same, Station.left?] using ih
  | other before h aside ih => rwa [isLive_append_aside peer _ [h] (by simpa using aside)]

end Live

namespace TaskPhase

def tells? : TaskPhase P → Option (P × String)
  | .syncing peer d | .refreshing peer d => some (peer, d.uri)
  | _ => none

def dismisses? : TaskPhase P → Option (P × String)
  | .dismissing peer uri => some (peer, uri)
  | _ => none

def forgets? : TaskPhase P → Option (P × String)
  | .forgetting peer uri => some (peer, uri)
  | _ => none

def opens? : TaskPhase P → Option P
  | .installing _ peer | .raising _ peer | .reopening _ peer => some peer
  | _ => none

end TaskPhase

namespace Tasks

open Client

/-- The documents that are singled out in the course of a run, where `single?` looks at each step that is
about to be made. -/
def singledOut (host : Host W P) (single? : Tasks W P → Nat → Option String) (t : Tasks W P) :
    List Nat → List String
  | [] => []
  | task :: rest => (single? t task).toList ++ singledOut host single? ((t.step? host task).getD t) rest

theorem singledOut_concat (host : Host W P) (single? : Tasks W P → Nat → Option String) (t : Tasks W P)
    (schedule : List Nat) (task : Nat) : singledOut host single? t (schedule ++ [task]) =
      singledOut host single? t schedule ++ (single? (t.run host schedule) task).toList := by
  induction schedule generalizing t with
  | nil => simp [singledOut, run]
  | cons first rest ih =>
    rw [List.cons_append, singledOut, ih, singledOut, List.append_assoc]
    rfl

def Opening (peer : P) (phases : List (TaskPhase P)) : Prop := ∃ phase ∈ phases, phase.opens? = some peer

variable [DecidableEq P]

instance (peer : P) (uri : String) (phases : List (TaskPhase P)) : Decidable (.dismissing peer uri ∈ phases) :=
  decidable_of_iff (∃ phase ∈ phases, phase.dismisses? = some (peer, uri)) (by
    constructor
    · rintro ⟨phase, inside, dismisses⟩
      cases phase <;> cases dismisses
      exact inside
    · exact fun inside => ⟨_, inside, rfl⟩)

def Tuned (peer : P) (uri : String) (c : Client W P) (phases : List (TaskPhase P)) : Prop :=
  InTune uri (received peer c.history) (c.documents.get? uri) (isLive peer c.history = true)
    (Opening peer phases) (.dismissing peer uri ∈ phases)

inductive Intrudes (peer : P) (uri : String) (c : Client W P) (phases : List (TaskPhase P)) :
    TaskPhase P → Prop
  | early (phase : TaskPhase P) (tells : phase.tells? = some (peer, uri)) (opening : Opening peer phases) :
      Intrudes peer uri c phases phase
  | overtaking (phase : TaskPhase P) (tells : phase.tells? = some (peer, uri))
      (dismissing : .dismissing peer uri ∈ phases) : Intrudes peer uri c phases phase
  | late (older : P) (differs : older ≠ peer) (live : isLive peer c.history = true)
      (opened : ¬ Opening peer phases) : Intrudes peer uri c phases (.forgetting older uri)

instance (peer : P) (phases : List (TaskPhase P)) : Decidable (Opening peer phases) :=
  inferInstanceAs (Decidable (∃ phase ∈ phases, phase.opens? = some peer))

instance (peer : P) (uri : String) (c : Client W P) (phases : List (TaskPhase P)) (phase : TaskPhase P) :
    Decidable (Intrudes peer uri c phases phase) :=
  decidable_of_iff
    (phase.tells? = some (peer, uri) ∧ (Opening peer phases ∨ .dismissing peer uri ∈ phases) ∨
      ∃ forgotten ∈ phase.forgets?, (forgotten.1 ≠ peer ∧ forgotten.2 = uri) ∧
        isLive peer c.history = true ∧ ¬ Opening peer phases) (by
    constructor
    · rintro (⟨tells, opening | dismissing⟩ | ⟨⟨older, _⟩, forgets, ⟨differs, rfl⟩, live, opened⟩)
      · exact .early phase tells opening
      · exact .overtaking phase tells dismissing
      · cases phase <;> cases forgets
        exact .late older differs live opened
    · rintro (⟨_, tells, opening⟩ | ⟨_, tells, dismissing⟩ | ⟨older, differs, live, opened⟩)
      · exact .inl ⟨tells, .inl opening⟩
      · exact .inl ⟨tells, .inr dismissing⟩
      · exact .inr ⟨(older, uri), rfl, ⟨differs, rfl⟩, live, opened⟩)

section Phases
variable {phases : List (TaskPhase P)} {task : Nat} {phase next : TaskPhase P}

omit [DecidableEq P] in
theorem mem_set_iff (found : phases[task]? = some phase) {x : TaskPhase P} (before : x ≠ phase)
    (after : x ≠ next) : x ∈ phases.set task next ↔ x ∈ phases := by
  simp only [List.mem_iff_getElem?, getElem?_set_found found]
  constructor
  · rintro ⟨i, here⟩
    by_cases same : i = task
    · rw [if_pos same] at here
      exact absurd (Option.some.inj here).symm after
    · rw [if_neg same] at here
      exact ⟨i, here⟩
  · rintro ⟨i, here⟩
    have differs : i ≠ task := by
      rintro rfl
      exact before (Option.some.inj (here.symm.trans found))
    exact ⟨i, by rw [if_neg differs]; exact here⟩

omit [DecidableEq P] in
theorem opening_set (found : phases[task]? = some phase) {peer : P}
    (same : next.opens? = some peer ↔ phase.opens? = some peer) :
    Opening peer (phases.set task next) ↔ Opening peer phases := by
  have bound := (List.getElem?_eq_some_iff.1 found).1
  constructor
  · rintro ⟨x, inside, opens⟩
    rcases List.mem_or_eq_of_mem_set inside with before | rfl
    · exact ⟨x, before, opens⟩
    · exact ⟨phase, List.mem_of_getElem? found, same.1 opens⟩
  · rintro ⟨x, inside, opens⟩
    by_cases moved : x = phase
    · subst moved
      exact ⟨next, List.mem_set bound _, same.2 opens⟩
    · by_cases there : x = next
      · exact ⟨x, there ▸ List.mem_set bound _, opens⟩
      · exact ⟨x, (mem_set_iff found moved there).2 inside, opens⟩

end Phases

namespace Tuned

variable {peer : P} {uri : String} {c c' : Client W P} {phases phases' : List (TaskPhase P)}

theorem congr (tuned : Tuned peer uri c phases) (told : received peer c'.history = received peer c.history)
    (live : isLive peer c'.history = isLive peer c.history)
    (entry : c'.documents.get? uri = c.documents.get? uri)
    (opening : Opening peer phases' ↔ Opening peer phases)
    (dismissing : .dismissing peer uri ∈ phases' ↔ .dismissing peer uri ∈ phases) :
    Tuned peer uri c' phases' := by
  unfold Tuned at tuned ⊢
  rwa [told, live, entry, propext opening, propext dismissing]

theorem quiet (tuned : Tuned peer uri c phases) (w : W) (more : List (Happening P))
    (silent : ∀ h ∈ more, h.Quiet) : Tuned peer uri (c.after w more) phases :=
  tuned.congr (received_append_quiet peer _ silent) (isLive_append_quiet peer _ silent) rfl .rfl .rfl

theorem set (tuned : Tuned peer uri c phases) {task : Nat} {phase next : TaskPhase P}
    (found : phases[task]? = some phase) (opens : next.opens? = some peer ↔ phase.opens? = some peer)
    (dismissing : .dismissing peer uri ≠ phase) (dismissing' : .dismissing peer uri ≠ next) :
    Tuned peer uri c (phases.set task next) :=
  tuned.congr rfl rfl rfl (opening_set found opens) (mem_set_iff found dismissing dismissing')

private theorem delivered (tuned : Tuned peer uri c phases) {other : P} (notice : Notice) (w : W)
    (ours : other = peer ↔ isLive peer c.history = true)
    (free : notice.uri = uri → other = peer → ¬ Opening peer phases ∧ .dismissing peer uri ∉ phases ∧
      notice.Suits (c.documents.get? uri)) :
    Tuned peer uri { c.after w [.delivered other notice] with documents := notice.apply c.documents } phases := by
  unfold Tuned at tuned ⊢
  simp only [Client.after, received_concat, isLive_concat, Happening.addReceived, Happening.nowLive]
  by_cases same : other = peer
  · rw [if_pos same]
    exact tuned.told fun own => ⟨ours.1 same, free own same⟩
  · rw [if_neg same]
    exact .dead tuned.tidy fun live => same (ours.2 live)

private theorem forgotten (tuned : Tuned peer uri c phases) {older : P} {closed : String} {task : Nat}
    (found : phases[task]? = some (.forgetting older closed))
    (timely : ¬ Intrudes peer uri c phases (.forgetting older closed)) :
    Tuned peer uri { c with documents := c.documents.erase closed }
      (phases.set task (.dismissing older closed)) := by
  have opening : Opening peer (phases.set task (.dismissing older closed)) ↔ Opening peer phases :=
    opening_set found .rfl
  by_cases own : closed = uri
  · subst own
    unfold Tuned at tuned ⊢
    simp only [Table.get?_erase_self, propext opening]
    apply tuned.forgotten
    intro live opened
    by_cases same : older = peer
    · subst same
      exact List.mem_set (List.getElem?_eq_some_iff.1 found).1 _
    · exact absurd (.late older same live opened) timely
  · have differs : .dismissing peer uri ≠ (.dismissing older closed : TaskPhase P) := by
      simp [Ne.symm own]
    exact tuned.congr rfl rfl (Table.get?_erase_of_ne _ (Ne.symm own)) opening
      (mem_set_iff found (by simp) differs)

private theorem dismissed (tuned : Tuned peer uri c phases) {other : P} {closed : String} {task : Nat}
    (found : phases[task]? = some (.dismissing other closed)) (result : Except ClientError Bool)
    (w : W) (ours : other = peer ↔ isLive peer c.history = true) :
    Tuned peer uri (c.after w [.delivered other (.closed closed)]) (phases.set task (.finished result)) := by
  have opening : Opening peer (phases.set task (.finished result)) ↔ Opening peer phases :=
    opening_set found .rfl
  by_cases own : other = peer ∧ closed = uri
  · obtain ⟨rfl, rfl⟩ := own
    have live := ours.1 rfl
    unfold Tuned at tuned ⊢
    simp only [Client.after, received_concat, isLive_concat, Happening.addReceived, Happening.nowLive, if_pos,
      propext opening]
    exact tuned.dismissed live (List.mem_of_getElem? found)
  · have differs : .dismissing peer uri ≠ (.dismissing other closed : TaskPhase P) := by
      rintro ⟨⟩
      exact own ⟨rfl, rfl⟩
    have settled : Tuned peer uri c (phases.set task (.finished result)) :=
      tuned.set found .rfl differs (by simp)
    have told := settled.delivered (.closed closed) w ours fun same about => absurd ⟨about, same⟩ own
    by_cases same : other = peer
    · subst same
      have kept : (c.documents.erase closed).get? uri = c.documents.get? uri :=
        Table.get?_erase_of_ne _ fun about => own ⟨rfl, about.symm⟩
      exact told.congr rfl rfl kept.symm .rfl .rfl
    · exact .dead told.tidy fun live =>
        same (ours.2 (by simpa [Client.after, Happening.nowLive] using live))

private theorem refreshed (tuned : Tuned peer uri c phases) {other : P} (d : TextDocument) (w : W)
    (ours : other = peer ↔ isLive peer c.history = true)
    (free : d.uri = uri → other = peer → ¬ Opening peer phases ∧ .dismissing peer uri ∉ phases) :
    Tuned peer uri { c.after w [.delivered other (.closed d.uri),
        .delivered other (.opened ⟨d.uri, leanLanguage, 1, d.text⟩)] with
      documents := c.documents.insert d.uri ⟨leanLanguage, 1, d.text⟩ } phases := by
  have closed := tuned.delivered (.closed d.uri) w ours fun own same => by
    obtain ⟨opened, settled⟩ := free own same
    exact ⟨opened, settled, trivial⟩
  have opened := closed.delivered (.opened ⟨d.uri, leanLanguage, 1, d.text⟩) w
    (by simpa [Client.after, Happening.nowLive] using ours) fun own same => by
      obtain ⟨opened, settled⟩ := free own same
      subst own
      exact ⟨opened, settled, Table.get?_erase_self _ _⟩
  have entry : ((c.documents.erase d.uri).insert d.uri ⟨leanLanguage, 1, d.text⟩).get? uri =
      (c.documents.insert d.uri ⟨leanLanguage, 1, d.text⟩).get? uri := by
    simp only [Table.get?_insert, Table.get?_erase]
    split <;> rfl
  refine opened.congr ?_ ?_ entry.symm .rfl .rfl <;> simp [Client.after]

theorem works {host : Host W P} {task : Nat} {phase next : TaskPhase P} (tuned : Tuned peer uri c phases)
    (found : phases[task]? = some phase) (works : Works host c phase next c')
    (timely : ¬ Intrudes peer uri c phases phase) (heeds : Heeds peer c'.history)
    (ours : ∀ other notice more, phase.peer? = some other →
      c'.history = c.history ++ .delivered other notice :: more →
      (other = peer ↔ isLive peer c.history = true)) : Tuned peer uri c' (phases.set task next) := by
  -- What a call tells the connection of the document is neither too early nor does it overtake anything.
  have free {told : String} (tells : phase.tells? = some (peer, told)) (own : told = uri) :
      ¬ Opening peer phases ∧ .dismissing peer uri ∉ phases := by
    subst own
    exact ⟨fun opening => timely (.early phase tells opening),
      fun settled => timely (.overtaking phase tells settled)⟩
  cases works with
  | notStarted phase fresh vacant =>
    apply tuned.set found _ _ (by simp) <;> cases phase <;> simp [TaskPhase.isFresh, TaskPhase.opens?] at fresh ⊢
  | notOurs | found | foundClose | absent => exact tuned.set found .rfl (by simp) (by simp)
  | foundRefresh d =>
    exact (tuned.quiet c.world [.refreshing d.uri] (by simp [Happening.Quiet])).set found .rfl (by simp) (by simp)
  | forgotten older closed => exact tuned.forgotten found timely
  | synced other d =>
    refine Tuned.set ?_ found .rfl (by simp) (by simp)
    have outcome := c.syncOn_outcome host other d
    generalize c.syncOn host other d = result at outcome heeds ours ⊢
    cases outcome with
    | unchanged => exact tuned
    | opened w isClosed =>
      have told := tuned.delivered (.opened ⟨d.uri, d.languageId, 1, d.text⟩) w (ours _ _ _ rfl rfl)
        fun own same => by
          obtain ⟨opened, settled⟩ := free (same ▸ rfl) own
          exact ⟨opened, settled, own ▸ isClosed⟩
      simpa [after, Notice.apply] using told.quiet w [.opened d.uri] (by simp [Happening.Quiet])
    | changed w known isOpen =>
      have told := tuned.delivered (.changed d.uri (known.version + 1) d.text) w (ours _ _ _ rfl rfl)
        fun own same => by
          obtain ⟨opened, settled⟩ := free (same ▸ rfl) own
          exact ⟨opened, settled, own ▸ Option.isSome_of_eq_some isOpen⟩
      have quiet := told.quiet w [.changed d.uri (known.version + 1)] (by simp [Happening.Quiet])
      simpa [after, Notice.apply, isOpen] using quiet
    | refused => exact tuned.quiet _ _ (by simp [Happening.Quiet])
  | refreshed other d =>
    refine Tuned.set ?_ found .rfl (by simp) (by simp)
    have outcome := c.refreshOn_outcome host other d
    generalize c.refreshOn host other d = result at outcome heeds ours ⊢
    cases outcome with
    | done w =>
      exact tuned.refreshed d w (ours _ _ _ rfl rfl) fun own same => free (same ▸ rfl) own
    | closeRefused e w => exact tuned.quiet _ _ (by simp [Happening.Quiet])
    | openRefused e w =>
      have mine := ours _ _ _ rfl rfl
      -- The table still has the document that the server was told to close, so this must not be ours.
      have others : other ≠ peer := by
        rintro rfl
        have dead := heeds (c.history ++ [.delivered other (.closed d.uri)])
          (.opened ⟨d.uri, leanLanguage, 1, d.text⟩) e [] (by simp [after])
        rw [isLive_concat] at dead
        have live := mine.1 rfl
        simp [Happening.nowLive, live] at dead
      have gone := fun live => others (mine.2 live)
      refine .dead ?_ ?_
      · simpa [after, received, Happening.addReceived, others] using tuned.tidy
      · simpa [after, Happening.nowLive, isLive] using gone
  | dismissed other closed =>
    unfold dismissOn at heeds ours ⊢
    rcases notify_cases host c other (.closed closed) with ⟨w, sent⟩ | ⟨e, w, sent⟩
    · rw [sent] at ours ⊢
      have told := tuned.dismissed found (.ok true) w
        (ours other (.closed closed) [.closed closed] rfl (by simp [after, note]))
      simpa [after, note] using told.quiet w [.closed closed] (by simp [Happening.Quiet])
    · rw [sent] at heeds ⊢
      have quiet := tuned.quiet w [.refused other (.closed closed) e] (by simp [Happening.Quiet])
      by_cases own : other = peer
      · subst own
        have dead := heeds c.history _ e [] rfl
        exact .dead quiet.tidy (by simpa [after, Happening.nowLive] using dead)
      · exact quiet.set found .rfl (by simp [Ne.symm own]) (by simp)

theorem finished {t : Tasks W P} (tuned : Tuned peer uri t.client t.phases)
    (live : isLive peer t.client.history = true) (finished : t.AllFinished) :
    (replay (received peer t.client.history)).get? uri = t.client.documents.get? uri := by
  have opened : ¬ Opening peer t.phases := by
    rintro ⟨phase, inside, opens⟩
    have ended := finished phase inside
    cases phase <;> simp [TaskPhase.result?, TaskPhase.opens?] at ended opens
  refine (tuned.agree live opened).resolve_right fun dismissing => ?_
  have ended := finished _ dismissing
  simp [TaskPhase.result?] at ended

end Tuned

end Tasks

end LanguageClient
