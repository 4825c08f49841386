import LanguageClient.Proofs.Emitter.Agenda
import LanguageClient.Proofs.Emitter.Order

/-! Who hears an event. Whatever the listeners do to the registry while they are being called, a fire calls
those that were registered when it began, each once and in order, and nobody else. -/
namespace LanguageClient.Emitter

variable {E : Type}

def listenersAfter (listeners : List (ListenerId × String)) : Trace E → List (ListenerId × String)
  | .subscribed id name => listeners ++ [(id, name)]
  | .unsubscribed _ (some id) _ => listeners.filter fun listener => listener.1 ≠ id
  | _ => listeners

/-- The listeners that are registered once a history has come to pass, from those that were there before it. -/
def registered (listeners : List (ListenerId × String)) (history : List (Trace E)) :
    List (ListenerId × String) :=
  history.foldl listenersAfter listeners

def Trace.callBy? (number : Nat) : Trace E → Option ((ListenerId × String) × E)
  | .called other id name event => if other = number then some ((id, name), event) else none
  | _ => none

def callsBy (number : Nat) (history : List (Trace E)) : List ((ListenerId × String) × E) :=
  history.filterMap (Trace.callBy? number)

/-- A history in which each fire is heard as it should be, from the listeners there were before it. -/
structure Attended (listeners : List (ListenerId × String)) (history : List (Trace E)) : Prop where
  /-- A fire has a number of its own, and with its own event it calls the listeners that are registered when
  it begins, in their order. -/
  heard : ∀ before number event after, history = before ++ .fired number event :: after →
    (∀ other, .fired number other ∉ before) ∧ callsBy number before = [] ∧
      callsBy number after = (registered listeners before).map fun listener => (listener, event)
  /-- No listener is registered twice; their numbers tell the order in which they were registered. -/
  ordered : ∀ before, before <+: history → ((registered listeners before).map Prod.fst).Pairwise (· < ·)
  /-- Only fires call. -/
  called : ∀ number id name event, .called number id name event ∈ history →
    ∃ other, .fired number other ∈ history
  /-- A listener is called by fires alone that begin after it was registered. -/
  added : ∀ before id name after, history = before ++ .subscribed id name :: after →
    ∀ number other event, .called number id other event ∈ history → ∃ fired, .fired number fired ∈ after
  /-- No fire that begins after a listener was removed calls it. -/
  removed : ∀ before name id after, history = before ++ .unsubscribed name (some id) (some true) :: after →
    ∀ number fired, .fired number fired ∈ after → ∀ other event, .called number id other event ∉ history

def after (e : Emitter String) : Trace E → Emitter String
  | .subscribed _ name => (e.subscribe name).1
  | .unsubscribed _ (some id) _ => (e.unsubscribe id).1
  | _ => e

def Answers (e : Emitter String) : Trace E → Prop
  | .subscribed id name => id = (e.subscribe name).2
  | .unsubscribed _ (some id) removed => removed = some (e.unsubscribe id).2
  | _ => True

def Recorded (e : Emitter String) : List (Trace E) → Prop
  | [] => True
  | t :: rest => e.Answers t ∧ Recorded (e.after t) rest

variable {e : Emitter String}

private theorem recorded_append {before rest : List (Trace E)} :
    Recorded e (before ++ rest) ↔ Recorded e before ∧ Recorded (before.foldl after e) rest := by
  induction before generalizing e with
  | nil => simp [Recorded]
  | cons t before ih => simp [Recorded, ih, and_assoc]

private theorem Answers.listeners_eq {t : Trace E} (answered : e.Answers t) :
    (e.after t).listeners = listenersAfter e.listeners t := by
  cases t with
  | subscribed id name =>
    cases answered
    rfl
  | unsubscribed name id removed => cases id <;> rfl
  | _ => rfl

private theorem Recorded.listeners_eq {history : List (Trace E)} (recorded : Recorded e history) :
    (history.foldl after e).listeners = registered e.listeners history := by
  induction history generalizing e with
  | nil => rfl
  | cons t rest ih =>
    rw [List.foldl_cons, ih recorded.2, recorded.1.listeners_eq]
    rfl

private theorem Orderly.after (orderly : e.Orderly) (t : Trace E) : (e.after t).Orderly := by
  cases t with
  | subscribed id name => exact orderly.subscribe name
  | unsubscribed name id removed =>
    cases id with
    | none => exact orderly
    | some id => exact orderly.unsubscribe id
  | _ => exact orderly

private theorem Orderly.foldl_after (orderly : e.Orderly) (history : List (Trace E)) :
    (history.foldl Emitter.after e).Orderly := by
  induction history generalizing e with
  | nil => exact orderly
  | cons t rest ih => exact ih (orderly.after t)

private theorem nextId_le_after (e : Emitter String) (t : Trace E) : e.nextId ≤ (e.after t).nextId := by
  cases t with
  | subscribed id name => exact Nat.le_succ _
  | unsubscribed name id removed => cases id <;> exact Nat.le_refl _
  | _ => exact Nat.le_refl _

private theorem nextId_le_foldl_after (e : Emitter String) (history : List (Trace E)) :
    e.nextId ≤ (history.foldl after e).nextId := by
  induction history generalizing e with
  | nil => exact Nat.le_refl _
  | cons t rest ih => exact Nat.le_trans (nextId_le_after e t) (ih _)

structure Retired (id : ListenerId) (e : Emitter String) : Prop where
  given : id < e.nextId
  absent : ∀ listener ∈ e.listeners, listener.1 ≠ id

private theorem Retired.after {id : ListenerId} (retired : Retired id e) (t : Trace E) :
    Retired id (e.after t) where
  given := Nat.lt_of_lt_of_le retired.given (nextId_le_after e t)
  absent := by
    intro listener inside
    cases t with
    | subscribed number name =>
      rcases List.mem_append.1 inside with old | new
      · exact retired.absent listener old
      · rw [List.mem_singleton.1 new]
        exact (Nat.ne_of_lt retired.given).symm
    | unsubscribed name number removed =>
      cases number with
      | none => exact retired.absent listener inside
      | some number => exact retired.absent listener (List.mem_filter.1 inside).1
    | _ => exact retired.absent listener inside

private theorem Retired.foldl_after {id : ListenerId} (retired : Retired id e) (history : List (Trace E)) :
    Retired id (history.foldl Emitter.after e) := by
  induction history generalizing e with
  | nil => exact retired
  | cons t rest ih => exact ih (retired.after t)

private theorem Orderly.retired {id : ListenerId} (orderly : e.Orderly) (removed : (e.unsubscribe id).2 = true) :
    Retired id (e.unsubscribe id).1 where
  given := by
    obtain ⟨listener, inside⟩ := mem_of_unsubscribe removed
    exact orderly.below _ inside
  absent listener inside := of_decide_eq_true (List.mem_filter.1 inside).2

def Errand.callBy? (number : Nat) : Errand E → Option ((ListenerId × String) × E)
  | .call other event listener => if other = number then some (listener, event) else none
  | .act _ => none

def callsLeft (number : Nat) (agenda : List (Errand E)) : List ((ListenerId × String) × E) :=
  agenda.filterMap (Errand.callBy? number)

namespace Registry

def told (r : Registry E) : Errand E → Trace E
  | .act (.subscribe name _) => .subscribed r.emitter.nextId name
  | .act (.unsubscribe name) =>
    .unsubscribed name (r.names.get? name) ((r.names.get? name).map fun id => (r.emitter.unsubscribe id).2)
  | .act .count => .counted r.emitter.listenerCount
  | .act (.fire event) => .fired r.fires event
  | .call number event listener => .called number listener.1 listener.2 event

variable {r : Registry E} {errand : Errand E}

private theorem unsubscribe_eq (r : Registry E) (name : String) :
    (r.unsubscribe name).1 =
      { r with emitter := r.emitter.after (r.told (.act (.unsubscribe name))) }.note
        (r.told (.act (.unsubscribe name))) := by
  cases found : r.names.get? name <;> simp [unsubscribe, told, found, note, Emitter.after]

private theorem begin_history (errand : Errand E) (r : Registry E) :
    (begin errand r).2.history = r.history ++ [r.told errand] := by
  cases errand with
  | call number event listener => rfl
  | act a =>
    cases a with
    | unsubscribe name => rw [begin, unsubscribe_eq, note]
    | _ => rfl

private theorem begin_emitter (errand : Errand E) (r : Registry E) :
    (begin errand r).2.emitter = r.emitter.after (r.told errand) := by
  cases errand with
  | call number event listener => rfl
  | act a =>
    cases a with
    | unsubscribe name => rw [begin, unsubscribe_eq, note]
    | _ => rfl

private theorem told_answers (errand : Errand E) (r : Registry E) : r.emitter.Answers (r.told errand) := by
  cases errand with
  | call number event listener => trivial
  | act a =>
    cases a with
    | subscribe name calls => rfl
    | unsubscribe name => cases found : r.names.get? name <;> simp [told, found, Answers]
    | _ => trivial

private theorem begin_fires (noFire : ∀ event, errand ≠ .act (.fire event)) :
    (begin errand r).2.fires = r.fires := by
  cases errand with
  | call number event listener => rfl
  | act a =>
    cases a with
    | unsubscribe name => rw [begin, unsubscribe_eq, note]
    | fire event => exact absurd rfl (noFire event)
    | _ => rfl

private theorem begin_acts (noFire : ∀ event, errand ≠ .act (.fire event)) :
    ∀ next ∈ (begin errand r).1, ∃ a, next = .act a := by
  cases errand with
  | call number event listener =>
    intro next inside
    obtain ⟨a, -, rfl⟩ := List.mem_map.1 inside
    exact ⟨a, rfl⟩
  | act a =>
    cases a with
    | fire event => exact absurd rfl (noFire event)
    | _ => exact nofun

private theorem told_ne_fired (noFire : ∀ event, errand ≠ .act (.fire event)) (number : Nat) (event : E) :
    r.told errand ≠ .fired number event := by
  cases errand with
  | call number event listener => exact nofun
  | act a =>
    cases a with
    | fire event => exact absurd rfl (noFire event)
    | _ => exact nofun

private theorem told_callBy? (number : Nat) : (r.told errand).callBy? number = errand.callBy? number := by
  cases errand with
  | call number event listener => rfl
  | act a => cases a <;> rfl

private theorem eq_call_of_told {number : Nat} {id : ListenerId} {name : String} {event : E}
    (calls : r.told errand = .called number id name event) : errand = .call number event (id, name) := by
  cases errand with
  | call number event listener =>
    cases calls
    rfl
  | act a => cases a <;> contradiction

end Registry

/-- An item of a history with one more at its end is the one at the end, or stands in the history before. -/
theorem split_concat {α : Type} {items before after : List α} {x y : α}
    (split : items ++ [y] = before ++ x :: after) :
    (items = before ∧ y = x ∧ after = []) ∨ ∃ rest, after = rest ++ [y] ∧ items = before ++ x :: rest := by
  rcases List.eq_nil_or_concat after with rfl | ⟨rest, final, rfl⟩
  · obtain ⟨rfl, last⟩ := List.append_inj' split rfl
    exact .inl ⟨rfl, List.singleton_inj.1 last, rfl⟩
  · rw [List.concat_eq_append, ← List.cons_append, ← List.append_assoc] at split
    obtain ⟨rfl, last⟩ := List.append_inj' split rfl
    exact .inr ⟨rest, by rw [List.concat_eq_append, last], rfl⟩

private theorem callsBy_concat (number : Nat) (history : List (Trace E)) (t : Trace E) :
    callsBy number (history ++ [t]) = callsBy number history ++ (t.callBy? number).toList := by
  rw [callsBy, List.filterMap_append, callsBy]
  cases found : t.callBy? number <;> simp [found]

private theorem callsBy_fired (number other : Nat) (history : List (Trace E)) (event : E) :
    callsBy number (history ++ [.fired other event]) = callsBy number history := by
  rw [callsBy_concat]
  exact List.append_nil _

private theorem callsLeft_act (number : Nat) (a : Act E) (agenda : List (Errand E)) :
    callsLeft number (.act a :: agenda) = callsLeft number agenda :=
  rfl

private theorem callsLeft_cons (number : Nat) (errand : Errand E) (agenda : List (Errand E)) :
    callsLeft number (errand :: agenda) = (errand.callBy? number).toList ++ callsLeft number agenda := by
  rw [callsLeft, List.filterMap_cons, callsLeft]
  cases errand.callBy? number <;> rfl

private theorem callsLeft_append (number : Nat) (front agenda : List (Errand E)) :
    callsLeft number (front ++ agenda) = callsLeft number front ++ callsLeft number agenda :=
  List.filterMap_append

private theorem callsLeft_acts {agenda : List (Errand E)} (acts : ∀ errand ∈ agenda, ∃ a, errand = .act a)
    (number : Nat) :
    callsLeft number agenda = [] := by
  refine List.filterMap_eq_nil_iff.2 fun errand inside => ?_
  obtain ⟨a, rfl⟩ := acts errand inside
  rfl

private theorem callsLeft_calls (number : Nat) (event : E) (listeners : List (ListenerId × String)) :
    callsLeft number (listeners.map (.call number event)) = listeners.map fun listener => (listener, event) := by
  rw [callsLeft, List.filterMap_map, ← List.filterMap_eq_map]
  congr 1
  funext listener
  exact if_pos rfl

private theorem callsLeft_calls_of_ne {number other : Nat} (differs : other ≠ number) (event : E)
    (listeners : List (ListenerId × String)) :
    callsLeft number (listeners.map (.call other event)) = [] := by
  refine List.filterMap_eq_nil_iff.2 fun errand inside => ?_
  obtain ⟨listener, -, rfl⟩ := List.mem_map.1 inside
  exact if_neg differs

private theorem mem_callsBy {number : Nat} {history : List (Trace E)} {id : ListenerId} {name : String}
    {event : E} :
    ((id, name), event) ∈ callsBy number history ↔ .called number id name event ∈ history := by
  constructor
  · intro inside
    obtain ⟨t, there, calls⟩ := List.mem_filterMap.1 inside
    cases t with
    | called other id' name' event' =>
      obtain ⟨rfl, same⟩ := Option.ite_none_right_eq_some.1 calls
      cases same
      exact there
    | _ => contradiction
  · intro there
    exact List.mem_filterMap.2 ⟨_, there, if_pos rfl⟩

/-- A registry in the middle of its work: what its history tells, together with the calls that are still on
the agenda, is what it should be. -/
structure Attending (start : Emitter String) (history : List (Trace E)) (agenda : List (Errand E))
    (r : Registry E) : Prop where
  emitter : r.emitter = history.foldl after start
  recorded : Recorded start history
  numbered : ∀ number event, .fired number event ∈ history → number < r.fires
  called : ∀ number id name event, .called number id name event ∈ history →
    ∃ other, .fired number other ∈ history
  calling : ∀ number event listener, .call number event listener ∈ agenda →
    ∃ other, .fired number other ∈ history
  heard : ∀ before number event after, history = before ++ .fired number event :: after →
    (∀ other, .fired number other ∉ before) ∧ callsBy number before = [] ∧
      callsBy number after ++ callsLeft number agenda =
        (registered start.listeners before).map fun listener => (listener, event)

namespace Attending

variable {start : Emitter String} {history : List (Trace E)} {agenda : List (Errand E)} {r : Registry E}
  {errand : Errand E}

private theorem init (acts : List (Act E)) (r : Registry E) : Attending r.emitter [] (acts.map .act) r where
  emitter := rfl
  recorded := trivial
  numbered := nofun
  called := nofun
  calling := by simp
  heard _ _ _ _ split := by simp at split

private theorem recorded_concat (attending : Attending start history agenda r) (errand : Errand E) :
    Recorded start (history ++ [r.told errand]) := by
  rw [recorded_append]
  exact ⟨attending.recorded, attending.emitter ▸ Registry.told_answers errand r, trivial⟩

private theorem emitter_concat (attending : Attending start history agenda r) (errand : Errand E) :
    (Registry.begin errand r).2.emitter = (history ++ [r.told errand]).foldl after start := by
  rw [List.foldl_append, ← attending.emitter, Registry.begin_emitter]
  rfl

/-- An errand that is no fire moves a call from the agenda into the history, if it is a call. -/
theorem begin_other (attending : Attending start history (errand :: agenda) r)
    (noFire : ∀ event, errand ≠ .act (.fire event)) :
    Attending start (history ++ [r.told errand]) ((Registry.begin errand r).1 ++ agenda)
      (Registry.begin errand r).2 where
  emitter := attending.emitter_concat errand
  recorded := attending.recorded_concat errand
  numbered number event inside := by
    rw [Registry.begin_fires noFire]
    rcases List.mem_append.1 inside with old | new
    · exact attending.numbered number event old
    · exact absurd (List.mem_singleton.1 new).symm (Registry.told_ne_fired noFire number event)
  called number id name event inside := by
    rcases List.mem_append.1 inside with old | new
    · obtain ⟨other, fired⟩ := attending.called number id name event old
      exact ⟨other, List.mem_append_left _ fired⟩
    · have called := Registry.eq_call_of_told (List.mem_singleton.1 new).symm
      obtain ⟨other, fired⟩ := attending.calling number event (id, name) (by simp [called])
      exact ⟨other, List.mem_append_left _ fired⟩
  calling number event listener inside := by
    rcases List.mem_append.1 inside with new | old
    · obtain ⟨a, acts⟩ := Registry.begin_acts noFire _ new
      contradiction
    · obtain ⟨other, fired⟩ := attending.calling number event listener (List.mem_cons_of_mem _ old)
      exact ⟨other, List.mem_append_left _ fired⟩
  heard before number event after split := by
    rcases split_concat split with ⟨-, fired, -⟩ | ⟨rest, rfl, told⟩
    · exact absurd fired (Registry.told_ne_fired noFire number event)
    · obtain ⟨new, early, heard⟩ := attending.heard before number event rest told
      refine ⟨new, early, ?_⟩
      rw [← heard, callsBy_concat, Registry.told_callBy?, callsLeft_append,
        callsLeft_acts (Registry.begin_acts noFire), callsLeft_cons, List.append_assoc, List.nil_append]

/-- A fire takes the next number, and all its calls are on the agenda. -/
theorem begin_fire {event : E} (attending : Attending start history (.act (.fire event) :: agenda) r) :
    Attending start (history ++ [.fired r.fires event])
      (r.emitter.listeners.map (.call r.fires event) ++ agenda) (r.fired event) where
  emitter := attending.emitter_concat (.act (.fire event))
  recorded := attending.recorded_concat (.act (.fire event))
  numbered number other inside := by
    rcases List.mem_append.1 inside with old | new
    · exact Nat.lt_succ_of_lt (attending.numbered number other old)
    · cases List.mem_singleton.1 new
      exact Nat.lt_succ_self _
  called number id name other inside := by
    rcases List.mem_append.1 inside with old | new
    · obtain ⟨first, fired⟩ := attending.called number id name other old
      exact ⟨first, List.mem_append_left _ fired⟩
    · cases List.mem_singleton.1 new
  calling number other listener inside := by
    rcases List.mem_append.1 inside with new | old
    · obtain ⟨_, -, same⟩ := List.mem_map.1 new
      cases same
      exact ⟨event, by simp⟩
    · obtain ⟨first, fired⟩ := attending.calling number other listener (List.mem_cons_of_mem _ old)
      exact ⟨first, List.mem_append_left _ fired⟩
  heard before number other after split := by
    have unfired (other : E) : .fired r.fires other ∉ history := fun inside =>
      Nat.lt_irrefl _ (attending.numbered r.fires other inside)
    rcases split_concat split with ⟨rfl, fired, rfl⟩ | ⟨rest, rfl, told⟩
    · cases fired
      have uncalled : callsBy r.fires history = [] := by
        refine List.eq_nil_iff_forall_not_mem.2 fun ⟨⟨id, name⟩, heard⟩ inside => ?_
        obtain ⟨other, fired⟩ := attending.called _ _ _ _ (mem_callsBy.1 inside)
        exact unfired other fired
      have unplanned : callsLeft r.fires agenda = [] := by
        refine List.filterMap_eq_nil_iff.2 fun errand inside => ?_
        cases errand with
        | act a => rfl
        | call number other listener =>
          refine if_neg ?_
          rintro rfl
          obtain ⟨first, fired⟩ := attending.calling _ _ _ (List.mem_cons_of_mem _ inside)
          exact unfired first fired
      refine ⟨unfired, uncalled, ?_⟩
      rw [← attending.recorded.listeners_eq, ← attending.emitter, callsLeft_append, callsLeft_calls, unplanned]
      exact List.append_nil _
    · obtain ⟨new, early, heard⟩ := attending.heard before number other rest told
      have differs : r.fires ≠ number := by
        rintro rfl
        exact unfired other (by simp [told])
      refine ⟨new, early, ?_⟩
      rw [← heard, callsBy_fired, callsLeft_append, callsLeft_calls_of_ne differs, List.nil_append, callsLeft_act]

private theorem leads {s t : List (Errand E) × Registry E} (leads : Registry.Leads s t)
    (attending : Attending start history s.1 s.2) :
    ∃ more, t.2.history = s.2.history ++ more ∧ Attending start (history ++ more) t.1 t.2 := by
  induction leads with
  | refl => exact ⟨[], by simp, by simpa using attending⟩
  | @tail u v earlier proceeds ih =>
    obtain ⟨more, told, attending⟩ := ih
    obtain ⟨errand, agenda, r⟩ := proceeds
    refine ⟨more ++ [r.told errand], ?_, ?_⟩
    · rw [Registry.begin_history, told, List.append_assoc]
    · rw [← List.append_assoc]
      by_cases noFire : ∀ event, errand ≠ .act (.fire event)
      · exact attending.begin_other noFire
      · obtain ⟨event, rfl⟩ := Classical.not_forall_not.1 noFire
        exact attending.begin_fire

/-- When nothing is left on the agenda, a listener that was called was registered when the fire began. -/
theorem registered_of_called (attending : Attending start history [] r) {before after : List (Trace E)}
    {number : Nat} {fired event : E} {id : ListenerId} {name : String}
    (split : history = before ++ .fired number fired :: after)
    (called : .called number id name event ∈ history) :
    (id, name) ∈ (before.foldl Emitter.after start).listeners := by
  obtain ⟨-, early, heard⟩ := attending.heard before number fired after split
  have recorded := attending.recorded
  rw [split, recorded_append] at recorded
  rw [recorded.1.listeners_eq]
  have heard' : ((id, name), event) ∈ callsBy number after := by
    have inside := mem_callsBy.2 called
    rw [split, callsBy, List.filterMap_append, ← callsBy, early] at inside
    exact inside
  rw [← List.append_nil (callsBy number after)] at heard'
  obtain ⟨listener, inside, same⟩ := List.mem_map.1 (heard ▸ heard')
  cases same
  exact inside

/-- When nothing is left on the agenda, every fire has been heard as it should be. -/
theorem attended (attending : Attending start history [] r) (orderly : start.Orderly) :
    Attended start.listeners history where
  heard before number event after split := by
    obtain ⟨new, early, heard⟩ := attending.heard before number event after split
    exact ⟨new, early, by rw [← heard]; exact (List.append_nil _).symm⟩
  ordered before part := by
    obtain ⟨rest, rfl⟩ := part
    rw [← (recorded_append.1 attending.recorded).1.listeners_eq]
    exact (orderly.foldl_after before).increasing
  called := attending.called
  added before id name after split number other event inside := by
    have recorded := attending.recorded
    rw [split, recorded_append] at recorded
    have given : id = (before.foldl Emitter.after start).nextId := recorded.2.1
    obtain ⟨fired, fires⟩ := attending.called number id other event inside
    rw [split] at fires
    rcases List.mem_append.1 fires with early | late
    · -- The number would have been known before it was given.
      obtain ⟨front, rest, rfl⟩ := List.append_of_mem early
      rw [List.append_assoc, List.cons_append] at split
      have known := (orderly.foldl_after front).below _ (attending.registered_of_called split inside)
      have grown := nextId_le_foldl_after (front.foldl Emitter.after start) (.fired number fired :: rest)
      rw [← List.foldl_append, ← given] at grown
      exact absurd known (Nat.not_lt.2 grown)
    · exact ⟨fired, (List.mem_cons.1 late).resolve_left nofun⟩
  removed before name id after split number fired later other event inside := by
    have recorded := attending.recorded
    rw [split, recorded_append] at recorded
    have answered : some true = some ((before.foldl Emitter.after start).unsubscribe id).2 := recorded.2.1
    have retired := (orderly.foldl_after before).retired (Option.some.inj answered).symm
    obtain ⟨front, rest, rfl⟩ := List.append_of_mem later
    rw [← List.cons_append, ← List.append_assoc] at split
    have known := attending.registered_of_called split inside
    rw [List.foldl_append, List.foldl_cons] at known
    exact (retired.foldl_after front).absent _ known rfl

end Attending

namespace Registry

/-- Whatever listeners do to the registry and fire while they are called, an event is heard by the listeners that
were registered when it was fired: each is called once, in the order of registration, with the event of the
fire, and nobody else is. Each call goes to its end, however deep calls nest. A registry is orderly when it is
empty and after whatever is done to it, so every registry that there can be is. What a listener does in its calls
is written in the registry beforehand; a run of listeners that decide as they go is the run of a registry in
which their decisions are written. -/
theorem acts_attended :
    (empty : Registry E).emitter.Orderly ∧
    ∀ (r : Registry E) (acts : List (Act E)), r.emitter.Orderly →
      ∃ happened, (acts.foldl act r).history = r.history ++ happened ∧
        Attended r.emitter.listeners happened ∧
        (acts.foldl act r).emitter.listeners = registered r.emitter.listeners happened ∧
        (acts.foldl act r).emitter.Orderly ∧
        ∀ (r' : Registry E) (event : E),
          r'.act (.fire event) = r'.emitter.listeners.foldl (hear r'.fires event) (r'.fired event) := by
  refine ⟨orderly_empty, fun r acts orderly => ?_⟩
  have led := acts_lead acts r []
  rw [List.append_nil] at led
  obtain ⟨happened, told, attending⟩ := Attending.leads led (.init acts r)
  rw [List.nil_append] at attending
  refine ⟨happened, told, attending.attended orderly, ?_, ?_, act_fire⟩
  · rw [← attending.recorded.listeners_eq, ← attending.emitter]
  · rw [attending.emitter]
    exact orderly.foldl_after happened

/-- Three listeners. The first, when it is called, has another one join, the second leave before it has been
called, and an event fired. -/
def crowd : Registry Nat :=
  [.subscribe "a" [[.subscribe "d" [], .unsubscribe "b", .fire 2]], .subscribe "b" [], .subscribe "c" []].foldl
    act .empty

theorem acts_attended_crowd :
    crowd.emitter.Orderly ∧ ∃ happened, ([.fire 1].foldl act crowd).history = crowd.history ++ happened ∧
      Attended crowd.emitter.listeners happened ∧
      callsBy 0 happened = [((1, "a"), 1), ((2, "b"), 1), ((3, "c"), 1)] ∧
      callsBy 1 happened = [((1, "a"), 2), ((3, "c"), 2), ((4, "d"), 2)] := by
  have orderly : crowd.emitter.Orderly := ⟨by decide, by decide⟩
  have run : ([.fire 1].foldl act crowd).history = crowd.history ++
      [.fired 0 1, .called 0 1 "a" 1, .subscribed 4 "d", .unsubscribed "b" (some 2) (some true), .fired 1 2,
        .called 1 1 "a" 2, .called 1 3 "c" 2, .called 1 4 "d" 2, .called 0 2 "b" 1, .called 0 3 "c" 1] := by
    decide +kernel
  obtain ⟨happened, told, attended, -, -, -⟩ := acts_attended.2 crowd [.fire 1] orderly
  obtain rfl := List.append_cancel_left (run.symm.trans told)
  exact ⟨orderly, _, told, attended, by decide, by decide⟩

end Registry

end LanguageClient.Emitter
