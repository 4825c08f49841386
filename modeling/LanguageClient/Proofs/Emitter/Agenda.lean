import LanguageClient.Emitter.Reaction
import Mathlib.Algebra.GroupWithZero.Nat
import Mathlib.Logic.Relation

/-! Acts and calls that are still to come, as an agenda that is worked off from the front. What a fire or a
call leads to is put before the rest, so an event that is fired inside a call is heard to the end before
the call goes on. Acts are performed as the agenda says, and no bound on the depth of calls is ever met. -/
namespace LanguageClient.Emitter

inductive Errand (E : Type) where
  | act (act : Act E)
  | call (number : Nat) (event : E) (listener : ListenerId × String)

namespace Registry

variable {E : Type}

/-- The registry when an event has been fired and nobody has been called yet. -/
def fired (r : Registry E) (event : E) : Registry E :=
  { r with fires := r.fires + 1 }.note (.fired r.fires event)

def called (r : Registry E) (number : Nat) (event : E) (listener : ListenerId × String) : Registry E :=
  { r with reactions := (takeCall listener.1 r.reactions).2 }.note
    (.called number listener.1 listener.2 event)

def begin : Errand E → Registry E → List (Errand E) × Registry E
  | .act (.subscribe name calls), r => ([], r.subscribe name calls)
  | .act (.unsubscribe name), r => ([], (r.unsubscribe name).1)
  | .act .count, r => ([], r.note (.counted r.emitter.listenerCount))
  | .act (.fire event), r => (r.emitter.listeners.map (.call r.fires event), r.fired event)
  | .call number event listener, r =>
    ((takeCall listener.1 r.reactions).1.map .act, r.called number event listener)

inductive Proceeds : List (Errand E) × Registry E → List (Errand E) × Registry E → Prop
  | front (errand : Errand E) (rest : List (Errand E)) (r : Registry E) :
      Proceeds (errand :: rest, r) ((begin errand r).1 ++ rest, (begin errand r).2)

private theorem sizeOfAct_pos (a : Act E) : 0 < sizeOfAct a := by
  cases a <;> simp [sizeOfAct]

private theorem sizeOfActs_eq (acts : List (Act E)) : sizeOfActs acts = (acts.map sizeOfAct).sum := by
  induction acts with
  | nil => rfl
  | cons a rest ih => rw [sizeOfActs, ih, List.map_cons, List.sum_cons]

private theorem pendingActs_eq (r : Registry E) :
    r.pendingActs = (r.reactions.map fun entry => sizeOfCalls entry.2).sum := by
  rw [pendingActs, List.sum_eq_foldl, List.foldl_map]

private theorem pendingActs_subscribe (r : Registry E) (name : String) (calls : List (List (Act E))) :
    (r.subscribe name calls).pendingActs = r.pendingActs + sizeOfCalls calls := by
  rw [pendingActs_eq, pendingActs_eq, Nat.add_comm]
  rfl

private theorem pendingActs_unsubscribe (r : Registry E) (name : String) :
    (r.unsubscribe name).1.pendingActs = r.pendingActs := by
  unfold unsubscribe
  split <;> rfl

/-- The acts of a call are no longer left once the call has begun. -/
theorem sizeOf_takeCall (id : ListenerId) (reactions : List (ListenerId × List (List (Act E)))) :
    sizeOfActs (takeCall id reactions).1 +
        ((takeCall id reactions).2.map fun entry => sizeOfCalls entry.2).sum =
      (reactions.map fun entry => sizeOfCalls entry.2).sum := by
  induction reactions with
  | nil => rfl
  | cons entry rest ih =>
    obtain ⟨other, calls⟩ := entry
    unfold takeCall
    split
    · cases calls with
      | nil => simp [sizeOfActs]
      | cons acts calls => simp [sizeOfCalls, Nat.add_assoc]
    · simp only [List.map_cons, List.sum_cons]
      omega

private theorem pendingActs_called (r : Registry E) (number : Nat) (event : E) (listener : ListenerId × String) :
    sizeOfActs (takeCall listener.1 r.reactions).1 + (r.called number event listener).pendingActs =
      r.pendingActs := by
  rw [pendingActs_eq, pendingActs_eq]
  exact sizeOf_takeCall listener.1 r.reactions

private theorem pendingActs_foldl_le {α : Type} {step : Registry E → α → Registry E} {weight : α → Nat}
    (bound : ∀ r item, (step r item).pendingActs ≤ r.pendingActs + weight item) (items : List α)
    (r : Registry E) :
    (items.foldl step r).pendingActs ≤ r.pendingActs + (items.map weight).sum := by
  induction items generalizing r with
  | nil => exact Nat.le_refl _
  | cons item rest ih =>
    rw [List.foldl_cons, List.map_cons, List.sum_cons]
    have first := bound r item
    have later := ih (step r item)
    omega

def hearWithin (depth number : Nat) (event : E) (r : Registry E) (listener : ListenerId × String) : Registry E :=
  (takeCall listener.1 r.reactions).1.foldl (fun r a => perform depth a r) (r.called number event listener)

private theorem perform_fire (depth : Nat) (event : E) (r : Registry E) :
    perform (depth + 1) (.fire event) r =
      r.emitter.listeners.foldl (hearWithin depth r.fires event) (r.fired event) :=
  rfl

private theorem fire_or_not (a : Act E) : (∃ event, a = .fire event) ∨ ∀ event, a ≠ .fire event := by
  cases a <;> simp

/-- An act that is no fire is done once it is begun. -/
theorem begin_act {a : Act E} (noFire : ∀ event, a ≠ .fire event) (depth : Nat) (r : Registry E) :
    begin (.act a) r = ([], perform depth a r) := by
  cases a with
  | fire event => exact absurd rfl (noFire event)
  | _ => cases depth <;> rfl

private theorem pendingActs_begin_le (a : Act E) (r : Registry E) :
    (begin (.act a) r).2.pendingActs ≤ r.pendingActs + sizeOfAct a := by
  cases a with
  | subscribe name calls =>
    rw [begin, pendingActs_subscribe, sizeOfAct]
    omega
  | unsubscribe name =>
    rw [begin, pendingActs_unsubscribe]
    exact Nat.le_add_right _ _
  | fire event | count => exact Nat.le_add_right _ _

private theorem pendingActs_hear_le {depth : Nat}
    (bound : ∀ (r : Registry E) a, (perform depth a r).pendingActs ≤ r.pendingActs + sizeOfAct a)
    (number : Nat) (event : E) (r : Registry E) (listener : ListenerId × String) :
    (hearWithin depth number event r listener).pendingActs ≤ r.pendingActs := by
  rw [← pendingActs_called r number event listener, sizeOfActs_eq, Nat.add_comm]
  exact pendingActs_foldl_le bound _ _

private theorem pendingActs_quiet_le {a : Act E} (noFire : ∀ event, a ≠ .fire event) (depth : Nat)
    (r : Registry E) :
    (perform depth a r).pendingActs ≤ r.pendingActs + sizeOfAct a := by
  have begun := pendingActs_begin_le a r
  rwa [begin_act noFire depth] at begun

/-- What an act leaves to be done is no more than what was left before and the act itself. -/
theorem pendingActs_perform_le (depth : Nat) (r : Registry E) (a : Act E) :
    (perform depth a r).pendingActs ≤ r.pendingActs + sizeOfAct a := by
  induction depth generalizing r a with
  | zero =>
    rcases fire_or_not a with ⟨event, rfl⟩ | noFire
    · exact Nat.le_add_right _ _
    · exact pendingActs_quiet_le noFire 0 r
  | succ depth ih =>
    rcases fire_or_not a with ⟨event, rfl⟩ | noFire
    · have heard (r' : Registry E) (listener : ListenerId × String) :
          (hearWithin depth r.fires event r' listener).pendingActs ≤ r'.pendingActs + 0 :=
        pendingActs_hear_le ih r.fires event r' listener
      have all := pendingActs_foldl_le heard r.emitter.listeners (r.fired event)
      rw [List.map_const', List.sum_replicate_nat, Nat.mul_zero] at all
      rw [perform_fire]
      exact Nat.le_trans all (Nat.le_add_right _ _)
    · exact pendingActs_quiet_le noFire (depth + 1) r

abbrev Leads (s t : List (Errand E) × Registry E) : Prop := Relation.ReflTransGen Proceeds s t

private theorem Leads.front {errand : Errand E} {rest : List (Errand E)} {r : Registry E}
    {t : List (Errand E) × Registry E} (later : Leads ((begin errand r).1 ++ rest, (begin errand r).2) t) :
    Leads (errand :: rest, r) t :=
  .head (.front errand rest r) later

def Suffices (E : Type) (depth : Nat) : Prop :=
  ∀ (a : Act E) (r : Registry E) (rest : List (Errand E)), r.pendingActs + sizeOfAct a ≤ depth →
    Leads (.act a :: rest, r) (rest, perform depth a r)

private theorem Suffices.acts {depth : Nat} (deep : Suffices E depth) (acts : List (Act E)) (r : Registry E)
    (rest : List (Errand E)) (enough : r.pendingActs + sizeOfActs acts ≤ depth) :
    Leads (acts.map .act ++ rest, r) (rest, acts.foldl (fun r a => perform depth a r) r) := by
  induction acts generalizing r with
  | nil => exact .refl
  | cons a acts ih =>
    rw [sizeOfActs] at enough
    have left := pendingActs_perform_le depth r a
    exact (deep a r _ (by omega)).trans (ih _ (by omega))

private theorem Suffices.calls {depth : Nat} (deep : Suffices E depth) (number : Nat) (event : E)
    (listeners : List (ListenerId × String)) (r : Registry E) (rest : List (Errand E))
    (enough : r.pendingActs ≤ depth) :
    Leads (listeners.map (.call number event) ++ rest, r)
      (rest, listeners.foldl (hearWithin depth number event) r) := by
  induction listeners generalizing r with
  | nil => exact .refl
  | cons listener listeners ih =>
    have left := pendingActs_called r number event listener
    have fewer := pendingActs_hear_le (pendingActs_perform_le depth) number event r listener
    exact .front ((deep.acts _ (r.called number event listener) _ (by omega)).trans
      (ih _ (Nat.le_trans fewer enough)))

private theorem suffices_all (depth : Nat) : Suffices E depth := by
  induction depth with
  | zero =>
    intro a r rest enough
    have positive := sizeOfAct_pos a
    omega
  | succ depth ih =>
    intro a r rest enough
    rcases fire_or_not a with ⟨event, rfl⟩ | noFire
    · rw [perform_fire]
      exact .front (ih.calls r.fires event _ (r.fired event) rest (Nat.le_of_succ_le_succ enough))
    · have done : Leads (.act a :: rest, r) _ := .front .refl
      rwa [begin_act noFire (depth + 1)] at done

private theorem act_leads (a : Act E) (r : Registry E) (rest : List (Errand E)) :
    Leads (.act a :: rest, r) (rest, r.act a) :=
  suffices_all _ a r rest (Nat.le_refl _)

/-- Acts are performed one after another as the agenda says, with all that they lead to. -/
theorem acts_lead (acts : List (Act E)) (r : Registry E) (rest : List (Errand E)) :
    Leads (acts.map .act ++ rest, r) (rest, acts.foldl act r) := by
  induction acts generalizing r with
  | nil => exact .refl
  | cons a acts ih => exact (act_leads a r _).trans (ih (r.act a))

private theorem proceeds_unique : Relator.RightUnique (@Proceeds E) := by
  intro s t t' first second
  cases first
  cases second
  rfl

private theorem Leads.eq_of_done {r : Registry E} {t : List (Errand E) × Registry E} (leads : Leads ([], r) t) :
    t = ([], r) := by
  rcases leads.cases_head with rfl | ⟨next, proceeds, -⟩
  · rfl
  · cases proceeds

private theorem Leads.unique {s : List (Errand E) × Registry E} {r r' : Registry E} (first : Leads s ([], r))
    (second : Leads s ([], r')) : r = r' := by
  rcases first.total_of_right_unique proceeds_unique second with leads | leads
  · exact (congrArg Prod.snd (Leads.eq_of_done leads)).symm
  · exact congrArg Prod.snd (Leads.eq_of_done leads)

/-- A call of a listener, performed to its end. -/
def hear (number : Nat) (event : E) (r : Registry E) (listener : ListenerId × String) : Registry E :=
  (takeCall listener.1 r.reactions).1.foldl act (r.called number event listener)

private theorem calls_lead (number : Nat) (event : E) (listeners : List (ListenerId × String)) (r : Registry E)
    (rest : List (Errand E)) :
    Leads (listeners.map (.call number event) ++ rest, r) (rest, listeners.foldl (hear number event) r) := by
  induction listeners generalizing r with
  | nil => exact .refl
  | cons listener listeners ih => exact .front ((acts_lead _ (r.called number event listener) _).trans (ih _))

/-- Everyone who is called by a fire acts to the end, however deep calls nest. -/
theorem act_fire (r : Registry E) (event : E) :
    r.act (.fire event) = r.emitter.listeners.foldl (hear r.fires event) (r.fired event) :=
  (act_leads (.fire event) r []).unique (.front (calls_lead r.fires event _ (r.fired event) []))

end Registry

end LanguageClient.Emitter
