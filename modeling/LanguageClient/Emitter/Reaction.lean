import LanguageClient.Emitter
import LanguageClient.Table

/-!
Listeners that act on the registry while they are being called. What a listener does is a tree: it
holds, for each of its calls in turn, the acts it performs, and a listener that is subscribed by an
act brings its own tree. An event is heard by the listeners that were registered when it was
fired, whatever they do to the registry meanwhile; events fired inside a call are heard to the end
before the call goes on.
-/
namespace LanguageClient.Emitter

/-- What a listener can do while it is called. Listeners go by names; a name means the listener
that took it last. -/
inductive Act (E : Type) where
  | subscribe (name : String) (calls : List (List (Act E)))
  | unsubscribe (name : String)
  | fire (event : E)
  | count

inductive Trace (E : Type) where
  | subscribed (id : ListenerId) (name : String)
  | unsubscribed (name : String) (id : Option ListenerId) (removed : Option Bool)
  | fired (number : Nat) (event : E)
  | called (number : Nat) (id : ListenerId) (name : String) (event : E)
  | counted (count : Nat)
  deriving DecidableEq, Repr

/-- A registry whose listeners act: what each listener will still do, the latest listener of each
name, the number of events fired, and the history. -/
structure Registry (E : Type) where
  emitter : Emitter String
  reactions : List (ListenerId × List (List (Act E)))
  names : Table ListenerId
  fires : Nat
  history : List (Trace E)

namespace Registry

variable {E : Type}

def empty : Registry E := ⟨Emitter.empty, [], [], 0, []⟩

def note (r : Registry E) (t : Trace E) : Registry E := { r with history := r.history ++ [t] }

def subscribe (r : Registry E) (name : String) (calls : List (List (Act E))) : Registry E :=
  let (emitter, id) := r.emitter.subscribe name
  { r with
    emitter := emitter
    reactions := (id, calls) :: r.reactions
    names := r.names.insert name id }.note (.subscribed id name)

def unsubscribe (r : Registry E) (name : String) : Registry E × Option Bool :=
  match r.names.get? name with
  | none => (r.note (.unsubscribed name none none), none)
  | some id =>
    let (emitter, removed) := r.emitter.unsubscribe id
    ({ r with emitter := emitter }.note (.unsubscribed name (some id) (some removed)), some removed)

def takeCall (id : ListenerId) :
    List (ListenerId × List (List (Act E))) → List (Act E) × List (ListenerId × List (List (Act E)))
  | [] => ([], [])
  | (other, calls) :: rest =>
    if other = id then
      match calls with
      | [] => ([], (other, []) :: rest)
      | acts :: calls => (acts, (other, calls) :: rest)
    else
      let (acts, rest) := takeCall id rest
      (acts, (other, calls) :: rest)

/-- Performs one act; `depth` bounds how deep calls nest. -/
def perform : (depth : Nat) → Act E → Registry E → Registry E
  | _, .subscribe name calls, r => r.subscribe name calls
  | _, .unsubscribe name, r => (r.unsubscribe name).1
  | _, .count, r => r.note (.counted r.emitter.listenerCount)
  | 0, .fire _, r => r
  | depth + 1, .fire event, r =>
    let number := r.fires
    let start := { r with fires := number + 1 }.note (.fired number event)
    r.emitter.listeners.foldl (fun r (id, name) =>
      let r := r.note (.called number id name event)
      let (acts, reactions) := takeCall id r.reactions
      acts.foldl (fun r act => perform depth act r) { r with reactions := reactions }) start

mutual

def sizeOfAct : Act E → Nat
  | .subscribe _ calls => sizeOfCalls calls + 1
  | .unsubscribe _ => 1
  | .fire _ => 1
  | .count => 1
termination_by structural act => act

def sizeOfActs : List (Act E) → Nat
  | [] => 0
  | act :: rest => sizeOfAct act + sizeOfActs rest
termination_by structural acts => acts

def sizeOfCalls : List (List (Act E)) → Nat
  | [] => 0
  | acts :: rest => sizeOfActs acts + sizeOfCalls rest
termination_by structural calls => calls

end

/-- The number of acts that are still to be performed by the listeners. Each is performed at most
once, so calls nest no deeper. -/
def pendingActs (r : Registry E) : Nat :=
  r.reactions.foldl (fun acts entry => acts + sizeOfCalls entry.2) 0

def act (r : Registry E) (a : Act E) : Registry E := perform (r.pendingActs + sizeOfAct a) a r

end Registry

end LanguageClient.Emitter
