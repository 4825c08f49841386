/-!
Registries of listeners. A listener is known by the number it was given when it subscribed;
numbers are given in order and never twice. Listeners hear an event in the order in which they
subscribed.
-/
namespace LanguageClient

/-- The number of a listener. It is not bounded here: fewer than 2^64 are taken to be given. -/
abbrev ListenerId := Nat

structure Emitter (L : Type) where
  nextId : ListenerId
  listeners : List (ListenerId × L)
  deriving DecidableEq, Repr

namespace Emitter

variable {L : Type}

def empty : Emitter L := ⟨1, []⟩

def subscribe (e : Emitter L) (listener : L) : Emitter L × ListenerId :=
  (⟨e.nextId + 1, e.listeners ++ [(e.nextId, listener)]⟩, e.nextId)

def unsubscribe (e : Emitter L) (id : ListenerId) : Emitter L × Bool :=
  let kept := e.listeners.filter fun entry => entry.1 ≠ id
  (⟨e.nextId, kept⟩, kept.length ≠ e.listeners.length)

def listenerCount (e : Emitter L) : Nat := e.listeners.length

def audience (e : Emitter L) : List L := e.listeners.map Prod.snd

end Emitter

end LanguageClient
