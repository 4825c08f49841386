import LanguageClient.Emitter

/-! The order of a registry. Listeners stand in it by their numbers, which only grow, so a number that
is not in use any more stays out of use. -/
namespace LanguageClient.Emitter

variable {L : Type}

/-- The numbers of the listeners grow from each to the next, and the next number is above them all. -/
structure Orderly (e : Emitter L) : Prop where
  increasing : (e.listeners.map Prod.fst).Pairwise (· < ·)
  below : ∀ entry ∈ e.listeners, entry.1 < e.nextId

theorem orderly_empty : (empty : Emitter L).Orderly :=
  ⟨.nil, nofun⟩

theorem Orderly.subscribe {e : Emitter L} (orderly : e.Orderly) (listener : L) :
    (e.subscribe listener).1.Orderly where
  increasing := by
    rw [Emitter.subscribe, List.map_append, List.pairwise_append]
    refine ⟨orderly.increasing, List.pairwise_singleton _ _, ?_⟩
    intro id old new added
    obtain ⟨entry, inside, rfl⟩ := List.mem_map.1 old
    rw [List.mem_singleton.1 added]
    exact orderly.below entry inside
  below entry inside := by
    rcases List.mem_append.1 inside with old | new
    · exact Nat.lt_succ_of_lt (orderly.below entry old)
    · rw [List.mem_singleton.1 new]
      exact Nat.lt_succ_self _

theorem Orderly.unsubscribe {e : Emitter L} (orderly : e.Orderly) (id : ListenerId) :
    (e.unsubscribe id).1.Orderly where
  increasing := orderly.increasing.sublist (List.filter_sublist.map Prod.fst)
  below entry inside := orderly.below entry (List.mem_filter.1 inside).1

/-- Only a listener that is there can be removed. -/
theorem mem_of_unsubscribe {e : Emitter L} {id : ListenerId} (removed : (e.unsubscribe id).2 = true) :
    ∃ listener, (id, listener) ∈ e.listeners := by
  simpa [Emitter.unsubscribe] using removed

end LanguageClient.Emitter
