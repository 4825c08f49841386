import LanguageClient.Proofs.Emitter.Order
import Mathlib.Data.List.Nodup

/-! Who is registered after any calls on a registry. Numbers are handed out in order, so a number belongs to one
listener for good: asking for its removal a second time, or long after, removes nobody else. -/
namespace LanguageClient.Emitter

variable {L : Type}

/-- A call on a registry. -/
inductive Demand (L : Type) where
  | subscribe (listener : L)
  | unsubscribe (id : ListenerId)
  deriving DecidableEq, Repr

/-- What a call comes to: a number is handed out, or a removal is answered with true or with false. -/
inductive Dealing (L : Type) where
  | given (id : ListenerId) (listener : L)
  | removed (id : ListenerId)
  | missed (id : ListenerId)
  deriving DecidableEq, Repr

namespace Dealing

/-- The call that came to this. -/
def demand : Dealing L → Demand L
  | .given _ listener => .subscribe listener
  | .removed id | .missed id => .unsubscribe id

def given? : Dealing L → Option (ListenerId × L)
  | .given id listener => some (id, listener)
  | _ => none

def removed? : Dealing L → Option ListenerId
  | .removed id => some id
  | _ => none

end Dealing

def dealing (e : Emitter L) : Demand L → Dealing L
  | .subscribe listener => .given (e.subscribe listener).2 listener
  | .unsubscribe id => if (e.unsubscribe id).2 then .removed id else .missed id

def obey (e : Emitter L) : Demand L → Emitter L
  | .subscribe listener => (e.subscribe listener).1
  | .unsubscribe id => (e.unsubscribe id).1

/-- The registry after calls, one after the other. -/
def obeyAll (e : Emitter L) (demands : List (Demand L)) : Emitter L := demands.foldl obey e

/-- What calls come to, one after the other. -/
def dealings (e : Emitter L) : List (Demand L) → List (Dealing L)
  | [] => []
  | demand :: rest => e.dealing demand :: (e.obey demand).dealings rest

def handedOut (told : List (Dealing L)) : List (ListenerId × L) := told.filterMap Dealing.given?

def removals (told : List (Dealing L)) : List ListenerId := told.filterMap Dealing.removed?

private theorem handedOut_concat (told : List (Dealing L)) (last : Dealing L) :
    handedOut (told ++ [last]) = handedOut told ++ last.given?.toList := by
  cases last <;> simp [handedOut, Dealing.given?]

private theorem removals_concat (told : List (Dealing L)) (last : Dealing L) :
    removals (told ++ [last]) = removals told ++ last.removed?.toList := by
  cases last <;> simp [removals, Dealing.removed?]

private theorem demand_dealing (e : Emitter L) (demand : Demand L) : (e.dealing demand).demand = demand := by
  cases demand with
  | subscribe listener => rfl
  | unsubscribe id =>
    change (if (e.unsubscribe id).2 then Dealing.removed id else .missed id).demand = _
    split <;> rfl

private theorem map_demand_dealings (e : Emitter L) (demands : List (Demand L)) :
    (e.dealings demands).map Dealing.demand = demands := by
  induction demands generalizing e with
  | nil => rfl
  | cons demand rest ih => rw [dealings, List.map_cons, demand_dealing, ih]

variable {e : Emitter L} {id : ListenerId} {told : List (Dealing L)}

private theorem unsubscribe_eq_true_iff : (e.unsubscribe id).2 = true ↔ id ∈ e.listeners.map Prod.fst := by
  simp [Emitter.unsubscribe]

/-- A removal that is answered with false changes nothing. -/
theorem unsubscribe_of_missed (missed : (e.unsubscribe id).2 = false) : (e.unsubscribe id).1 = e := by
  have kept : e.listeners.filter (fun entry => entry.1 ≠ id) = e.listeners := by
    refine List.filter_eq_self.2 fun entry inside => decide_eq_true fun same => ?_
    have present : id ∈ e.listeners.map Prod.fst := List.mem_map.2 ⟨entry, inside, same⟩
    rw [unsubscribe_eq_true_iff.2 present] at missed
    contradiction
  rw [Emitter.unsubscribe, kept]

/-- A removal that is answered with true takes out one listener and leaves the others in their order. -/
theorem Orderly.unsubscribe_of_removed (orderly : e.Orderly) (removed : (e.unsubscribe id).2 = true) :
    ∃ before listener after, e.listeners = before ++ (id, listener) :: after ∧
      (e.unsubscribe id).1 = ⟨e.nextId, before ++ after⟩ := by
  obtain ⟨listener, inside⟩ := mem_of_unsubscribe removed
  obtain ⟨before, after, split⟩ := List.append_of_mem inside
  have increasing := orderly.increasing
  rw [split, List.map_append, List.map_cons, List.pairwise_append, List.pairwise_cons] at increasing
  obtain ⟨-, ⟨later, -⟩, earlier⟩ := increasing
  have front : before.filter (fun entry => entry.1 ≠ id) = before := by
    refine List.filter_eq_self.2 fun entry old => decide_eq_true (Nat.ne_of_lt ?_)
    exact earlier _ (List.mem_map_of_mem old) id List.mem_cons_self
  have back : after.filter (fun entry => entry.1 ≠ id) = after := by
    refine List.filter_eq_self.2 fun entry new => decide_eq_true (Nat.ne_of_gt ?_)
    exact later _ (List.mem_map_of_mem new)
  refine ⟨before, listener, after, split, ?_⟩
  rw [Emitter.unsubscribe, split, List.filter_append, front, List.filter_cons_of_neg (by simp), back]

/-- The registry is what its past makes of it: numbers were handed out in order, and whoever was not removed is
registered. -/
structure Listed (told : List (Dealing L)) (e : Emitter L) : Prop extends e.Orderly where
  next : e.nextId = (handedOut told).length + 1
  numbers : (handedOut told).map Prod.fst = List.range' 1 (handedOut told).length
  known : ∀ id ∈ removals told, id < e.nextId
  present : e.listeners = (handedOut told).filter fun entry => entry.1 ∉ removals told
  count : e.listenerCount + (removals told).length = (handedOut told).length

namespace Listed

private theorem empty : Listed [] (Emitter.empty : Emitter L) where
  toOrderly := orderly_empty
  next := rfl
  numbers := rfl
  known := nofun
  present := rfl
  count := rfl

private theorem subscribe (listed : Listed told e) (listener : L) :
    Listed (told ++ [.given e.nextId listener]) (e.subscribe listener).1 := by
  have handed : handedOut (told ++ [.given e.nextId listener]) = handedOut told ++ [(e.nextId, listener)] :=
    handedOut_concat told _
  have removed : removals (told ++ [.given e.nextId listener]) = removals told :=
    (removals_concat told _).trans (List.append_nil _)
  have new : e.nextId ∉ removals told := fun inside => Nat.lt_irrefl _ (listed.known _ inside)
  constructor
  · exact listed.toOrderly.subscribe listener
  · rw [handed, List.length_append, List.length_singleton, ← listed.next]
    rfl
  · rw [handed, List.map_append, List.length_append, listed.numbers, List.length_singleton, List.range'_concat,
      listed.next]
    simp [Nat.add_comm]
  · rw [removed]
    exact fun id inside => Nat.lt_succ_of_lt (listed.known id inside)
  · rw [handed, removed, List.filter_append, ← listed.present, List.filter_cons_of_pos (by simpa using new)]
    rfl
  · rw [handed, removed, List.length_append, ← listed.count, listenerCount, Emitter.subscribe, List.length_append]
    exact Nat.add_right_comm _ _ _

/-- A listener is registered just if its number was handed out and it was not removed. -/
theorem removes_iff (listed : Listed told e) :
    (e.unsubscribe id).2 = true ↔ id ∈ (handedOut told).map Prod.fst ∧ id ∉ removals told := by
  rw [unsubscribe_eq_true_iff, listed.present, List.mem_map, List.mem_map]
  constructor
  · rintro ⟨entry, inside, rfl⟩
    obtain ⟨handed, stays⟩ := List.mem_filter.1 inside
    exact ⟨⟨entry, handed, rfl⟩, of_decide_eq_true stays⟩
  · rintro ⟨⟨entry, handed, rfl⟩, stays⟩
    exact ⟨entry, List.mem_filter.2 ⟨handed, decide_eq_true stays⟩, rfl⟩

private theorem removed (listed : Listed told e) (removed : (e.unsubscribe id).2 = true) :
    Listed (told ++ [.removed id]) (e.unsubscribe id).1 := by
  have handed : handedOut (told ++ [.removed id]) = handedOut told :=
    (handedOut_concat told _).trans (List.append_nil _)
  have removals_eq : removals (told ++ [.removed id]) = removals told ++ [id] := removals_concat told _
  obtain ⟨before, listener, after, split, left⟩ := listed.toOrderly.unsubscribe_of_removed removed
  have below : id < e.nextId := listed.below (id, listener) (by simp [split])
  have same : (e.unsubscribe id).1.nextId = e.nextId := rfl
  constructor
  · exact listed.toOrderly.unsubscribe id
  · rw [handed, same, listed.next]
  · rw [handed, listed.numbers]
  · rw [removals_eq, same]
    intro other inside
    rcases List.mem_append.1 inside with old | new
    · exact listed.known other old
    · rwa [List.mem_singleton.1 new]
  · have filtered : (e.unsubscribe id).1.listeners = e.listeners.filter fun entry => entry.1 ≠ id := rfl
    rw [filtered, listed.present, List.filter_filter, handed, removals_eq]
    refine List.filter_congr fun entry _ => ?_
    simp [and_comm]
  · rw [handed, removals_eq, ← listed.count, listenerCount, listenerCount, left, split]
    simp only [List.length_append, List.length_cons, List.length_nil]
    omega

private theorem missed (listed : Listed told e) (missed : (e.unsubscribe id).2 = false) :
    Listed (told ++ [.missed id]) (e.unsubscribe id).1 := by
  have handed : handedOut (told ++ [.missed id]) = handedOut told :=
    (handedOut_concat told _).trans (List.append_nil _)
  have removals_eq : removals (told ++ [.missed id]) = removals told :=
    (removals_concat told _).trans (List.append_nil _)
  rw [unsubscribe_of_missed missed]
  constructor
  · exact listed.toOrderly
  · rw [handed, listed.next]
  · rw [handed, listed.numbers]
  · rw [removals_eq]
    exact listed.known
  · rw [handed, removals_eq, listed.present]
  · rw [handed, removals_eq, listed.count]

private theorem obey (listed : Listed told e) (demand : Demand L) :
    Listed (told ++ [e.dealing demand]) (e.obey demand) := by
  cases demand with
  | subscribe listener => exact listed.subscribe listener
  | unsubscribe id =>
    cases answer : (e.unsubscribe id).2 with
    | true =>
      rw [dealing, answer]
      exact listed.removed answer
    | false =>
      rw [dealing, answer]
      exact listed.missed answer

private theorem obeyAll (listed : Listed told e) (demands : List (Demand L)) :
    Listed (told ++ e.dealings demands) (e.obeyAll demands) := by
  induction demands generalizing e told with
  | nil =>
    rw [dealings, List.append_nil]
    exact listed
  | cons demand rest ih =>
    have later := ih (listed.obey demand)
    rw [List.append_assoc] at later
    exact later

private theorem nodup_handedOut (listed : Listed told e) : ((handedOut told).map Prod.fst).Nodup := by
  rw [listed.numbers]
  exact List.nodup_range'

/-- As long as fewer numbers were handed out than there are words, the words are distinct. -/
theorem nodup_words (listed : Listed told e) (few : e.nextId ≤ UInt64.size) :
    ((handedOut told).map fun entry => UInt64.ofNat entry.1).Nodup := by
  have words : (handedOut told).map (fun entry => UInt64.ofNat entry.1) =
      (List.range' 1 (handedOut told).length).map UInt64.ofNat := by
    rw [← listed.numbers, List.map_map]
    rfl
  have numbered : (List.range' 1 (handedOut told).length).Nodup := List.nodup_range'
  rw [words]
  refine numbered.map_on fun n inside m inside' same => ?_
  have within : ∀ k ∈ List.range' 1 (handedOut told).length, k < UInt64.size := by
    intro k inside
    have below : k < (handedOut told).length + 1 := by
      rw [Nat.add_comm]
      exact (List.mem_range'_1.1 inside).2
    exact Nat.lt_of_lt_of_le below (listed.next ▸ few)
  have equal := congrArg UInt64.toNat same
  rwa [UInt64.toNat_ofNat', UInt64.toNat_ofNat', Nat.mod_eq_of_lt (within n inside),
    Nat.mod_eq_of_lt (within m inside')] at equal

end Listed

/-- A registry after calls that came to `told`. -/
structure Enrolled (told : List (Dealing L)) (e : Emitter L) : Prop where
  /-- The numbers of the listeners grow in the order of registration, and the next number is above them all. -/
  increasing : (e.listeners.map Prod.fst).Pairwise (· < ·) ∧ ∀ entry ∈ e.listeners, entry.1 < e.nextId
  /-- The numbers that were handed out are those from one on, in order. -/
  numbers : (handedOut told).map Prod.fst = List.range' 1 (handedOut told).length ∧
    e.nextId = (handedOut told).length + 1
  /-- No number is handed out twice, nor a word of 64 bits in its place while there are new ones. -/
  distinct : ((handedOut told).map Prod.fst).Nodup ∧
    (e.nextId ≤ UInt64.size → ((handedOut told).map fun entry => UInt64.ofNat entry.1).Nodup)
  /-- Whoever has been given a number and was not removed is registered, in the order of registration. -/
  registered : e.listeners = (handedOut told).filter fun entry => entry.1 ∉ removals told
  /-- There are as many listeners as there were subscriptions that were not undone. -/
  count : e.listenerCount + (removals told).length = (handedOut told).length
  /-- A removal is answered with true just if the number was handed out and its listener was not removed before. -/
  answer : ∀ id, (e.unsubscribe id).2 = true ↔ id ∈ (handedOut told).map Prod.fst ∧ id ∉ removals told
  /-- Then the listener that was given the number goes, and the others stay in their order. -/
  alone : ∀ id, (e.unsubscribe id).2 = true → ∃ before listener after, (id, listener) ∈ handedOut told ∧
    e.listeners = before ++ (id, listener) :: after ∧ (e.unsubscribe id).1 = ⟨e.nextId, before ++ after⟩
  /-- Otherwise nothing changes. -/
  stale : ∀ id, (e.unsubscribe id).2 = false → (e.unsubscribe id).1 = e

/-- Whatever calls are made on a registry, its listeners are those that its past makes of it. Every call comes to
something: a subscription to a number, a removal to an answer. -/
theorem obeyAll_enrolled (demands : List (Demand L)) :
    ((empty : Emitter L).dealings demands).map Dealing.demand = demands ∧
    Enrolled ((empty : Emitter L).dealings demands) ((empty : Emitter L).obeyAll demands) := by
  have listed : Listed ((empty : Emitter L).dealings demands) ((empty : Emitter L).obeyAll demands) :=
    Listed.empty.obeyAll demands
  refine ⟨map_demand_dealings empty demands, ?_⟩
  exact {
    increasing := ⟨listed.increasing, listed.below⟩
    numbers := ⟨listed.numbers, listed.next⟩
    distinct := ⟨listed.nodup_handedOut, listed.nodup_words⟩
    registered := listed.present
    count := listed.count
    answer := fun id => listed.removes_iff
    alone := by
      intro id removed
      obtain ⟨before, listener, after, split, left⟩ := listed.toOrderly.unsubscribe_of_removed removed
      have inside : (id, listener) ∈ ((empty : Emitter L).obeyAll demands).listeners := by simp [split]
      rw [listed.present] at inside
      exact ⟨before, listener, after, (List.mem_filter.1 inside).1, split, left⟩
    stale := fun id => unsubscribe_of_missed }

/-- A listener leaves, its number is used again and again, and one that was never given, while others come. -/
example : (empty : Emitter String).dealings [.subscribe "a", .subscribe "b", .unsubscribe 1, .subscribe "c",
      .unsubscribe 1, .unsubscribe 4, .unsubscribe 3] =
    [.given 1 "a", .given 2 "b", .removed 1, .given 3 "c", .missed 1, .missed 4, .removed 3] := by
  decide

end LanguageClient.Emitter
