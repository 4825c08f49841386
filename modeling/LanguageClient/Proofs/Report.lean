import LanguageClient.Program.Commands
import LanguageClient.Proofs.Json.Indented

/-! Reports, read back. A report is one JSON object, and its member `success` says whether there is
anything to show, because no command shows a table with a member of that name. -/
namespace LanguageClient

private theorem Table.mem_extend {α : Type} {t more : Table α} {entry : String × α}
    (inside : entry ∈ t.extend more) :
    entry ∈ t ∨ entry ∈ more := by
  induction more generalizing t with
  | nil => exact .inl inside
  | cons first rest ih =>
    rcases ih inside with before | later
    · exact (Table.mem_insert before).elim (fun same => .inr (same ▸ List.mem_cons_self)) .inl
    · exact .inr (List.mem_cons_of_mem _ later)

private theorem Table.mem_ofList {α : Type} {entries : List (String × α)} {entry : String × α}
    (inside : entry ∈ Table.ofList entries) : entry ∈ entries :=
  (Table.mem_extend inside).resolve_left List.not_mem_nil

namespace Json

/-- A text keeps the value as it is: it holds no double, its members stand in order, and its brackets
nest at most `depth` deep. -/
structure Faithful (depth : Nat) (j : Json) : Prop where
  exact : j.isExact = true
  shallow : j.nesting ≤ depth
  ordered : j.IsOrdered

variable {depth : Nat}

private theorem Faithful.parse?_pretty {j : Json} (faithful : Faithful messageDepth j) :
    parse? (j.pretty ++ "\n") = some j := by
  rw [Json.parse?_pretty faithful.exact faithful.shallow, faithful.ordered.ordered_eq]

private theorem Faithful.mono {more : Nat} {j : Json} (faithful : Faithful depth j) (enough : depth ≤ more) :
    Faithful more j :=
  ⟨faithful.exact, Nat.le_trans faithful.shallow enough, faithful.ordered⟩

private theorem faithful_null : Faithful depth .null := ⟨rfl, Nat.zero_le _, trivial⟩

theorem faithful_bool (b : Bool) : Faithful depth (.bool b) := ⟨rfl, Nat.zero_le _, trivial⟩

theorem faithful_string (s : String) : Faithful depth (.string s) := ⟨rfl, Nat.zero_le _, trivial⟩

private theorem faithful_whole (n : Whole) : Faithful depth (whole n) := ⟨rfl, Nat.zero_le _, trivial⟩

private theorem faithful_array {items : List Json} (each : ∀ j ∈ items, Faithful depth j) :
    Faithful (depth + 1) (.array items) := by
  suffices all : areExact items = true ∧ nestingOfItems items ≤ depth ∧ AreOrdered items from
    ⟨all.1, Nat.succ_le_succ all.2.1, all.2.2⟩
  induction items with
  | nil => exact ⟨rfl, Nat.zero_le _, trivial⟩
  | cons j rest ih =>
    obtain ⟨first, others⟩ := List.forall_mem_cons.1 each
    obtain ⟨exact, shallow, ordered⟩ := ih others
    exact ⟨Bool.and_eq_true_iff.2 ⟨first.exact, exact⟩, Nat.max_le.2 ⟨first.shallow, shallow⟩,
      first.ordered, ordered⟩

private theorem faithful_object {members : Table Json} (sorted : members.Sorted)
    (each : ∀ member ∈ members, Faithful depth member.2) : Faithful (depth + 1) (.object members) := by
  suffices all : haveExact members = true ∧ nestingOfMembers members ≤ depth ∧ HaveOrdered members from
    ⟨all.1, Nat.succ_le_succ all.2.1, sorted, all.2.2⟩
  clear sorted
  induction members with
  | nil => exact ⟨rfl, Nat.zero_le _, trivial⟩
  | cons member rest ih =>
    obtain ⟨first, others⟩ := List.forall_mem_cons.1 each
    obtain ⟨exact, shallow, ordered⟩ := ih others
    exact ⟨Bool.and_eq_true_iff.2 ⟨first.exact, exact⟩, Nat.max_le.2 ⟨first.shallow, shallow⟩,
      first.ordered, ordered⟩

theorem faithful_ofMembers {members : List (String × Json)}
    (each : ∀ member ∈ members, Faithful depth member.2) : Faithful (depth + 1) (ofMembers members) :=
  faithful_object (Table.sorted_ofList members) fun member inside => each member (Table.mem_ofList inside)

private theorem faithful_ofOption {α : Type} {encode : α → Json} (each : ∀ a, Faithful depth (encode a))
    (a : Option α) :
    Faithful depth (ofOption encode a) := by
  cases a with
  | none => exact faithful_null
  | some a => exact each a

private theorem faithful_memberIfSome {α : Type} {key : String} {encode : α → Json}
    (each : ∀ a, Faithful depth (encode a)) (a : Option α) :
    ∀ member ∈ memberIfSome key encode a, Faithful depth member.2 := by
  cases a with
  | none => exact fun _ inside => absurd inside List.not_mem_nil
  | some a => exact List.forall_mem_singleton.2 (each a)

end Json

namespace Report
open Json

/-- What a command has to show is a table that is read back from its text, with no member called
`success`. -/
def Presentable : Except String Json → Prop
  | .error _ => True
  | .ok payload => ∃ members, payload = .ofMembers members ∧ "success" ∉ Table.keys members ∧
      ∀ member ∈ members, Faithful 3 member.2

/-- A report is one object, which says whether there is anything to show. -/
theorem parse?_text {outcome : Except String Json} (presentable : Presentable outcome) :
    ∃ members, parse? (text outcome) = some (.object members) ∧
      Table.get? members "success" = some (.bool outcome.isOk) := by
  cases outcome with
  | error reason =>
    refine ⟨_, Faithful.parse?_pretty (faithful_ofMembers ?_), Table.get?_ofList (by simp [Table.keys]) _⟩
    simp [faithful_bool, faithful_string]
  | ok payload =>
    obtain ⟨members, rfl, unnamed, each⟩ := presentable
    have sorted : Table.Sorted [("success", Json.bool true)] := List.pairwise_singleton _ _
    refine ⟨Table.extend [("success", .bool true)] (Table.ofList members),
      Faithful.parse?_pretty (faithful_object (sorted.extend _) fun member inside => ?_), ?_⟩
    · rcases Table.mem_extend inside with own | shown
      · rw [List.mem_singleton.1 own]
        exact faithful_bool true
      · exact (each member (Table.mem_ofList shown)).mono (by decide)
    · have unnamed : "success" ∉ Table.keys (Table.ofList members) := fun inside => by
        obtain ⟨member, shown, named⟩ := List.mem_map.1 inside
        exact unnamed (List.mem_map.2 ⟨member, Table.mem_ofList shown, named⟩)
      rw [Table.get?_extend _ (Table.sorted_ofList members).nodup_keys, Table.get?_eq_none_of_notMem unnamed]
      rfl

theorem success_eq {outcome : Except String Json} {members : List (String × Json)} {success : Bool}
    (presentable : Presentable outcome) (read : parse? (text outcome) = some (.object members))
    (tells : Table.get? members "success" = some (.bool success)) : success = outcome.isOk := by
  obtain ⟨others, readAgain, tellsAgain⟩ := parse?_text presentable
  rw [readAgain] at read
  cases read
  rw [tellsAgain] at tells
  cases tells
  rfl

theorem presentable_ofMembers {members : List (String × Json)} (unnamed : "success" ∉ Table.keys members)
    (each : ∀ member ∈ members, Faithful 3 member.2) : Presentable (.ok (.ofMembers members)) :=
  ⟨members, rfl, unnamed, each⟩

theorem presentable_goal (r : FileGoal) : Presentable (.ok r.toJson) := by
  have goal (g : PlainGoal) : Faithful 3 g.toJson := by
    refine faithful_ofMembers (List.forall_mem_append.2 ⟨List.forall_mem_singleton.2 (faithful_string _), ?_⟩)
    refine faithful_memberIfSome (fun texts => faithful_array ?_) g.goals
    simp [faithful_string]
  refine presentable_ofMembers (by simp [Table.keys]) ?_
  simp [faithful_string, faithful_whole, faithful_ofOption goal]

private theorem faithful_shownDiagnostic (d : ShownDiagnostic) : Faithful 1 d.toJson := by
  refine faithful_ofMembers (List.forall_mem_append.2 ⟨?_, faithful_memberIfSome faithful_string d.source⟩)
  simp [faithful_string, faithful_whole]

theorem presentable_diagnostics (r : FileDiagnostics) :
    Presentable (.ok r.toJson) ∧ Presentable (.ok r.refreshed) := by
  have each : ∀ member ∈ r.members, Faithful 3 member.2 := by
    have shown : Faithful 3 (.array (r.diagnostics.map ShownDiagnostic.toJson)) := by
      refine Faithful.mono (faithful_array (List.forall_mem_map.2 fun d _ => ?_)) (by decide : 1 + 1 ≤ 3)
      exact faithful_shownDiagnostic d
    simp [FileDiagnostics.members, faithful_string, Json.ofNat, faithful_whole, shown]
  refine ⟨presentable_ofMembers (by simp [Table.keys, FileDiagnostics.members]) each,
    presentable_ofMembers (by simp [Table.keys, FileDiagnostics.members]) ?_⟩
  exact List.forall_mem_cons.2 ⟨faithful_bool true, each⟩

private theorem faithful_settings (settings : Settings) : Faithful 3 settings.toJson := by
  have logging : Faithful 1 settings.server.logging.toJson := faithful_ofMembers (by
    simp [faithful_bool, faithful_string])
  have server : Faithful 2 settings.server.toJson := faithful_ofMembers (by
    simp [faithful_string, faithful_whole, logging])
  exact faithful_ofMembers (List.forall_mem_singleton.2 server)

theorem presentable_settings (level : String) (settings : Settings) (overrides : List (String × String)) :
    Presentable (.ok (Command.settingsReport level settings overrides)) := by
  refine presentable_ofMembers ?_ (List.forall_mem_append.2 ⟨?_, ?_⟩)
  · by_cases none : overrides.isEmpty = true <;> simp [Table.keys, none]
  · simp [faithful_string, faithful_settings, faithful_ofOption faithful_string]
  · split
    · exact fun _ inside => absurd inside List.not_mem_nil
    · refine List.forall_mem_singleton.2 ((faithful_ofMembers ?_).mono (by decide : 1 ≤ 3))
      exact List.forall_mem_map.2 fun entry _ => faithful_string entry.2

theorem presentable_setUp (s : Surroundings) (toGlobal : Bool) (path : String) :
    Presentable (.ok (Command.initReport s toGlobal path)) :=
  presentable_ofMembers (by simp [Table.keys]) (by simp [faithful_string])

end Report
end LanguageClient
