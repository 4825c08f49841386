import LanguageClient.Settings.Environment

/-! Settings under variables of the environment. What the variables make of settings is said one
setting at a time in `Overridden`. Beside it stands the list of the variables that are set. A path that
is set to nothing is on that list and takes no setting's place, so the list tells what has happened to
the settings only without such paths, or where the setting is empty anyway. -/
namespace LanguageClient

open Environment (executablePathKey loggingEnabledKey loggingPathKey)

inductive SwitchReads (text : String) : Bool → Prop
  | on (word : Text.lowercase (Text.trim text) ∈ ["1", "true", "yes", "on"]) : SwitchReads text true
  | off (word : Text.lowercase (Text.trim text) ∈ ["0", "false", "no", "off", ""]) :
    SwitchReads text false

private theorem readSwitch?_eq_some_iff {text : String} {b : Bool} :
    readSwitch? text = some b ↔ SwitchReads text b := by
  unfold readSwitch?
  generalize word_eq : Text.lowercase (Text.trim text) = word
  constructor
  · intro read
    dsimp only at read
    split at read
    · next on =>
      cases read
      exact .on (word_eq ▸ List.contains_iff_mem.1 on)
    · split at read
      · next off =>
        cases read
        exact .off (word_eq ▸ List.contains_iff_mem.1 off)
      · contradiction
  · -- No word is on both lists.
    rintro (on | off)
    · rw [word_eq] at on
      rw [if_pos (List.contains_iff_mem.2 on)]
    · rw [word_eq] at off
      have notOn : word ∉ ["1", "true", "yes", "on"] := by
        simp only [List.mem_cons, List.not_mem_nil, or_false] at off
        rcases off with rfl | rfl | rfl | rfl | rfl <;> decide
      rw [if_neg (fun on => notOn (List.contains_iff_mem.1 on)), if_pos (List.contains_iff_mem.2 off)]

private theorem readSwitch?_eq_none_iff {text : String} : readSwitch? text = none ↔
    Text.lowercase (Text.trim text) ∉ ["1", "true", "yes", "on", "0", "false", "no", "off", ""] := by
  rw [Option.eq_none_iff_forall_ne_some]
  simp only [ne_eq, readSwitch?_eq_some_iff]
  constructor
  · intro unread known
    rcases List.mem_append.1 (show _ ∈ ["1", "true", "yes", "on"] ++ ["0", "false", "no", "off", ""] from known)
      with on | off
    · exact unread true (.on on)
    · exact unread false (.off off)
  · rintro unknown _ (on | off)
    · exact unknown (List.mem_append_left ["0", "false", "no", "off", ""] on)
    · exact unknown (List.mem_append_right ["1", "true", "yes", "on"] off)

namespace Settings

/-- What a variable makes of a text. One that is set to nothing leaves it. -/
inductive TextOverridden (before : String) : Option String → String → Prop
  | unset : TextOverridden before none before
  | empty : TextOverridden before (some "") before
  | set (value : String) (nonempty : value ≠ "") : TextOverridden before (some value) value

inductive SwitchOverridden (before : Bool) : Option String → Bool → Prop
  | unset : SwitchOverridden before none before
  | set {text : String} {b : Bool} (reads : SwitchReads text b) : SwitchOverridden before (some text) b

structure Overridden (env : Environment) (before after : Settings) : Prop where
  executablePath : TextOverridden before.server.executablePath (env executablePathKey)
    after.server.executablePath
  shutdownTimeout : after.server.shutdownTimeout = before.server.shutdownTimeout
  loggingEnabled : SwitchOverridden before.server.logging.enabled (env loggingEnabledKey)
    after.server.logging.enabled
  loggingPath : TextOverridden before.server.logging.path (env loggingPathKey) after.server.logging.path

private theorem textOverridden_iff {given? : Option String} {before after : String} :
    TextOverridden before given? after ↔ (given?.filter fun value => value ≠ "").getD before = after := by
  constructor
  · rintro (_ | _ | ⟨_, nonempty⟩)
    · rfl
    · rfl
    · rw [Option.filter_some_pos (by simpa using nonempty), Option.getD_some]
  · rintro rfl
    cases given? with
    | none => exact .unset
    | some value =>
      by_cases empty : value = ""
      · subst empty
        exact .empty
      · rw [Option.filter_some_pos (by simpa using empty), Option.getD_some]
        exact .set value empty

theorem withEnvironment_eq_ok_iff {s s' : Settings} {env : Environment} :
    s.withEnvironment env = .ok s' ↔ Overridden env s s' := by
  constructor
  · intro applied
    unfold withEnvironment at applied
    cases switch : env loggingEnabledKey with
    | none =>
      rw [switch] at applied
      cases applied
      exact ⟨textOverridden_iff.2 rfl, rfl, switch ▸ .unset, textOverridden_iff.2 rfl⟩
    | some text =>
      rw [switch] at applied
      dsimp only at applied
      cases read : readSwitch? text with
      | none =>
        rw [read] at applied
        cases applied
      | some b =>
        rw [read] at applied
        cases applied
        exact ⟨textOverridden_iff.2 rfl, rfl, switch ▸ .set (readSwitch?_eq_some_iff.1 read),
          textOverridden_iff.2 rfl⟩
  · obtain ⟨⟨executablePath, shutdownTimeout, enabled, path⟩⟩ := s'
    rintro ⟨executable, timeout, switch, logging⟩
    dsimp only at executable timeout switch logging
    unfold withEnvironment nonEmpty?
    rw [textOverridden_iff.1 executable, textOverridden_iff.1 logging, timeout]
    generalize env loggingEnabledKey = given? at switch
    cases switch with
    | unset => rfl
    | set reads =>
      dsimp only
      rw [readSwitch?_eq_some_iff.2 reads]
      rfl

def MisreadSwitch (env : Environment) : Prop :=
  ∃ text, env loggingEnabledKey = some text ∧
    Text.lowercase (Text.trim text) ∉ ["1", "true", "yes", "on", "0", "false", "no", "off", ""]

theorem withEnvironment_fails_iff {s : Settings} {env : Environment} :
    (∃ e, s.withEnvironment env = .error e) ↔ MisreadSwitch env := by
  unfold withEnvironment MisreadSwitch
  simp only [← readSwitch?_eq_none_iff]
  cases env loggingEnabledKey with
  | none =>
    constructor
    · rintro ⟨e, fails⟩
      cases fails
    · rintro ⟨text, set, -⟩
      cases set
  | some text =>
    dsimp only
    cases read : readSwitch? text with
    | none => exact ⟨fun _ => ⟨text, rfl, read⟩, fun _ => ⟨_, rfl⟩⟩
    | some b =>
      constructor
      · rintro ⟨e, fails⟩
        cases fails
      · rintro ⟨_, set, unread⟩
        cases set
        rw [read] at unread
        cases unread

end Settings

namespace Environment

private theorem mem_keys_of_isPath {key : String} (isPath : key ∈ [executablePathKey, loggingPathKey]) :
    key ∈ keys := by
  simp only [List.mem_cons, List.not_mem_nil, or_false] at isPath
  rcases isPath with rfl | rfl <;> decide

private theorem mem_active_iff {env : Environment} {key value : String} :
    (key, value) ∈ env.active ↔ key ∈ keys ∧ env key = some value := by
  unfold active
  simp only [List.mem_filterMap, Option.map_eq_some_iff, Prod.mk.injEq]
  constructor
  · rintro ⟨key, known, value, set, rfl, rfl⟩
    exact ⟨known, set⟩
  · rintro ⟨known, set⟩
    exact ⟨key, known, value, set, rfl, rfl⟩

/-- The listed variables without the paths that are set to nothing. -/
def applied (env : Environment) : List (String × String) :=
  env.active.filter fun entry => entry.1 = loggingEnabledKey || entry.2 ≠ ""

private theorem mem_applied_iff {env : Environment} {key value : String} :
    (key, value) ∈ env.applied ↔
      (key, value) ∈ env.active ∧ (key = loggingEnabledKey ∨ value ≠ "") := by
  simp [applied]

def only (env : Environment) (listed : List String) : Environment :=
  fun key => if key ∈ listed then env key else none

end Environment

namespace Settings

/-- The list is one of the variables that have made the second settings of the first: each listed path
and switch is found in them, and no variable that is not listed has taken part. -/
structure Tells (env : Environment) (before after : Settings) (listed : List (String × String)) : Prop where
  executablePath : ∀ value, (executablePathKey, value) ∈ listed → after.server.executablePath = value
  loggingPath : ∀ value, (loggingPathKey, value) ∈ listed → after.server.logging.path = value
  loggingEnabled : ∀ text, (loggingEnabledKey, text) ∈ listed → SwitchReads text after.server.logging.enabled
  others : before.withEnvironment (env.only (listed.map Prod.fst)) = .ok after

section
variable {env : Environment} {s s' : Settings}

private theorem TextOverridden.dropped {before after : String} {given? : Option String}
    (overridden : TextOverridden before given? after) (idle : ∀ value, given? = some value → value = "") :
    TextOverridden before none after := by
  cases overridden with
  | unset | empty => exact .unset
  | set _ nonempty => exact absurd (idle _ rfl) nonempty

/-- A listed text is the one that is found, unless it is empty and something was there before. -/
theorem TextOverridden.listed_iff {key before after : String} {listed : List (String × String)}
    (overridden : TextOverridden before (env key) after) (set : ∀ value, (key, value) ∈ listed → env key = some value) :
    (∀ value, (key, value) ∈ listed → after = value) ↔ ((key, "") ∈ listed → before = "") := by
  generalize env key = given? at overridden set
  cases overridden with
  | unset => exact ⟨fun _ inside => absurd (set _ inside) (by simp), fun _ _ inside => absurd (set _ inside) (by simp)⟩
  | empty =>
    refine ⟨fun found => found "", fun found value inside => ?_⟩
    cases set value inside
    exact found inside
  | set _ nonempty =>
    refine ⟨fun _ inside => ?_, fun _ value inside => ?_⟩
    · cases set "" inside
      exact absurd rfl nonempty
    · cases set value inside
      rfl

/-- Variables that are not listed take no part if they are not set, or are paths that are set to
nothing. -/
theorem Overridden.only {listed : List String} (overridden : Overridden env s s')
    (paths : ∀ key ∈ [executablePathKey, loggingPathKey], key ∉ listed → ∀ value, env key = some value → value = "")
    (switch : loggingEnabledKey ∉ listed → env loggingEnabledKey = none) :
    Overridden (env.only listed) s s' := by
  have text {key before after : String} (isPath : key ∈ [executablePathKey, loggingPathKey])
      (whole : TextOverridden before (env key) after) : TextOverridden before (env.only listed key) after := by
    unfold Environment.only
    split
    · exact whole
    · next missing => exact whole.dropped (paths key isPath missing)
  refine ⟨text (by simp) overridden.executablePath, overridden.shutdownTimeout, ?_,
    text (by simp) overridden.loggingPath⟩
  have same : env.only listed loggingEnabledKey = env loggingEnabledKey := by
    unfold Environment.only
    split
    · rfl
    · next missing => exact (switch missing).symm
  exact same ▸ overridden.loggingEnabled

/-- A list of variables that are set, with all those that count, is right but for empty paths. -/
theorem Overridden.tells_iff {listed : List (String × String)} (overridden : Overridden env s s')
    (counted : ∀ entry ∈ env.applied, entry ∈ listed) (set : ∀ entry ∈ listed, entry ∈ env.active) :
    Tells env s s' listed ↔ ((executablePathKey, "") ∈ listed → s.server.executablePath = "") ∧
      ((loggingPathKey, "") ∈ listed → s.server.logging.path = "") := by
  have value (key value : String) (inside : (key, value) ∈ listed) : env key = some value :=
    (Environment.mem_active_iff.1 (set _ inside)).2
  have unlisted {key value : String} (known : key ∈ Environment.keys) (missing : key ∉ listed.map Prod.fst)
      (found : env key = some value) : key ≠ loggingEnabledKey ∧ value = "" := by
    rw [← Decidable.not_not (p := _ ∧ _), Decidable.not_and_iff_not_or_not]
    intro counts
    refine missing (List.mem_map.2 ⟨(key, value), counted _ (Environment.mem_applied_iff.2 ⟨?_, ?_⟩), rfl⟩)
    · exact Environment.mem_active_iff.2 ⟨known, found⟩
    · simpa using counts
  have executable := overridden.executablePath.listed_iff (value executablePathKey)
  have path := overridden.loggingPath.listed_iff (value loggingPathKey)
  constructor
  · exact fun tells => ⟨executable.1 tells.executablePath, path.1 tells.loggingPath⟩
  · rintro ⟨noExecutable, noPath⟩
    refine ⟨executable.2 noExecutable, path.2 noPath, fun text inside => ?_,
      withEnvironment_eq_ok_iff.2 (overridden.only ?_ ?_)⟩
    · have switch := overridden.loggingEnabled
      rw [value _ _ inside] at switch
      cases switch with
      | set reads => exact reads
    · intro key isPath missing value found
      exact (unlisted (Environment.mem_keys_of_isPath isPath) missing found).2
    · intro missing
      cases found : env loggingEnabledKey with
      | none => rfl
      | some text => exact absurd rfl (unlisted (by decide) missing found).1

/-- The list of all variables that are set tells what they have done without its empty paths, and with
them only if the settings were empty there before. -/
theorem active_tells_iff (applied : s.withEnvironment env = .ok s') :
    Tells env s s' env.applied ∧
    (Tells env s s' env.active ↔
      (env executablePathKey = some "" → s.server.executablePath = "") ∧
      (env loggingPathKey = some "" → s.server.logging.path = "")) ∧
    ∀ key value, (key, value) ∈ env.active ↔ (key, value) ∈ env.applied ∨
      key ∈ [executablePathKey, loggingPathKey] ∧ env key = some "" ∧ value = "" := by
  have overridden := withEnvironment_eq_ok_iff.1 applied
  have counted : ∀ entry ∈ env.applied, entry ∈ env.active := fun _ inside => (List.mem_filter.1 inside).1
  have noEmpty (key : String) (isPath : key ≠ loggingEnabledKey) : (key, "") ∉ env.applied := by
    intro inside
    simpa [isPath] using (Environment.mem_applied_iff.1 inside).2
  refine ⟨(overridden.tells_iff (fun _ => id) counted).2 ⟨?_, ?_⟩, ?_, fun key value => ?_⟩
  · exact fun inside => absurd inside (noEmpty _ (by decide))
  · exact fun inside => absurd inside (noEmpty _ (by decide))
  · have present (key : String) (known : key ∈ Environment.keys) : (key, "") ∈ env.active ↔ env key = some "" := by
      simp [Environment.mem_active_iff, known]
    rw [overridden.tells_iff counted (fun _ => id), present _ (by decide), present _ (by decide)]
  · rw [Environment.mem_applied_iff]
    constructor
    · intro listed
      obtain ⟨known, set⟩ := Environment.mem_active_iff.1 listed
      by_cases counts : key = loggingEnabledKey ∨ value ≠ ""
      · exact .inl ⟨listed, counts⟩
      · obtain ⟨isPath, empty⟩ : key ≠ loggingEnabledKey ∧ value = "" := by simpa using counts
        have path : key ∈ [executablePathKey, loggingPathKey] := by
          simpa [Environment.keys, isPath] using known
        exact .inr ⟨path, empty ▸ set, empty⟩
    · rintro (⟨listed, -⟩ | ⟨isPath, set, rfl⟩)
      · exact listed
      · exact Environment.mem_active_iff.2 ⟨Environment.mem_keys_of_isPath isPath, set⟩

end

def mixedVariables : Environment
  | "LEAN4_EXECUTABLE_PATH" => some ""
  | "LEAN4_SERVER_LOGGING_ENABLED" => some " Yes "
  | "LEAN4_SERVER_LOGGING_PATH" => some "/logs"
  | _ => none

theorem active_tells_iff_mixed : ∃ s', Settings.default.withEnvironment mixedVariables = .ok s' ∧
    s' = ⟨"lean", 5, true, "/logs"⟩ ∧ Tells mixedVariables .default s' mixedVariables.applied ∧
    ¬Tells mixedVariables .default s' mixedVariables.active := by
  have applied : Settings.default.withEnvironment mixedVariables = .ok ⟨"lean", 5, true, "/logs"⟩ := by rfl
  obtain ⟨counted, listed, -⟩ := active_tells_iff applied
  exact ⟨_, applied, rfl, counted, fun tells => absurd ((listed.1 tells).1 rfl) (by decide)⟩

/-- A path that is set to nothing is listed, and the settings have another one. -/
theorem emptied_listed : ¬∀ (env : Environment) (s s' : Settings),
    s.withEnvironment env = .ok s' → Tells env s s' env.active := by
  intro always
  have tells := always (fun key => if key = executablePathKey then some "" else none) .default .default rfl
  have same : "lean" = "" := tells.executablePath "" (by decide)
  contradiction

end Settings

end LanguageClient
