import LanguageClient.Report
import LanguageClient.Proofs.Json.Grammar
import LanguageClient.Proofs.Table

/-! The report of a result. What is printed is one JSON object, whatever the result is, and what it says of
the result stands under `success`, `data` and `error` or under the names that the payload has itself. -/
namespace LanguageClient.Report

open Json

/-- A report is a line break behind the text of one object. -/
theorem isPadded_text (shown : Except String Json) : IsPadded (envelope shown) (text shown).toList := by
  have lineBreak : IsBlank ['\n'] := fun c inside => List.mem_singleton.1 inside ▸ rfl
  have written := IsPadded.mk isBlank_nil (isText_prettyAt (envelope shown) 0) lineBreak
  rw [text, pretty, String.toList_append]
  simpa using written

variable {ε α : Type} {encode : α → Except String Json} {message : ε → String}

/-- What an object tells of a result. The members of a payload keep their values, and so a payload with a
member `success` of its own speaks for itself. -/
inductive Tells (encode : α → Except String Json) (message : ε → String) : Except ε α → Table Json → Prop
  | failed {e : ε} {members : Table Json} (success : members.get? "success" = some (.bool false))
      (error : members.get? "error" = some (.string (message e))) : Tells encode message (.error e) members
  | unencoded {a : α} {reason : String} {members : Table Json} (unfit : encode a = .error reason)
      (success : members.get? "success" = some (.bool false))
      (error : members.get? "error" = some (.string ("Failed to serialize output: " ++ reason))) :
      Tells encode message (.ok a) members
  | flattened {a : α} {fields members : Table Json} (encoded : encode a = .ok (.object fields))
      (kept : ∀ key value, fields.get? key = some value → members.get? key = some value)
      (success : fields.get? "success" = none → members.get? "success" = some (.bool true)) :
      Tells encode message (.ok a) members
  | wrapped {a : α} {value : Json} {members : Table Json} (encoded : encode a = .ok value)
      (noObject : ∀ fields, value ≠ .object fields) (success : members.get? "success" = some (.bool true))
      (data : members.get? "data" = some value) : Tells encode message (.ok a) members

private theorem get?_ofList_pair {first second : String} (a b : Json) (different : first ≠ second) :
    Table.get? (Table.ofList [(first, a), (second, b)]) first = some a ∧
      Table.get? (Table.ofList [(first, a), (second, b)]) second = some b := by
  have once : (Table.keys [(first, a), (second, b)]).Nodup := by simp [Table.keys, different]
  rw [Table.get?_ofList once, Table.get?_ofList once]
  simp [Table.get?, different]

private theorem envelope_of_noObject {value : Json} (noObject : ∀ fields, value ≠ .object fields) :
    envelope (.ok value) = .ofMembers [("success", .bool true), ("data", value)] := by
  cases value with
  | object fields => exact absurd rfl (noObject fields)
  | _ => rfl

private theorem envelope_tells {result : Except ε α} (distinct : ∀ a fields, result = .ok a →
    encode a = .ok (.object fields) → (Table.keys fields).Nodup) :
    ∃ members : Table Json, members.Sorted ∧ envelope (outcome encode message result) = .object members ∧
      Tells encode message result members := by
  cases result with
  | error e =>
    obtain ⟨success, error⟩ := get?_ofList_pair (.bool false) (.string (message e))
      (by decide : "success" ≠ "error")
    exact ⟨_, Table.sorted_ofList _, rfl, .failed success error⟩
  | ok a =>
    cases encoded : encode a with
    | error reason =>
      obtain ⟨success, error⟩ := get?_ofList_pair (.bool false)
        (.string ("Failed to serialize output: " ++ reason)) (by decide : "success" ≠ "error")
      exact ⟨_, Table.sorted_ofList _, by rw [outcome, encoded]; rfl, .unencoded encoded success error⟩
    | ok value =>
      rw [outcome, encoded]
      by_cases object : ∃ fields, value = .object fields
      · -- The fields are put on top of the outcome, so what they hold counts.
        obtain ⟨fields, rfl⟩ := object
        have put := Table.get?_extend [("success", Json.bool true)] (distinct a fields rfl encoded)
        refine ⟨_, Table.Sorted.extend (List.pairwise_singleton _ _) fields, rfl, .flattened encoded ?_ ?_⟩
        · intro key value inside
          rw [put, inside, Option.some_or]
        · intro absent
          rw [put, absent, Option.none_or]
          rfl
      · have noObject := not_exists.1 object
        obtain ⟨success, data⟩ := get?_ofList_pair (.bool true) value (by decide : "success" ≠ "data")
        exact ⟨_, Table.sorted_ofList _, envelope_of_noObject noObject, .wrapped encoded noObject success data⟩

/-- The report of a result is one JSON object, and it tells of the result. -/
theorem text_tells {result : Except ε α} (distinct : ∀ a fields, result = .ok a →
    encode a = .ok (.object fields) → (Table.keys fields).Nodup) :
    ∃ members : Table Json, members.Sorted ∧ envelope (outcome encode message result) = .object members ∧
      IsPadded (.object members) (text (outcome encode message result)).toList ∧
      Tells encode message result members := by
  obtain ⟨members, sorted, same, tells⟩ := @envelope_tells _ _ _ message _ distinct
  exact ⟨members, sorted, same, same ▸ isPadded_text _, tells⟩

def halfDone : Except String Json :=
  .ok (.object [("done", .number (.double ⟨0x3FE0000000000000⟩)), ("success", .bool false)])

theorem text_tells_halfDone : ∃ members : Table Json, members.Sorted ∧
    envelope (outcome .ok id halfDone) = .object members ∧
    IsPadded (.object members) (text (outcome .ok id halfDone)).toList ∧ Tells .ok id halfDone members :=
  text_tells fun _ _ shown encoded => by
    cases shown
    cases encoded
    decide

/-- A payload that says itself that it is no success. -/
def selfJudged : Json := .object [("success", .bool false)]

/-- An object cannot keep the member of such a payload and tell of a success too, and what cannot be encoded
is not told as a success. -/
theorem ok_not_told_as_success :
    text (outcome .ok id (.ok selfJudged : Except String Json)) =
      "\x7b\n  \"success\": false\n\x7d\n" ∧
    text (outcome (fun _ => .error "no key") id (.ok () : Except String Unit)) =
      "\x7b\n  \"error\": \"Failed to serialize output: no key\",\n  \"success\": false\n\x7d\n" ∧
    ¬∃ members : Table Json,
      IsPadded (.object members) (text (outcome .ok id (.ok selfJudged : Except String Json))).toList ∧
      (members.get? "success" = some (.bool true) ↔ (Except.ok selfJudged : Except String Json).isOk = true) ∧
      ∀ fields, selfJudged = .object fields →
        ∀ key value, Table.get? fields key = some value → members.get? key = some value := by
  refine ⟨by decide, by decide, fun ⟨members, _, success, kept⟩ => ?_⟩
  have own := kept _ rfl "success" (.bool false) (by decide)
  rw [success.2 rfl] at own
  contradiction

end LanguageClient.Report
