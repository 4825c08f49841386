import LanguageClient.Proofs.Message

/-! Which values are messages, and of which kind. The keys of a value tell the kind, and the members that the
kind has must then be of the right shape; a value of no kind, or with a member of another shape, is refused.
Members that the kind does not have make no difference, not even to the way in which a value is refused. -/
namespace LanguageClient

open Json (Record)

inductive Json.IsId : Json → Prop
  | text (s : String) : IsId (.string s)
  | number (n : Json.Whole) (lower : 0 ≤ n.val) (upper : n.val < UInt64.size) : IsId (.whole n)

private theorem Json.Decoder.uint64_isOk_iff {j : Json} :
    (∃ n, uint64 j = .ok n) ↔ ∃ m : Whole, j = .whole m ∧ 0 ≤ m.val ∧ m.val < UInt64.size := by
  have size : (UInt64.size : Int) = 0xFFFFFFFFFFFFFFFF + 1 := rfl
  simp only [uint64, map_eq_ok_iff, bounded_eq_ok_iff]
  constructor
  · rintro ⟨_, _, ⟨m, rfl, lower, upper, rfl⟩, rfl⟩
    exact ⟨m, rfl, lower, by omega⟩
  · rintro ⟨m, rfl, lower, upper⟩
    exact ⟨_, _, ⟨m, rfl, lower, by omega, rfl⟩, rfl⟩

private theorem RequestId.decode_isOk_iff {j : Json} : (∃ id, decode j = .ok id) ↔ j.IsId := by
  constructor
  · rintro ⟨id, read⟩
    unfold decode at read
    split at read
    · exact .text _
    · split at read
      · next n number =>
        obtain ⟨m, rfl, lower, upper⟩ := Json.Decoder.uint64_isOk_iff.1 ⟨n, number⟩
        exact .number m lower upper
      · contradiction
  · intro isId
    cases isId with
    | text s => exact ⟨.string s, rfl⟩
    | number m lower upper =>
      obtain ⟨n, number⟩ := Json.Decoder.uint64_isOk_iff.2 ⟨m, rfl, lower, upper⟩
      refine ⟨.number n, ?_⟩
      simp only [decode, Json.whole] at number ⊢
      rw [number]

private theorem Json.eq_object_of_get? {v j : Json} {key : String} (found : v.get? key = some j) :
    ∃ t, v = .object t := by
  cases v with
  | object t => exact ⟨t, rfl⟩
  | null | bool | number | string | array => contradiction

/-- The value is an object with an id, a method and a version. -/
structure Json.IsRequest (v : Json) : Prop where
  jsonrpc : ∃ s, v.get? "jsonrpc" = some (.string s)
  id : ∃ j, v.get? "id" = some j ∧ j.IsId
  method : ∃ s, v.get? "method" = some (.string s)

/-- The value is an object with an id, which may be null, and a version, without a method, and its error,
if it has one, is an error of a response. -/
structure Json.IsResponse (v : Json) : Prop where
  jsonrpc : ∃ s, v.get? "jsonrpc" = some (.string s)
  id : ∃ j, v.get? "id" = some j ∧ (j = .null ∨ j.IsId)
  method : v.get? "method" = none
  error : ∀ j, v.get? "error" = some j → j = .null ∨ ∃ e, ResponseError.decode j = .ok e

/-- The value is an object with a method and a version, without an id. -/
structure Json.IsNotification (v : Json) : Prop where
  jsonrpc : ∃ s, v.get? "jsonrpc" = some (.string s)
  id : v.get? "id" = none
  method : ∃ s, v.get? "method" = some (.string s)

private theorem Json.Decoder.exists_string {member : Option Json} :
    (∃ j, member = some j ∧ ∃ s, string j = .ok s) ↔ ∃ s, member = some (.string s) := by
  simp only [string_eq_ok_iff]
  exact ⟨fun ⟨j, found, s, text⟩ => ⟨s, text ▸ found⟩, fun ⟨s, found⟩ => ⟨_, found, s, rfl⟩⟩

private theorem Json.Decoder.exists_json (j : Json) : ∃ a, json j = .ok a := ⟨j, rfl⟩

section Readable

variable {v j : Json} {key : String}

private theorem Request.exists_decode_iff (found : v.get? key = some j) :
    (∃ r, decode v = .ok r) ↔ v.IsRequest := by
  obtain ⟨t, rfl⟩ := Json.eq_object_of_get? found
  simp only [decode, record, Record.decode_object_eq_ok_iff, Record.exists_read_seq, Record.exists_read_map,
    Record.exists_read_field, Record.exists_read_optional, Json.Decoder.exists_string, Json.Decoder.exists_json,
    RequestId.decode_isOk_iff, or_true, implies_true, and_true]
  constructor
  · rintro ⟨⟨jsonrpc, id⟩, method⟩
    exact ⟨jsonrpc, id, method⟩
  · rintro ⟨jsonrpc, id, method⟩
    exact ⟨⟨jsonrpc, id⟩, method⟩

private theorem Response.exists_decode_iff (found : v.get? "id" = some j) (noMethod : v.get? "method" = none) :
    (∃ r, decode v = .ok r) ↔ v.IsResponse := by
  obtain ⟨t, rfl⟩ := Json.eq_object_of_get? found
  simp only [decode, record, Record.decode_object_eq_ok_iff, Record.exists_read_seq, Record.exists_read_map,
    Record.exists_read_field, Record.exists_read_optional, Json.Decoder.exists_string, Json.Decoder.exists_json,
    RequestId.decode_isOk_iff, or_true, implies_true, and_true]
  constructor
  · rintro ⟨⟨jsonrpc, id⟩, error⟩
    exact ⟨jsonrpc, ⟨j, found, id j found⟩, noMethod, error⟩
  · rintro ⟨jsonrpc, ⟨i, found', id⟩, -, error⟩
    refine ⟨⟨jsonrpc, fun i' found => ?_⟩, error⟩
    cases found'.symm.trans found
    exact id

private theorem Notification.exists_decode_iff (found : v.get? "method" = some j) (noId : v.get? "id" = none) :
    (∃ n, decode v = .ok n) ↔ v.IsNotification := by
  obtain ⟨t, rfl⟩ := Json.eq_object_of_get? found
  simp only [decode, record, Record.decode_object_eq_ok_iff, Record.exists_read_seq, Record.exists_read_map,
    Record.exists_read_field, Record.exists_read_optional, Json.Decoder.exists_string, Json.Decoder.exists_json,
    or_true, implies_true, and_true]
  constructor
  · rintro ⟨jsonrpc, method⟩
    exact ⟨jsonrpc, noId, method⟩
  · rintro ⟨jsonrpc, -, method⟩
    exact ⟨jsonrpc, method⟩

end Readable

private theorem Request.readsOnly : record.ReadsOnly ["jsonrpc", "id", "method", "params"] :=
  (((Record.ReadsOnly.field _).map _).seq (.field _)).seq (.field _) |>.seq (.optional _)

private theorem Response.readsOnly : record.ReadsOnly ["jsonrpc", "id", "result", "error"] :=
  (((Record.ReadsOnly.field _).map _).seq (.optional _)).seq (.optional _) |>.seq (.optional _)

private theorem Notification.readsOnly : record.ReadsOnly ["jsonrpc", "method", "params"] :=
  ((Record.ReadsOnly.field _).map _).seq (.field _) |>.seq (.optional _)

namespace Message

/-- The keys that count in a value. -/
def keys (v : Json) : List String :=
  if (v.get? "method").isSome then ["jsonrpc", "id", "method", "params"]
  else ["jsonrpc", "id", "method", "result", "error"]

/-- Values with the same members under the keys that count are read alike. -/
theorem ofJson_congr {v v' : Json} (same : ∀ key ∈ keys v, v'.get? key = v.get? key) : ofJson v' = ofJson v := by
  have sameId : v'.get? "id" = v.get? "id" := same "id" (by unfold keys; split <;> simp)
  have sameMethod : v'.get? "method" = v.get? "method" := same "method" (by unfold keys; split <;> simp)
  unfold ofJson
  rw [sameId, sameMethod]
  unfold keys at same
  cases id : v.get? "id" with
  | none =>
    cases method : v.get? "method" with
    | none => rfl
    | some m =>
      obtain ⟨t, rfl⟩ := Json.eq_object_of_get? method
      obtain ⟨t', rfl⟩ := Json.eq_object_of_get? (sameMethod.trans method)
      rw [method] at same
      have fewer : ["jsonrpc", "method", "params"] ⊆ ["jsonrpc", "id", "method", "params"] := by simp
      exact congrArg (Except.map Message.notification)
        (Notification.readsOnly.decode "Notification" fun key own => same key (fewer own))
  | some i =>
    obtain ⟨t, rfl⟩ := Json.eq_object_of_get? id
    obtain ⟨t', rfl⟩ := Json.eq_object_of_get? (sameId.trans id)
    cases method : (Json.object t).get? "method" with
    | none =>
      rw [method] at same
      have fewer : ["jsonrpc", "id", "result", "error"] ⊆ ["jsonrpc", "id", "method", "result", "error"] := by simp
      exact congrArg (Except.map Message.response)
        (Response.readsOnly.decode "Response" fun key own => same key (fewer own))
    | some m =>
      rw [method] at same
      exact congrArg (Except.map Message.request) (Request.readsOnly.decode "Request" same)

structure Classified (v : Json) (result : Except Json.ShapeError Message) : Prop where
  request : (∃ r, result = .ok (.request r)) ↔ v.IsRequest
  response : (∃ r, result = .ok (.response r)) ↔ v.IsResponse
  notification : (∃ n, result = .ok (.notification n)) ↔ v.IsNotification

private theorem ofJson_classified (v : Json) : Classified v (ofJson v) := by
  unfold ofJson
  cases id : v.get? "id" with
  | none =>
    have noRequest : ¬ v.IsRequest := fun ⟨_, ⟨_, found, _⟩, _⟩ => by simp [id] at found
    have noResponse : ¬ v.IsResponse := fun ⟨_, ⟨_, found, _⟩, _, _⟩ => by simp [id] at found
    cases method : v.get? "method" with
    | none =>
      have noNotification : ¬ v.IsNotification := fun ⟨_, _, _, found⟩ => by simp [method] at found
      exact ⟨by simpa using noRequest, by simpa using noResponse, by simpa using noNotification⟩
    | some m =>
      have own := Notification.exists_decode_iff method id
      dsimp only [Option.isSome_none, Option.isSome_some]
      cases read : Notification.decode v <;> rw [read] at own <;>
        exact ⟨by simpa [Except.map] using noRequest, by simpa [Except.map] using noResponse,
          by simpa [Except.map] using own⟩
  | some i =>
    have noNotification : ¬ v.IsNotification := fun ⟨_, absent, _⟩ => by simp [id] at absent
    cases method : v.get? "method" with
    | none =>
      have noRequest : ¬ v.IsRequest := fun ⟨_, _, _, found⟩ => by simp [method] at found
      have own := Response.exists_decode_iff id method
      dsimp only [Option.isSome_none, Option.isSome_some]
      cases read : Response.decode v <;> rw [read] at own <;>
        exact ⟨by simpa [Except.map] using noRequest, by simpa [Except.map] using own,
          by simpa [Except.map] using noNotification⟩
    | some m =>
      have noResponse : ¬ v.IsResponse := fun ⟨_, _, absent, _⟩ => by simp [method] at absent
      have own := Request.exists_decode_iff id
      dsimp only [Option.isSome_some]
      cases read : Request.decode v <;> rw [read] at own <;>
        exact ⟨by simpa [Except.map] using own, by simpa [Except.map] using noResponse,
          by simpa [Except.map] using noNotification⟩

private theorem parse_of_read {text : String} {v : Json} (read : Json.parse? text = some v) :
    parse text = (ofJson v).mapError .shape := by
  rw [parse, read]

/-- A text that is a JSON value is read as a message of the kind that the value has, and refused if the value
has none; no value has two. What stands under a key that does not count makes no difference. -/
theorem parse_classified (text : String) (v : Json) (read : Json.parse? text = some v) :
    ((∃ r, parse text = .ok (.request r)) ↔ v.IsRequest) ∧
    ((∃ r, parse text = .ok (.response r)) ↔ v.IsResponse) ∧
    ((∃ n, parse text = .ok (.notification n)) ↔ v.IsNotification) ∧
    ((∃ e, parse text = .error e) ↔ ¬ v.IsRequest ∧ ¬ v.IsResponse ∧ ¬ v.IsNotification) ∧
    ¬ (v.IsRequest ∧ v.IsResponse) ∧ ¬ (v.IsRequest ∧ v.IsNotification) ∧ ¬ (v.IsResponse ∧ v.IsNotification) ∧
    ∀ (text' : String) (v' : Json), Json.parse? text' = some v' → (∀ key ∈ keys v, v'.get? key = v.get? key) →
      parse text' = parse text := by
  have kind (m : Message) : parse text = .ok m ↔ ofJson v = .ok m := by
    rw [parse_of_read read]
    exact Json.mapError_eq_ok_iff
  have classified := ofJson_classified v
  have request : (∃ r, parse text = .ok (.request r)) ↔ v.IsRequest := by
    simp only [kind, classified.request]
  have response : (∃ r, parse text = .ok (.response r)) ↔ v.IsResponse := by
    simp only [kind, classified.response]
  have notification : (∃ n, parse text = .ok (.notification n)) ↔ v.IsNotification := by
    simp only [kind, classified.notification]
  refine ⟨request, response, notification, ?_, ?_, ?_, ?_, fun text' v' read' same => ?_⟩
  · rw [← request, ← response, ← notification]
    cases parse text with
    | error e => simp
    | ok m => cases m <;> simp
  · rintro ⟨isRequest, isResponse⟩
    obtain ⟨_, method⟩ := isRequest.method
    simp [isResponse.method] at method
  · rintro ⟨isRequest, isNotification⟩
    obtain ⟨_, id, _⟩ := isRequest.id
    simp [isNotification.id] at id
  · rintro ⟨isResponse, isNotification⟩
    obtain ⟨_, id, _⟩ := isResponse.id
    simp [isNotification.id] at id
  · rw [parse_of_read read, parse_of_read read', ofJson_congr same]

def unaddressed : Json :=
  .object [("error", .object [("code", .ofNat 1), ("message", .string "")]), ("id", .null),
    ("jsonrpc", .string "2.0"), ("params", .array [])]

theorem parse_classified_unaddressed : Json.parse? unaddressed.compact = some unaddressed ∧
    (∃ r, parse unaddressed.compact = .ok (.response r)) ∧ unaddressed.IsResponse ∧ ¬ unaddressed.IsRequest ∧
    ¬ ∃ e, parse unaddressed.compact = .error e := by
  have read : Json.parse? unaddressed.compact = some unaddressed := by
    rw [Json.parse?_compact rfl (by decide)]
    rfl
  have error : ∀ j, unaddressed.get? "error" = some j → j = .null ∨ ∃ e, ResponseError.decode j = .ok e := by
    intro j found
    cases found
    exact .inr ⟨⟨1, "", none⟩, rfl⟩
  have isResponse : unaddressed.IsResponse := ⟨⟨_, rfl⟩, ⟨_, rfl, .inl rfl⟩, rfl, error⟩
  obtain ⟨-, response, -, refused, alone, -, -, -⟩ := parse_classified _ _ read
  exact ⟨read, response.2 isResponse, isResponse, fun isRequest => alone ⟨isRequest, isResponse⟩,
    fun failed => (refused.1 failed).2.1 isResponse⟩

end Message

end LanguageClient
