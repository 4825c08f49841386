import LanguageClient.Connection.Step
import LanguageClient.Proofs.Json.Record
import LanguageClient.Proofs.Json.Rereading

/-! Messages, read from the text that is sent for them. The kind of a message is told by the keys that
its text has, and every key is written in just the messages of the kinds that it tells; what a message
loses on the way is the difference between a null and nothing. -/
namespace LanguageClient

open Json (Record)

private theorem RequestId.decode_toJson (id : RequestId) : decode id.toJson = .ok id := by
  cases id with
  | string s => rfl
  | number n =>
    have few := n.toNat_lt
    have read : Json.Decoder.uint64 (.whole (.ofUInt64 n)) = .ok n :=
      Json.map_eq_ok_iff.2 ⟨n.toNat, Json.Decoder.bounded_eq_ok_iff.2
        ⟨_, rfl, by simp [Json.Whole.ofUInt64], by simp only [Json.Whole.ofUInt64]; omega, rfl⟩, by simp⟩
    simp only [decode, toJson, Json.whole] at read ⊢
    rw [read]

private theorem RequestId.ordered_toJson (id : RequestId) : id.toJson.ordered = id.toJson := by
  cases id <;> rfl

private theorem Json.Decoder.int32_ofInt32 (n : Int32) : int32 (.whole (.ofInt32 n)) = .ok n := by
  have lower := n.le_toInt
  have upper := n.toInt_lt
  exact map_eq_ok_iff.2 ⟨n.toInt, bounded_eq_ok_iff.2
    ⟨_, rfl, by simp only [Whole.ofInt32]; omega, by simp only [Whole.ofInt32]; omega, rfl⟩, by simp⟩

def Json.notNull? (value : Option Json) : Option Json := value.filter (· ≠ .null)

private theorem Json.getD_notNull? (value : Option Json) : (notNull? value).getD .null = value.getD .null := by
  cases value with
  | none => rfl
  | some j => by_cases null : j = .null <;> simp [notNull?, Option.filter_some, null]

theorem Json.Record.read_payload {members : List (String × Json)} {name : String} {position : Nat}
    {value : Option Json} (found : Table.get? members name = value) :
    (optional name Decoder.json).read (.members members) position = .ok (notNull? value) := by
  rw [read_optional_eq_ok_iff, found]
  cases value with
  | none => exact .inl ⟨rfl, rfl⟩
  | some j =>
    refine .inr ⟨j, rfl, Decoder.nullable_eq_ok_iff.2 ?_⟩
    by_cases null : j = .null
    · exact .inl ⟨null, by simp [notNull?, null]⟩
    · exact .inr ⟨null, j, rfl, by simp [notNull?, null]⟩

private theorem Json.map_ordered {value : Option Json} (ordered : ∀ j ∈ value, j.IsOrdered) :
    value.map Json.ordered = value := by
  cases value with
  | none => rfl
  | some j => exact congrArg some (ordered j rfl).ordered_eq

def ResponseError.withoutNull (e : ResponseError) : ResponseError := { e with data := Json.notNull? e.data }

def Request.withoutNull (r : Request) : Request := { r with params := Json.notNull? r.params }

def Response.withoutNulls (r : Response) : Response :=
  { r with result := Json.notNull? r.result, error := r.error.map ResponseError.withoutNull }

def Notification.withoutNull (n : Notification) : Notification := { n with params := Json.notNull? n.params }

private theorem Request.nodup_members (r : Request) : (Table.keys r.members).Nodup := by
  cases params : r.params <;> simp [members, params, Json.memberIfSome, Table.keys]

private theorem Request.decode_ordered (r : Request) (ordered : ∀ j ∈ r.params, j.IsOrdered) :
    decode r.toJson.ordered = .ok r.withoutNull := by
  obtain ⟨t, shape, found⟩ := Json.ordered_object r.nodup_members
  have jsonrpc : Table.get? t "jsonrpc" = some (.string r.jsonrpc) := found _
  have id : Table.get? t "id" = some r.id.toJson :=
    (found _).trans (congrArg some r.id.ordered_toJson)
  have method : Table.get? t "method" = some (.string r.method) := found _
  have params : Table.get? t "params" = r.params := by
    rw [found, ← Json.map_ordered ordered]
    cases params : r.params <;> simp [members, params, Json.memberIfSome, Table.get?]
  rw [decode, Record.decode_eq_ok_iff, toJson, shape]
  refine .inl ⟨t, rfl, ?_⟩
  simp only [record, Record.read_seq_eq_ok_iff, Record.read_map_eq_ok_iff, Record.read_field_eq_ok_iff,
    Record.lookup, jsonrpc, id, method, Record.read_payload params]
  exact ⟨_, _, ⟨_, _, ⟨_, _, ⟨_, ⟨_, rfl, rfl⟩, rfl⟩, ⟨_, rfl, r.id.decode_toJson⟩, rfl⟩, ⟨_, rfl, rfl⟩, rfl⟩,
    rfl, rfl⟩

private theorem Notification.nodup_members (n : Notification) : (Table.keys n.members).Nodup := by
  cases params : n.params <;> simp [members, params, Json.memberIfSome, Table.keys]

private theorem Notification.decode_ordered (n : Notification) (ordered : ∀ j ∈ n.params, j.IsOrdered) :
    decode n.toJson.ordered = .ok n.withoutNull := by
  obtain ⟨t, shape, found⟩ := Json.ordered_object n.nodup_members
  have jsonrpc : Table.get? t "jsonrpc" = some (.string n.jsonrpc) := found _
  have method : Table.get? t "method" = some (.string n.method) := found _
  have params : Table.get? t "params" = n.params := by
    rw [found, ← Json.map_ordered ordered]
    cases params : n.params <;> simp [members, params, Json.memberIfSome, Table.get?]
  rw [decode, Record.decode_eq_ok_iff, toJson, shape]
  refine .inl ⟨t, rfl, ?_⟩
  simp only [record, Record.read_seq_eq_ok_iff, Record.read_map_eq_ok_iff, Record.read_field_eq_ok_iff,
    Record.lookup, jsonrpc, method, Record.read_payload params]
  exact ⟨_, _, ⟨_, _, ⟨_, ⟨_, rfl, rfl⟩, rfl⟩, ⟨_, rfl, rfl⟩, rfl⟩, rfl, rfl⟩

private theorem ResponseError.nodup_members (e : ResponseError) : (Table.keys e.members).Nodup := by
  cases data : e.data <;> simp [members, data, Json.memberIfSome, Table.keys]

private theorem ResponseError.decode_ordered (e : ResponseError) (ordered : ∀ j ∈ e.data, j.IsOrdered) :
    decode e.toJson.ordered = .ok e.withoutNull := by
  obtain ⟨t, shape, found⟩ := Json.ordered_object e.nodup_members
  have code : Table.get? t "code" = some (.whole (.ofInt32 e.code)) := found _
  have message : Table.get? t "message" = some (.string e.message) := found _
  have data : Table.get? t "data" = e.data := by
    rw [found, ← Json.map_ordered ordered]
    cases data : e.data <;> simp [members, data, Json.memberIfSome, Table.get?]
  rw [decode, Record.decode_eq_ok_iff, toJson, shape]
  refine .inl ⟨t, rfl, ?_⟩
  simp only [record, Record.read_seq_eq_ok_iff, Record.read_map_eq_ok_iff, Record.read_field_eq_ok_iff,
    Record.lookup, code, message, Record.read_payload data]
  exact ⟨_, _, ⟨_, _, ⟨_, ⟨_, rfl, Json.Decoder.int32_ofInt32 e.code⟩, rfl⟩, ⟨_, rfl, rfl⟩, rfl⟩, rfl, rfl⟩

private theorem Response.nodup_members (r : Response) : (Table.keys r.members).Nodup := by
  cases result : r.result <;> cases error : r.error <;>
    simp [members, result, error, Json.memberIfSome, Table.keys]

private theorem Response.decode_ordered (r : Response) (ordered : ∀ j ∈ r.result, j.IsOrdered)
    (orderedData : ∀ e ∈ r.error, ∀ j ∈ e.data, j.IsOrdered) :
    decode r.toJson.ordered = .ok r.withoutNulls := by
  obtain ⟨t, shape, found⟩ := Json.ordered_object r.nodup_members
  have jsonrpc : Table.get? t "jsonrpc" = some (.string r.jsonrpc) := found "jsonrpc"
  have id : Table.get? t "id" = some (Json.ofOption RequestId.toJson r.id) := by
    refine (found "id").trans (congrArg some ?_)
    cases r.id with
    | none => rfl
    | some id => exact id.ordered_toJson
  have result : Table.get? t "result" = r.result := by
    rw [found, ← Json.map_ordered ordered]
    cases result : r.result <;> cases error : r.error <;>
      simp [members, result, error, Json.memberIfSome, Table.get?]
  have error : Table.get? t "error" = r.error.map fun e => e.toJson.ordered := by
    rw [found]
    cases result : r.result <;> cases error : r.error <;>
      simp [members, result, error, Json.memberIfSome, Table.get?]
  rw [decode, Record.decode_eq_ok_iff, toJson, shape]
  refine .inl ⟨t, rfl, ?_⟩
  simp only [record, Record.read_seq_eq_ok_iff, Record.read_map_eq_ok_iff, Record.read_field_eq_ok_iff,
    Record.read_optional_eq_ok_iff, Record.lookup, jsonrpc, id, error, Record.read_payload result]
  refine ⟨_, _, ⟨_, _, ⟨_, r.id, ⟨_, ⟨_, rfl, rfl⟩, rfl⟩, .inr ⟨_, rfl, ?_⟩, rfl⟩, rfl, rfl⟩, ?_, rfl⟩
  · cases r.id with
    | none => rfl
    | some id =>
      refine Json.Decoder.nullable_eq_ok_iff.2 (.inr ⟨?_, id, id.decode_toJson, rfl⟩)
      cases id <;> exact Json.noConfusion
  · cases error : r.error with
    | none => exact .inl ⟨rfl, rfl⟩
    | some e =>
      refine .inr ⟨_, rfl, Json.Decoder.nullable_eq_ok_iff.2 (.inr ⟨Json.noConfusion, e.withoutNull, ?_, rfl⟩)⟩
      exact e.decode_ordered (orderedData e error)

namespace Message

/-- The JSON values that a message carries. -/
def payloads : Message → List Json
  | .request r => r.params.toList
  | .response r => r.result.toList ++ (r.error.bind ResponseError.data).toList
  | .notification n => n.params.toList

/-- The message, in which every payload that is null is none. -/
def withoutNulls : Message → Message
  | .request r => .request r.withoutNull
  | .response r => .response r.withoutNulls
  | .notification n => .notification n.withoutNull

/-- The keys of a message, put in order, are those that it was written with. -/
theorem isSome_get?_ordered (m : Message) (key : String) :
    (m.toJson.ordered.get? key).isSome = (m.toJson.get? key).isSome := by
  obtain ⟨members, shape, once⟩ : ∃ members, m.toJson = .object members ∧ (Table.keys members).Nodup := by
    cases m with
    | request r => exact ⟨_, rfl, r.nodup_members⟩
    | response r => exact ⟨_, rfl, r.nodup_members⟩
    | notification n => exact ⟨_, rfl, n.nodup_members⟩
  obtain ⟨t, ordered, found⟩ := Json.ordered_object once
  rw [shape, ordered, Json.get?, Json.get?, found, Option.isSome_map]

private theorem ofJson_ordered (m : Message) (ordered : ∀ j ∈ m.payloads, j.IsOrdered) :
    ofJson m.toJson.ordered = .ok m.withoutNulls := by
  rw [ofJson, isSome_get?_ordered, isSome_get?_ordered]
  cases m with
  | request r =>
    have read := r.decode_ordered fun j inside => ordered j (by simpa [payloads] using inside)
    change (Request.decode r.toJson.ordered).map _ = _
    rw [read]
    rfl
  | response r =>
    -- An id is always written, as null at least, and a method never.
    have noMethod : ((Message.response r).toJson.get? "method").isSome = false := by
      cases result : r.result <;> cases error : r.error <;>
        simp [toJson, Response.toJson, Response.members, result, error, Json.memberIfSome, Json.get?, Table.get?]
    have read := r.decode_ordered
      (fun j inside => ordered j (by simp [payloads, Option.mem_def.1 inside]))
      (fun e error j inside => ordered j (by simp [payloads, Option.mem_def.1 error, Option.mem_def.1 inside]))
    rw [noMethod]
    change (Response.decode r.toJson.ordered).map _ = _
    rw [read]
    rfl
  | notification n =>
    have noId : ((Message.notification n).toJson.get? "id").isSome = false := by
      cases params : n.params <;>
        simp [toJson, Notification.toJson, Notification.members, params, Json.memberIfSome, Json.get?, Table.get?]
    have read := n.decode_ordered fun j inside => ordered j (by simpa [payloads] using inside)
    rw [noId]
    change (Notification.decode n.toJson.ordered).map _ = _
    rw [read]
    rfl

private theorem isExact_toJson (m : Message) (exact : ∀ j ∈ m.payloads, j.isExact = true) :
    m.toJson.isExact = true := by
  have plain (id : RequestId) : id.toJson.isExact = true := by cases id <;> rfl
  cases m with
  | request r =>
    cases params : r.params <;> simp_all [payloads, toJson, Request.toJson, Request.members,
      Json.memberIfSome, Json.isExact, Json.haveExact]
  | notification n =>
    cases params : n.params <;> simp_all [payloads, toJson, Notification.toJson, Notification.members,
      Json.memberIfSome, Json.isExact, Json.haveExact]
  | response r =>
    have id : (Json.ofOption RequestId.toJson r.id).isExact = true := by
      cases r.id with
      | none => rfl
      | some id => exact plain id
    have error : ∀ e ∈ r.error, e.toJson.isExact = true := by
      intro e error
      have data : ∀ j ∈ e.data, j.isExact = true := fun j inside =>
        exact j (by simp [payloads, Option.mem_def.1 error, Option.mem_def.1 inside])
      cases payload : e.data <;> simp_all [ResponseError.toJson, ResponseError.members,
        Json.memberIfSome, Json.isExact, Json.haveExact, Json.whole]
    cases result : r.result <;> cases failed : r.error <;> simp_all [payloads, toJson, Response.toJson,
      Response.members, Json.memberIfSome, Json.isExact, Json.haveExact]

/-- A message is read from its text as it was written, but for payloads that are null. -/
theorem parse_text_eq {m : Message} (exact : ∀ j ∈ m.payloads, j.isExact = true)
    (ordered : ∀ j ∈ m.payloads, j.IsOrdered) (shallow : m.toJson.nesting ≤ Json.messageDepth) :
    parse m.text = .ok m.withoutNulls := by
  rw [parse, text, Json.parse?_compact (m.isExact_toJson exact) shallow]
  dsimp only
  rw [m.ofJson_ordered ordered]
  rfl

end Message

private theorem Response.outcome_withoutNulls (r : Response) :
    r.withoutNulls.outcome = r.outcome.mapError ResponseError.withoutNull := by
  unfold outcome withoutNulls
  cases r.error with
  | some e => rfl
  | none =>
    cases result : r.result with
    | none => rfl
    | some j => exact congrArg Except.ok (Json.getD_notNull? (some j))

/-- What is lost makes no difference to who waits for the response. -/
theorem Connection.resultOf_withoutNulls (r : Response) : resultOf r.withoutNulls = resultOf r := by
  unfold resultOf
  rw [r.outcome_withoutNulls]
  cases r.outcome <;> rfl

namespace Message

def id? : Message → Option RequestId
  | .request r => some r.id
  | .response r => r.id
  | .notification _ => none

/-- A message that holds no double and nests within bounds, its objects with their members in key order as
every object is kept, is read from its text as the same message: its id is the same, and so is its
outcome, but for data of an error that are null. -/
theorem parse_text (m : Message) (exact : ∀ j ∈ m.payloads, j.isExact = true)
    (ordered : ∀ j ∈ m.payloads, j.IsOrdered) (shallow : m.toJson.nesting ≤ Json.messageDepth) :
    parse m.text = .ok m.withoutNulls ∧ m.withoutNulls.id? = m.id? ∧
      ∀ r, m = .response r → ∃ r', m.withoutNulls = .response r' ∧
        r'.outcome = r.outcome.mapError ResponseError.withoutNull ∧
        Connection.resultOf r' = Connection.resultOf r := by
  refine ⟨parse_text_eq exact ordered shallow, by cases m <;> rfl, ?_⟩
  rintro r rfl
  exact ⟨r.withoutNulls, rfl, r.outcome_withoutNulls, Connection.resultOf_withoutNulls r⟩

/-- An error response to a text id, with null for a result and null for the data of its error. -/
theorem parse_text_refusal :
    let error : ResponseError := ⟨ErrorCode.serverNotInitialized, "not yet", some .null⟩
    let m : Message := .response ⟨"2.0", some (.string "a\n1"), some .null, some error⟩
    (∀ j ∈ m.payloads, j.isExact = true) ∧ (∀ j ∈ m.payloads, j.IsOrdered) ∧
      m.toJson.nesting ≤ Json.messageDepth ∧
      parse m.text = .ok (.response ⟨"2.0", some (.string "a\n1"), none, some { error with data := none }⟩) := by
  intro error m
  have exact : ∀ j ∈ m.payloads, j.isExact = true := by decide
  have ordered : ∀ j ∈ m.payloads, j.IsOrdered := by simp [m, error, payloads, Json.IsOrdered]
  have shallow : m.toJson.nesting ≤ Json.messageDepth := by decide
  exact ⟨exact, ordered, shallow, (parse_text m exact ordered shallow).1⟩

end Message

end LanguageClient
