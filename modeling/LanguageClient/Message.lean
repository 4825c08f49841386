import LanguageClient.Json.Reader
import LanguageClient.Json.Printer
import LanguageClient.Json.Shape

/-!
Messages between client and server, in the form of JSON-RPC 2.0. A message is a request when it
has both an id and a method, a response when it has an id alone, and a notification when it has a
method alone; nothing else is a message.
-/
namespace LanguageClient

inductive RequestId where
  | number (n : UInt64)
  | string (s : String)
  deriving DecidableEq, Repr

namespace RequestId

def decode : Json.Decoder RequestId
  | .string s => .ok (.string s)
  | j =>
    match Json.Decoder.uint64 j with
    | .ok n => .ok (.number n)
    | .error _ => .error (.noVariant "RequestId")

def toJson : RequestId → Json
  | .number n => .whole (.ofUInt64 n)
  | .string s => .string s

def quoted : RequestId → String
  | .number n => "Number(" ++ toString n.toNat ++ ")"
  | .string s => "String(" ++ Text.quoted s ++ ")"

end RequestId

namespace ErrorCode

def methodNotFound : Int32 := -32601
def serverNotInitialized : Int32 := -32002
def requestCancelled : Int32 := -32800

/-- The client's own code for a server that went away. -/
def serverTerminated : Int32 := -32099

end ErrorCode

structure ResponseError where
  code : Int32
  message : String
  data : Option Json
  deriving DecidableEq

namespace ResponseError

def new (code : Int32) (message : String) : ResponseError := ⟨code, message, none⟩

def display (e : ResponseError) : String := "[" ++ toString e.code.toInt ++ "] " ++ e.message

def record : Json.Record ResponseError :=
  ResponseError.mk <$> .field "code" Json.Decoder.int32 <*> .field "message" Json.Decoder.string
    <*> .optional "data" Json.Decoder.json

def decode : Json.Decoder ResponseError := record.decode "ResponseError"

def members (e : ResponseError) : List (String × Json) :=
  [("code", .whole (.ofInt32 e.code)), ("message", .string e.message)] ++
    Json.memberIfSome "data" (fun j => j) e.data

def toJson (e : ResponseError) : Json := .object e.members

end ResponseError

structure Request where
  jsonrpc : String
  id : RequestId
  method : String
  params : Option Json
  deriving DecidableEq

namespace Request

def new (id : UInt64) (method : String) (params : Option Json) : Request :=
  ⟨"2.0", .number id, method, params⟩

def record : Json.Record Request :=
  Request.mk <$> .field "jsonrpc" Json.Decoder.string <*> .field "id" RequestId.decode
    <*> .field "method" Json.Decoder.string <*> .optional "params" Json.Decoder.json

def decode : Json.Decoder Request := record.decode "Request"

def members (r : Request) : List (String × Json) :=
  [("jsonrpc", .string r.jsonrpc), ("id", r.id.toJson), ("method", .string r.method)] ++
    Json.memberIfSome "params" (fun p => p) r.params

def toJson (r : Request) : Json := .object r.members

end Request

/-- A response: its outcome is the error where there is one, else the result. -/
structure Response where
  jsonrpc : String
  id : Option RequestId
  result : Option Json
  error : Option ResponseError
  deriving DecidableEq

namespace Response

def success (id : RequestId) (result : Json) : Response := ⟨"2.0", some id, some result, none⟩

def failure (id : RequestId) (error : ResponseError) : Response :=
  ⟨"2.0", some id, none, some error⟩

def isSuccess (r : Response) : Bool := r.error.isNone

def outcome (r : Response) : Except ResponseError Json :=
  match r.error with
  | some e => .error e
  | none => .ok (r.result.getD .null)

def record : Json.Record Response :=
  Response.mk <$> .field "jsonrpc" Json.Decoder.string <*> .optional "id" RequestId.decode
    <*> .optional "result" Json.Decoder.json <*> .optional "error" ResponseError.decode

def decode : Json.Decoder Response := record.decode "Response"

def members (r : Response) : List (String × Json) :=
  [("jsonrpc", .string r.jsonrpc), ("id", Json.ofOption RequestId.toJson r.id)] ++
    Json.memberIfSome "result" (fun j => j) r.result ++
    Json.memberIfSome "error" ResponseError.toJson r.error

def toJson (r : Response) : Json := .object r.members

end Response

structure Notification where
  jsonrpc : String
  method : String
  params : Option Json
  deriving DecidableEq

namespace Notification

def new (method : String) (params : Option Json) : Notification := ⟨"2.0", method, params⟩

def record : Json.Record Notification :=
  Notification.mk <$> .field "jsonrpc" Json.Decoder.string <*> .field "method" Json.Decoder.string
    <*> .optional "params" Json.Decoder.json

def decode : Json.Decoder Notification := record.decode "Notification"

def members (n : Notification) : List (String × Json) :=
  [("jsonrpc", .string n.jsonrpc), ("method", .string n.method)] ++
    Json.memberIfSome "params" (fun p => p) n.params

def toJson (n : Notification) : Json := .object n.members

end Notification

inductive Message where
  | request (r : Request)
  | response (r : Response)
  | notification (n : Notification)
  deriving DecidableEq

inductive MessageError where
  | malformed
  | shape (e : Json.ShapeError)
  deriving DecidableEq

namespace Message

def ofJson (j : Json) : Except Json.ShapeError Message :=
  match (j.get? "id").isSome, (j.get? "method").isSome with
  | true, true => (Request.decode j).map .request
  | true, false => (Response.decode j).map .response
  | false, true => (Notification.decode j).map .notification
  | false, false => .error .notAMessage

def parse (text : String) : Except MessageError Message :=
  match Json.parse? text with
  | none => .error .malformed
  | some j => (ofJson j).mapError .shape

def toJson : Message → Json
  | .request r => r.toJson
  | .response r => r.toJson
  | .notification n => n.toJson

def text (m : Message) : String := m.toJson.compact

end Message

end LanguageClient
