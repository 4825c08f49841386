import LanguageClient.Connection.Basic

/-!
What a connection does with the messages of the server. A response is matched with its request by
its number, or by a text that reads as the number; a notification of diagnostics goes through the
middleware into the store; a request is always answered.
-/
namespace LanguageClient.Connection

def requestNumber? : RequestId → Option Nat
  | .number n => some n.toNat
  | .string s => (Text.readUnsigned 0xFFFFFFFFFFFFFFFF s.toList).toOption

def handleResponse (c : Connection) (response : Response) : Connection :=
  match response.id with
  | none => c.note .debug "Response without id"
  | some id =>
    match (requestNumber? id).bind fun n => c.pending.find? fun entry => entry.1 = n with
    | some (n, call) =>
      { c with pending := c.pending.filter fun entry => entry.1 ≠ n }.giveAnswer call response
    | none => c.note .debug "Received response for unknown request ID"

def store (c : Connection) (event : DiagnosticEvent) : Connection :=
  let c := c.note .debug
    ("Cached " ++ toString event.diagnostics.length ++ " diagnostics for " ++ event.uri)
  { c with diagnostics := c.diagnostics.insert event.uri event.diagnostics }

def publish (c : Connection) (event : DiagnosticEvent) : Connection :=
  let c := if c.options.middleware.isSome then
    { c with intercepted := c.intercepted ++ [event] } else c
  (c.options.deliver event).foldl store c

def severityNote (severity : Json) : String :=
  "Keeping unrecognized diagnostic severity " ++ severity.compact

def unknownSeverities : List Json → List Json
  | [] => []
  | j :: rest =>
    match Diagnostic.decode j with
    | .ok d => d.unknownSeverity?.toList ++ unknownSeverities rest
    | .error _ => []

/-- The unknown severities that are met while the parameters of a publication are decoded. In an
array the diagnostics are looked at only when the fields before them are in order. -/
def metSeverities : Json → List Json
  | .object members =>
    match Table.get? members "diagnostics" with
    | some (.array items) => unknownSeverities items
    | _ => []
  | .array [uri, version, .array items] | .array (uri :: version :: .array items :: _) =>
    match Json.Decoder.string uri, Json.Decoder.nullable Json.Decoder.int32 version with
    | .ok _, .ok _ => unknownSeverities items
    | _, _ => []
  | _ => []

def levelOfType : Option Nat → Level
  | some 1 => .error
  | some 2 => .warn
  | some 3 => .info
  | _ => .debug

def handleNotification (c : Connection) (n : Notification) : Connection :=
  let params := n.params.getD .null
  if n.method = "textDocument/publishDiagnostics" then
    let c := (metSeverities params).foldl (fun c s => c.note .debug (severityNote s)) c
    match Publication.decode params with
    | .ok publication => c.publish publication.event
    | .error e => c.note .warn ("Malformed publishDiagnostics: " ++ e.message)
  else if n.method = "window/logMessage" || n.method = "window/showMessage" then
    match (params.get? "message").bind Json.asString? with
    | some message =>
      c.note (levelOfType ((params.get? "type").bind Json.asNat?))
        (c.options.name ++ ": " ++ message)
    | none => c
  else c

def configuration (params : Option Json) : Json :=
  let items := ((params.bind (·.get? "items")).bind Json.asArray?).getD []
  .array (items.map fun _ => .object [])

def answerRequest (r : Request) : Except ResponseError Json :=
  if r.method = "workspace/configuration" then .ok (configuration r.params)
  else if r.method = "client/registerCapability" || r.method = "client/unregisterCapability" ||
      r.method = "window/workDoneProgress/create" then .ok .null
  else .error (.new ErrorCode.methodNotFound ("Method not found: " ++ r.method))

def replyTo (r : Request) : Response :=
  match answerRequest r with
  | .ok value => .success r.id value
  | .error e => .failure r.id e

/-- Takes in a message: a response and a notification at once, a request up to its reply. -/
def handleMessage (c : Connection) : Message → Connection
  | .response r => c.handleResponse r
  | .notification n => c.handleNotification n
  | .request r =>
    let c := match answerRequest r with
      | .ok _ => c
      | .error _ => c.note .debug ("Unhandled server request: " ++ r.method)
    { c with reader := .replyProbing r.method (Message.response (replyTo r)).text }

end LanguageClient.Connection
