import LanguageClient.Json.Shape
import LanguageClient.Arguments

/-!
The opening exchange between client and server: what the client says of itself and what the server
answers.
-/
namespace LanguageClient

structure ProgramInfo where
  name : String
  version : Option String
  deriving DecidableEq, Repr

namespace ProgramInfo

def record : Json.Record ProgramInfo :=
  ProgramInfo.mk <$> .field "name" Json.Decoder.string
    <*> .optional "version" Json.Decoder.string

def decodeClient : Json.Decoder ProgramInfo := record.decode "ClientInfo"

def decodeServer : Json.Decoder ProgramInfo := record.decode "ServerInfo"

def toJson (p : ProgramInfo) : Json :=
  .ofMembers ([("name", .string p.name)] ++ Json.memberIfSome "version" .string p.version)

end ProgramInfo

structure Greeting where
  processId : Option UInt32
  rootUri : Option String
  capabilities : Json
  client : Option ProgramInfo
  deriving DecidableEq

namespace Greeting

def record : Json.Record Greeting :=
  Greeting.mk <$> .optional "processId" Json.Decoder.uint32
    <*> .optional "rootUri" Json.Decoder.string
    <*> .field "capabilities" Json.Decoder.json
    <*> .optional "clientInfo" ProgramInfo.decodeClient

def decode : Json.Decoder Greeting := record.decode "InitializeParams"

def toJson (g : Greeting) : Json :=
  .ofMembers ([("processId", Json.ofOption (fun n => .whole (.ofUInt32 n)) g.processId),
      ("rootUri", Json.ofOption .string g.rootUri), ("capabilities", g.capabilities)] ++
    Json.memberIfSome "clientInfo" ProgramInfo.toJson g.client)

def clientCapabilities : Json :=
  .ofMembers [
    ("textDocument", .ofMembers [
      ("synchronization", .ofMembers [
        ("dynamicRegistration", .bool false),
        ("didSave", .bool false)]),
      ("publishDiagnostics", .ofMembers [
        ("relatedInformation", .bool true),
        ("versionSupport", .bool true),
        ("tagSupport", .ofMembers [("valueSet", .array [.ofNat 1, .ofNat 2])])])]),
    ("window", .ofMembers [
      ("workDoneProgress", .bool false),
      ("showDocument", .ofMembers [("support", .bool false)])]),
    ("workspace", .ofMembers [
      ("configuration", .bool true),
      ("workspaceFolders", .bool false)])]

def ours (processId : UInt32) (rootUri : Option String) : Greeting :=
  ⟨some processId, rootUri, clientCapabilities, some ⟨Arguments.programName, some Arguments.programVersion⟩⟩

end Greeting

structure Welcome where
  capabilities : Json
  server : Option ProgramInfo
  deriving DecidableEq

namespace Welcome

def record : Json.Record Welcome :=
  Welcome.mk <$> .withDefault "capabilities" Json.Decoder.json .null
    <*> .optional "serverInfo" ProgramInfo.decodeServer

def decode : Json.Decoder Welcome := record.decode "InitializeResult"

def toJson (w : Welcome) : Json :=
  .ofMembers ([("capabilities", w.capabilities)] ++
    Json.memberIfSome "serverInfo" ProgramInfo.toJson w.server)

end Welcome

end LanguageClient
