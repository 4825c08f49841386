import LanguageClient.Document
import LanguageClient.Diagnostic

/-!
What client and server tell each other about documents. The records are those of the wire; a
`Notice` is one of the three notifications by which a server learns what documents are open.
-/
namespace LanguageClient

structure DocumentId where
  uri : String
  deriving DecidableEq, Repr

namespace DocumentId

def record : Json.Record DocumentId := DocumentId.mk <$> .field "uri" Json.Decoder.string

def decode : Json.Decoder DocumentId := record.decode "TextDocumentIdentifier"

def toJson (d : DocumentId) : Json := .ofMembers [("uri", .string d.uri)]

end DocumentId

structure VersionedDocumentId where
  uri : String
  version : Int32
  deriving DecidableEq, Repr

namespace VersionedDocumentId

def record : Json.Record VersionedDocumentId :=
  VersionedDocumentId.mk <$> .field "uri" Json.Decoder.string
    <*> .field "version" Json.Decoder.int32

def decode : Json.Decoder VersionedDocumentId := record.decode "VersionedTextDocumentIdentifier"

def toJson (d : VersionedDocumentId) : Json :=
  .ofMembers [("uri", .string d.uri), ("version", .whole (.ofInt32 d.version))]

end VersionedDocumentId

structure DocumentPosition where
  document : DocumentId
  position : Position
  deriving DecidableEq, Repr

namespace DocumentPosition

def record : Json.Record DocumentPosition :=
  DocumentPosition.mk <$> .field "textDocument" DocumentId.decode
    <*> .field "position" Position.decode

def decode : Json.Decoder DocumentPosition := record.decode "TextDocumentPositionParams"

def toJson (p : DocumentPosition) : Json :=
  .ofMembers [("textDocument", p.document.toJson), ("position", p.position.toJson)]

end DocumentPosition

def decodeDocumentItem : Json.Decoder TextDocument := TextDocument.record.decode "TextDocumentItem"

structure DidOpen where
  document : TextDocument
  deriving DecidableEq, Repr

namespace DidOpen

def record : Json.Record DidOpen := DidOpen.mk <$> .field "textDocument" decodeDocumentItem

def decode : Json.Decoder DidOpen := record.decode "DidOpenTextDocumentParams"

def toJson (d : DidOpen) : Json := .ofMembers [("textDocument", d.document.toJson)]

end DidOpen

structure DidClose where
  document : DocumentId
  deriving DecidableEq, Repr

namespace DidClose

def record : Json.Record DidClose := DidClose.mk <$> .field "textDocument" DocumentId.decode

def decode : Json.Decoder DidClose := record.decode "DidCloseTextDocumentParams"

def toJson (d : DidClose) : Json := .ofMembers [("textDocument", d.document.toJson)]

end DidClose

structure ContentChange where
  text : String
  deriving DecidableEq, Repr

namespace ContentChange

def record : Json.Record ContentChange := ContentChange.mk <$> .field "text" Json.Decoder.string

def decode : Json.Decoder ContentChange := record.decode "TextDocumentContentChangeEvent"

def toJson (c : ContentChange) : Json := .ofMembers [("text", .string c.text)]

end ContentChange

structure DidChange where
  document : VersionedDocumentId
  changes : List ContentChange
  deriving DecidableEq, Repr

namespace DidChange

def record : Json.Record DidChange :=
  DidChange.mk <$> .field "textDocument" VersionedDocumentId.decode
    <*> .field "contentChanges" (Json.Decoder.list ContentChange.decode)

def decode : Json.Decoder DidChange := record.decode "DidChangeTextDocumentParams"

def toJson (d : DidChange) : Json :=
  .ofMembers [("textDocument", d.document.toJson),
    ("contentChanges", .array (d.changes.map ContentChange.toJson))]

end DidChange

structure Publication where
  uri : String
  version : Option Int32
  diagnostics : List Diagnostic
  deriving DecidableEq

namespace Publication

def record : Json.Record Publication :=
  Publication.mk <$> .field "uri" Json.Decoder.string <*> .optional "version" Json.Decoder.int32
    <*> .field "diagnostics" (Json.Decoder.list Diagnostic.decode)

def decode : Json.Decoder Publication := record.decode "PublishDiagnosticsParams"

def toJson (p : Publication) : Json :=
  .ofMembers ([("uri", .string p.uri)] ++
    Json.memberIfSome "version" (fun v => .whole (.ofInt32 v)) p.version ++
    [("diagnostics", .array (p.diagnostics.map Diagnostic.toJson))])

def event (p : Publication) : DiagnosticEvent := ⟨p.uri, p.diagnostics⟩

end Publication

inductive Notice where
  | opened (document : TextDocument)
  | changed (uri : String) (version : Int32) (text : String)
  | closed (uri : String)
  deriving DecidableEq, Repr

namespace Notice

def uri : Notice → String
  | .opened d => d.uri
  | .changed uri _ _ => uri
  | .closed uri => uri

def method : Notice → String
  | .opened _ => "textDocument/didOpen"
  | .changed _ _ _ => "textDocument/didChange"
  | .closed _ => "textDocument/didClose"

def params : Notice → Json
  | .opened d => (DidOpen.mk d).toJson
  | .changed uri version text => (DidChange.mk ⟨uri, version⟩ [⟨text⟩]).toJson
  | .closed uri => (DidClose.mk ⟨uri⟩).toJson

end Notice

end LanguageClient
