import LanguageClient.Json.Shape
import LanguageClient.Uri

/-!
Text documents as the host of the client sees them, and the language of a file by its extension.
-/
namespace LanguageClient

def leanLanguage : String := "lean4"

structure TextDocument where
  uri : String
  languageId : String
  version : Int32
  text : String
  deriving DecidableEq, Repr

namespace TextDocument

def new (uri languageId text : String) : TextDocument := ⟨uri, languageId, 1, text⟩

def ofLeanText (uri text : String) : TextDocument := new uri leanLanguage text

def withText (d : TextDocument) (text : String) : TextDocument :=
  { d with text := text, version := d.version + 1 }

def scheme? (d : TextDocument) : Option String := Uri.scheme? d.uri

def record : Json.Record TextDocument :=
  TextDocument.mk <$> .field "uri" Json.Decoder.string <*> .field "languageId" Json.Decoder.string
    <*> .field "version" Json.Decoder.int32 <*> .field "text" Json.Decoder.string

def decode : Json.Decoder TextDocument := record.decode "TextDocument"

def toJson (d : TextDocument) : Json :=
  .ofMembers [("uri", .string d.uri), ("languageId", .string d.languageId),
    ("version", .whole (.ofInt32 d.version)), ("text", .string d.text)]

end TextDocument

def languageOfPath (path : String) : String :=
  match Path.extension? path with
  | some "lean" => leanLanguage
  | some "md" => "markdown"
  | _ => "plaintext"

end LanguageClient
