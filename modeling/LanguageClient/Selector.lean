import LanguageClient.Document
import LanguageClient.Diagnostic

/-!
What a launch is told: how to run the server, and which documents and diagnostics concern the
client.
-/
namespace LanguageClient

/-- How to run a server. The environment is put on top of the inherited one. -/
structure ServerOptions where
  command : String
  arguments : List String
  directory : Option String
  environment : Table String
  deriving DecidableEq, Repr

namespace ServerOptions

def new (command : String) : ServerOptions := ⟨command, [], none, []⟩

def argument (o : ServerOptions) (text : String) : ServerOptions :=
  { o with arguments := o.arguments ++ [text] }

def setVariable (o : ServerOptions) (name value : String) : ServerOptions :=
  { o with environment := o.environment.insert name value }

def inDirectory (o : ServerOptions) (path : String) : ServerOptions :=
  { o with directory := some path }

end ServerOptions

/-- A condition on the scheme and the language of a document; what is not given does not matter. -/
structure DocumentFilter where
  scheme : Option String
  language : Option String
  deriving DecidableEq, Repr

namespace DocumentFilter

def selects (f : DocumentFilter) (d : TextDocument) : Bool :=
  (match f.scheme with
    | none => true
    | some scheme => d.scheme? = some scheme) &&
  (match f.language with
    | none => true
    | some language => d.languageId = language)

end DocumentFilter

/-- What stands between a publication and the default path: the events that are handed on for an
event, in order. -/
abbrev Middleware := DiagnosticEvent → List DiagnosticEvent

structure ClientOptions where
  id : String
  name : String
  selector : List DocumentFilter
  middleware : Option Middleware

namespace ClientOptions

def selects (o : ClientOptions) (d : TextDocument) : Bool := o.selector.any (·.selects d)

def deliver (o : ClientOptions) (event : DiagnosticEvent) : List DiagnosticEvent :=
  match o.middleware with
  | some handle => handle event
  | none => [event]

private def describeOption : Option String → String
  | none => "None"
  | some s => "Some(" ++ Text.quoted s ++ ")"

private def describeFilter (f : DocumentFilter) : String :=
  "DocumentFilter \x7b scheme: " ++ describeOption f.scheme ++ ", language: " ++
    describeOption f.language ++ " \x7d"

def describe (o : ClientOptions) : String :=
  "ClientOptions \x7b id: " ++ Text.quoted o.id ++ ", name: " ++ Text.quoted o.name ++
    ", document_selector: [" ++ ", ".intercalate (o.selector.map describeFilter) ++
    "], handle_diagnostics: " ++ toString o.middleware.isSome ++ " \x7d"

end ClientOptions

end LanguageClient
