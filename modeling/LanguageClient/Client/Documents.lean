import LanguageClient.Client.Basic
import LanguageClient.Goal

/-!
Documents and questions. The table of open documents is changed only together with the notices
that tell the server: `syncOn` and `refreshOn` do both at once, while `closeDocument` takes the
document out of the table before it tells the server.
-/
namespace LanguageClient.Client

variable {W P : Type}

/-- Opens a document that is not in the table; of one that is, tells the server the new text. The
result is false when the text is the same as before. -/
def syncOn (host : Host W P) (c : Client W P) (peer : P) (d : TextDocument) :
    Except ClientError Bool × Client W P :=
  match c.documents.get? d.uri with
  | none =>
    let opened : OpenDocument := ⟨d.languageId, 1, d.text⟩
    match notify host c peer (.opened (opened.toDocument d.uri)) with
    | (.error e, c) => (.error e, c)
    | (.ok (), c) =>
      (.ok true, { c with documents := c.documents.insert d.uri opened }.note (.opened d.uri))
  | some known =>
    if known.text = d.text then (.ok false, c)
    else
      let version := known.version + 1
      match notify host c peer (.changed d.uri version d.text) with
      | (.error e, c) => (.error e, c)
      | (.ok (), c) =>
        let changed := { known with version := version, text := d.text }
        (.ok true, { c with documents := c.documents.insert d.uri changed }.note
          (.changed d.uri version))

def refreshOn (host : Host W P) (c : Client W P) (peer : P) (d : TextDocument) :
    Except ClientError Unit × Client W P :=
  let opened : OpenDocument := ⟨leanLanguage, 1, d.text⟩
  match notify host c peer (.closed d.uri) with
  | (.error e, c) => (.error e, c)
  | (.ok (), c) =>
    match notify host c peer (.opened (opened.toDocument d.uri)) with
    | (.error e, c) => (.error e, c)
    | (.ok (), c) => (.ok (), { c with documents := c.documents.insert d.uri opened })

def forget (c : Client W P) (uri : String) : Bool × Client W P :=
  if c.documents.contains uri then (true, { c with documents := c.documents.erase uri })
  else (false, c)

def dismissOn (host : Host W P) (c : Client W P) (peer : P) (uri : String) :
    Except ClientError Bool × Client W P :=
  match notify host c peer (.closed uri) with
  | (.error e, c) => (.error e, c)
  | (.ok (), c) => (.ok true, c.note (.closed uri))

/-- Brings the server up to date with a document; false when nothing had to be sent, or when the
document is none of the client's. -/
def syncDocument (host : Host W P) (c : Client W P) (d : TextDocument) :
    Except ClientError Bool × Client W P :=
  match c.peer? with
  | .error e => (.error e, c)
  | .ok peer => if c.selects d then c.syncOn host peer d else (.ok false, c)

def openDocument (host : Host W P) (c : Client W P) (d : TextDocument) :
    Except ClientError Bool × Client W P := c.syncDocument host d

def changeDocument (host : Host W P) (c : Client W P) (d : TextDocument) :
    Except ClientError Bool × Client W P := c.syncDocument host d

def closeDocument (host : Host W P) (c : Client W P) (uri : String) :
    Except ClientError Bool × Client W P :=
  match c.peer? with
  | .error e => (.error e, c)
  | .ok peer =>
    match c.forget uri with
    | (false, c) => (.ok false, c)
    | (true, c) => c.dismissOn host peer uri

def refreshDependencies (host : Host W P) (c : Client W P) (d : TextDocument) :
    Except ClientError Unit × Client W P :=
  match c.peer? with
  | .error e => (.error e, c)
  | .ok peer => (c.note (.refreshing d.uri)).refreshOn host peer d

def goalMethod : String := "$/lean/plainGoal"

def readGoal (answer : Json) : Except ClientError (Option PlainGoal) :=
  (Json.Decoder.nullable PlainGoal.decode answer).mapError fun e =>
    .protocol ("Invalid plainGoal response: " ++ e.message)

def goalAt (host : Host W P) (c : Client W P) (uri : String) (position : Position) :
    Except ClientError (Option PlainGoal) × Client W P :=
  match c.peer? with
  | .error e => (.error e, c)
  | .ok peer =>
    let params := (DocumentPosition.mk ⟨uri⟩ position).toJson
    let c := c.note (.asked peer goalMethod params)
    let (result, world) := host.request peer goalMethod params c.world
    (result.bind readGoal, { c with world := world })

def publishedDiagnostics (host : Host W P) (c : Client W P) (uri : String) :
    Except ClientError (List Diagnostic) :=
  c.peer?.map fun peer => host.diagnostics peer uri c.world

end LanguageClient.Client
