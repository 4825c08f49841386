import LanguageClient.Client.Basic
import LanguageClient.Session.Launch

/-!
A host whose servers are started from a tree of files. Sessions are numbered from zero in the order of
their launches.
-/
namespace LanguageClient

/-- The world of a host: what programs do, files, variables, a working directory, and the sessions so
far. -/
structure ScriptWorld where
  programs : Image → Process
  files : FileTree
  environment : Table String
  workingDirectory : String
  /-- The time for the shutdown of a server, in milliseconds. -/
  grace : Nat
  sessions : List Session

namespace ScriptWorld

def change {α : Type} (w : ScriptWorld) (peer : Nat) (absent : α)
    (f : FileTree → Session → α × Session × FileTree) : α × ScriptWorld :=
  match w.sessions[peer]? with
  | none => (absent, w)
  | some session =>
    let (a, session, files) := f w.files session
    (a, { w with files := files, sessions := w.sessions.set peer session })

def complete (w : ScriptWorld) (peer : Nat) (purpose : Purpose) :
    Except ClientError Json × ScriptWorld :=
  w.change peer (.error .notConnected) (Session.complete purpose)

def pass (w : ScriptWorld) (milliseconds : Nat) : ScriptWorld :=
  (List.range w.sessions.length).foldl (fun w peer =>
    (w.change peer () fun files session =>
      let (session, files) := session.pass milliseconds files
      ((), session, files)).2) w

def host : Host ScriptWorld Nat where
  launch server client w :=
    match Session.start w.programs w.files w.environment w.workingDirectory w.grace server client with
    | (.ok session, files) =>
      (.ok w.sessions.length, { w with files := files, sessions := w.sessions ++ [session] })
    | (.error e, files) => (.error e, { w with files := files })
  notify peer notice w :=
    let (result, w) := w.complete peer (.notify notice.method notice.params)
    (result.map fun _ => (), w)
  request peer method params w := w.complete peer (.request method params)
  diagnostics peer uri w :=
    match w.sessions[peer]? with
    | some session => session.connection.latestDiagnostics uri
    | none => []
  store peer event w :=
    (w.change peer () fun files session =>
      ((), { session with connection := session.connection.store event }, files)).2
  stop peer w :=
    let (result, w) := w.complete peer .shutdown
    (result.map fun _ => (), w)

end ScriptWorld

end LanguageClient
