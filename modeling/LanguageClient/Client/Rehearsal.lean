import LanguageClient.Client.Basic

/-!
A host without servers, for trying out a client: what succeeds, what fails and what is answered is
set beforehand and can be changed at any time. Connections are numbered from zero in the order of
their launches.
-/
namespace LanguageClient.Rehearsal

structure Policy where
  failLaunch : Bool
  failStop : Bool
  failMethods : List String
  failUris : List String
  requestError : Option ClientError
  reply : Json

namespace Policy

def permissive : Policy := ⟨false, false, [], [], none, .null⟩

def refuses (p : Policy) (notice : Notice) : Bool :=
  p.failMethods.contains notice.method || p.failUris.contains notice.uri

end Policy

structure Session where
  stopped : Bool
  stored : Table (List Diagnostic)

structure World where
  policy : Policy
  sessions : List Session

namespace World

def new : World := ⟨.permissive, []⟩

def isStopped (w : World) (peer : Nat) : Bool :=
  match w.sessions[peer]? with
  | some session => session.stopped
  | none => true

def modify (w : World) (peer : Nat) (f : Session → Session) : World :=
  { w with sessions := w.sessions.modify peer f }

end World

def host : Host World Nat where
  launch server _ w :=
    if w.policy.failLaunch then
      (.error (.serverStart (server.command ++ ": No such file or directory")), w)
    else (.ok w.sessions.length, { w with sessions := w.sessions ++ [⟨false, []⟩] })
  notify peer notice w :=
    if w.isStopped peer || w.policy.refuses notice then (.error .notConnected, w) else (.ok (), w)
  request _ _ _ w :=
    match w.policy.requestError with
    | some e => (.error e, w)
    | none => (.ok w.policy.reply, w)
  diagnostics peer uri w :=
    match w.sessions[peer]? with
    | some session => (session.stored.get? uri).getD []
    | none => []
  store peer event w :=
    w.modify peer fun s => { s with stored := s.stored.insert event.uri event.diagnostics }
  stop peer w :=
    (if w.policy.failStop then .error (.shutdown "shutdown request timed out") else .ok (),
      w.modify peer fun s => { s with stopped := true })

end LanguageClient.Rehearsal
