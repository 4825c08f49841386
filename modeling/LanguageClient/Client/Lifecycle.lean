import LanguageClient.Client.Basic

/-!
Starting and stopping. Each section below is what a call does between two points at which it may
have to wait; `restart` and `stop` are sections one after another. A stop that fails ends a restart
and still leaves the client stopped, and so does a launch that fails.
-/
namespace LanguageClient.Client

variable {W P : Type}

def beginStop (c : Client W P) (id : Nat) (peer : P) : Client W P := c.note (.stopping id peer)

def stopPeer (host : Host W P) (c : Client W P) (id : Nat) (peer : P) :
    Except ClientError Unit × Client W P :=
  let (result, world) := host.stop peer c.world
  (result, { c with world := world }.note (.stopped id peer result))

def clearActive (c : Client W P) : Client W P := { c with active := none }

def markStopped (c : Client W P) : Client W P := { c with isStarted := false }

def beginLaunch (c : Client W P) : Client W P := c.note (.launching c.serverOptions)

def launchPeer (host : Host W P) (c : Client W P) : Except ClientError (Nat × P) × Client W P :=
  match host.launch c.serverOptions c.clientOptions c.world with
  | (.ok peer, world) =>
    (.ok (c.nextId, peer), { c with world := world, nextId := c.nextId + 1 }.note
      (.launched peer c.serverOptions c.clientOptions))
  | (.error e, world) => (.error e, { c with world := world }.note (.launchFailed e))

def install (c : Client W P) (id : Nat) (peer : P) : Client W P :=
  { c with active := some (id, peer) }

def markStarted (c : Client W P) : Client W P := { c with isStarted := true }

/-- Opens one document on a connection. A document that is refused stays in the table. -/
def reopenOne (host : Host W P) (peer : P) (c : Client W P) (entry : String × OpenDocument) :
    Client W P :=
  match notify host c peer (.opened (entry.2.toDocument entry.1)) with
  | (.ok (), c) => c
  | (.error e, c) => c.note (.reopenFailed entry.1 e)

def reopen (host : Host W P) (c : Client W P) (peer : P) : Client W P :=
  let documents := c.documents.mapValues fun d => { d with version := 1 }
  (documents.foldl (reopenOne host peer) { c with documents := documents }).note
    (.reopened documents.length)

def announce (c : Client W P) (id : Nat) : Client W P :=
  c.restarted.audience.foldl
    (fun c listener => c.note (.heardRestart listener c.isStarted c.connectionId))
    (c.note (.started id))

def stopActive (host : Host W P) (c : Client W P) : Except ClientError Unit × Client W P :=
  match c.active with
  | none => (.error .notStarted, c.markStopped)
  | some (id, peer) =>
    let (result, c) := (c.beginStop id peer).stopPeer host id peer
    (result, c.clearActive.markStopped)

def launchNew (host : Host W P) (c : Client W P) : Except ClientError Unit × Client W P :=
  match c.beginLaunch.launchPeer host with
  | (.error e, c) => (.error e, c)
  | (.ok (id, peer), c) =>
    (.ok (), (((c.install id peer).markStarted).reopen host peer).announce id)

def restart (host : Host W P) (c : Client W P) : Except ClientError Unit × Client W P :=
  if c.isStarted then
    match c.stopActive host with
    | (.error e, c) => (.error e, c)
    | (.ok (), c) => c.launchNew host
  else c.launchNew host

def start (host : Host W P) (c : Client W P) : Except ClientError Unit × Client W P :=
  c.restart host

def stop (host : Host W P) (c : Client W P) : Except ClientError Unit × Client W P :=
  if c.isStarted then c.stopActive host else (.error .notStarted, c)

end LanguageClient.Client
