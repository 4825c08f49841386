import LanguageClient.Emitter
import LanguageClient.Failure
import LanguageClient.Log
import LanguageClient.Notice
import LanguageClient.Selector
import LanguageClient.Settings

/-!
The state of a client: at most one connection in use, the documents that are open, and the
listeners. A client works with a `Host`, which starts servers and hands out connections to them;
everything that happens between the two, and everything that listeners hear, is written down in the
client's history in the order in which it happens. The log is read off the history.
-/
namespace LanguageClient

/-- What starts servers and carries messages to them. `W` is the state of the world outside the
client and `P` tells connections apart. -/
structure Host (W P : Type) where
  launch : ServerOptions → ClientOptions → W → Except ClientError P × W
  /-- Hands over a notice; it is delivered if and only if it is accepted. -/
  notify : P → Notice → W → Except ClientError Unit × W
  request : P → (method : String) → (params : Json) → W → Except ClientError Json × W
  diagnostics : P → (uri : String) → W → List Diagnostic
  store : P → DiagnosticEvent → W → W
  /-- Ends a connection, which is of no more use even if this fails. -/
  stop : P → W → Except ClientError Unit × W

structure OpenDocument where
  languageId : String
  version : Int32
  text : String
  deriving DecidableEq, Repr

namespace OpenDocument

def toDocument (uri : String) (d : OpenDocument) : TextDocument :=
  ⟨uri, d.languageId, d.version, d.text⟩

end OpenDocument

inductive Happening (P : Type) where
  | launching (server : ServerOptions)
  | launched (peer : P) (server : ServerOptions) (options : ClientOptions)
  | launchFailed (error : ClientError)
  | stopping (id : Nat) (peer : P)
  | stopped (id : Nat) (peer : P) (result : Except ClientError Unit)
  | started (id : Nat)
  | delivered (peer : P) (notice : Notice)
  | refused (peer : P) (notice : Notice) (error : ClientError)
  | asked (peer : P) (method : String) (params : Json)
  | reopenFailed (uri : String) (error : ClientError)
  | reopened (count : Nat)
  | refreshing (uri : String)
  | opened (uri : String)
  | changed (uri : String) (version : Int32)
  | closed (uri : String)
  | published (peer : P) (event : DiagnosticEvent)
  /-- A listener hears of a start; what it sees of the client is written down with it. -/
  | heardRestart (listener : String) (isStarted : Bool) (connection : Option Nat)
  | heardDiagnostics (listener : String) (event : DiagnosticEvent)

structure Client (W P : Type) where
  settings : ServerSettings
  root : String
  selector : List DocumentFilter
  isStarted : Bool
  active : Option (Nat × P)
  /-- The number of the next connection; a client is taken to make fewer than 2^64 of them. -/
  nextId : Nat
  documents : Table OpenDocument
  restarted : Emitter String
  diagnostics : Emitter String
  history : List (Happening P)
  world : W

namespace Client

variable {W P : Type}

def clientId : String := "lean4"

def clientName : String := "Lean 4"

def logDirectoryKey : String := "LEAN_SERVER_LOG_DIR"

def new (settings : ServerSettings) (root : String) (world : W) : Client W P where
  settings := settings
  root := root
  selector := [⟨some "file", some leanLanguage⟩]
  isStarted := false
  active := none
  nextId := 1
  documents := []
  restarted := Emitter.empty
  diagnostics := Emitter.empty
  history := []
  world := world

def connectionId (c : Client W P) : Option Nat := c.active.map Prod.fst

def selects (c : Client W P) (d : TextDocument) : Bool := c.selector.any (·.selects d)

def documentVersion (c : Client W P) (uri : String) : Option Int32 :=
  (c.documents.get? uri).map OpenDocument.version

def serverOptions (c : Client W P) : ServerOptions :=
  let options := ((ServerOptions.new c.settings.executablePath).argument "--server").inDirectory c.root
  match c.settings.loggingDirectory? with
  | some path => options.setVariable logDirectoryKey path
  | none => options

/-- What a launch is told about the client. The middleware hands every event on unchanged; the
listeners hear it after that. -/
def clientOptions (c : Client W P) : ClientOptions :=
  ⟨clientId, clientName, c.selector, some fun event => [event]⟩

def note (c : Client W P) (h : Happening P) : Client W P := { c with history := c.history ++ [h] }

def peer? (c : Client W P) : Except ClientError P :=
  match c.active with
  | some (_, peer) => .ok peer
  | none => .error .notStarted

def notify (host : Host W P) (c : Client W P) (peer : P) (notice : Notice) :
    Except ClientError Unit × Client W P :=
  match host.notify peer notice c.world with
  | (.ok (), world) => (.ok (), { c with world := world }.note (.delivered peer notice))
  | (.error e, world) => (.error e, { c with world := world }.note (.refused peer notice e))

def onRestarted (c : Client W P) (listener : String) : Client W P × ListenerId :=
  let (emitter, id) := c.restarted.subscribe listener
  ({ c with restarted := emitter }, id)

def removeRestarted (c : Client W P) (id : ListenerId) : Client W P × Bool :=
  let (emitter, removed) := c.restarted.unsubscribe id
  ({ c with restarted := emitter }, removed)

def onDiagnostics (c : Client W P) (listener : String) : Client W P × ListenerId :=
  let (emitter, id) := c.diagnostics.subscribe listener
  ({ c with diagnostics := emitter }, id)

def removeDiagnostics (c : Client W P) (id : ListenerId) : Client W P × Bool :=
  let (emitter, removed) := c.diagnostics.unsubscribe id
  ({ c with diagnostics := emitter }, removed)

def hear (c : Client W P) (peer : P) (event : DiagnosticEvent) : Client W P :=
  c.diagnostics.audience.foldl (fun c listener => c.note (.heardDiagnostics listener event))
    (c.note (.published peer event))

/-- A connection, be it in use or not, receives diagnostics: it stores what the middleware hands
on, and the listeners hear the event. -/
def publish (host : Host W P) (c : Client W P) (peer : P) (event : DiagnosticEvent) :
    Client W P :=
  let world := (c.clientOptions.deliver event).foldl (fun w e => host.store peer e w) c.world
  { c with world := world }.hear peer event

end Client

namespace Happening

variable {P : Type}

def connectionText (id : Nat) : String := "(connection #" ++ toString id ++ ")"

def log? : Happening P → Option LogEntry
  | .launching server =>
    some ⟨.info, "Starting " ++ Client.clientName ++ " server: " ++ server.command ++ " " ++
      " ".intercalate server.arguments⟩
  | .stopping id _ =>
    some ⟨.info, "Stopping " ++ Client.clientName ++ " server " ++ connectionText id⟩
  | .stopped _ _ (.error e) =>
    some ⟨.warn, Client.clientName ++ " server did not stop cleanly: " ++ e.message⟩
  | .started id => some ⟨.info, Client.clientName ++ " server started " ++ connectionText id⟩
  | .reopenFailed uri e => some ⟨.warn, "Failed to reopen " ++ uri ++ ": " ++ e.message⟩
  | .reopened (n + 1) => some ⟨.debug, "Reopened " ++ toString (n + 1) ++ " documents"⟩
  | .refreshing uri => some ⟨.debug, "Refreshing file dependencies of " ++ uri⟩
  | .opened uri => some ⟨.debug, "Opened " ++ uri⟩
  | .changed uri version =>
    some ⟨.debug, "Changed " ++ uri ++ " (version " ++ toString version.toInt ++ ")"⟩
  | .closed uri => some ⟨.debug, "Closed " ++ uri⟩
  | _ => none

def liveChange : Happening P → Int
  | .launched _ _ _ => 1
  | .stopped _ _ _ => -1
  | _ => 0

end Happening

namespace Client

variable {W P : Type}

def log (c : Client W P) : List LogEntry := c.history.filterMap Happening.log?

/-- The number of connections that were launched and not yet stopped. -/
def liveCount (history : List (Happening P)) : Int :=
  history.foldl (fun live h => live + h.liveChange) 0

def mostLive (history : List (Happening P)) : Int :=
  (history.foldl (fun (live, most) h =>
    (live + h.liveChange, max most (live + h.liveChange))) ((0 : Int), (0 : Int))).2

end Client

end LanguageClient
