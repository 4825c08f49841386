import LanguageClient.Client.Documents
import LanguageClient.Client.Lifecycle
import LanguageClient.Program.Commands
import LanguageClient.Session.Host

/-!
A machine on which the command line runs: the world in which it starts servers, at most one client,
and the text that was printed.
-/
namespace LanguageClient

structure Machine where
  world : ScriptWorld
  client : Option (Client ScriptWorld Nat)
  printed : String

namespace Machine

def withClient {α : Type} (m : Machine)
    (f : Client ScriptWorld Nat → Except ClientError α × Client ScriptWorld Nat) :
    Except ClientError α × Machine :=
  match m.client with
  | none => (.error .notStarted, m)
  | some client =>
    let (result, client) := f { client with world := m.world }
    (result, { m with client := some client, world := client.world })

def changeFiles (m : Machine) (changed : Except IoFailure FileTree) : Except IoFailure Unit × Machine :=
  match changed with
  | .ok files => (.ok (), { m with world := { m.world with files := files } })
  | .error e => (.error e, m)

def handle (action : Action) (m : Machine) : action.Answer × Machine :=
  let files := m.world.files
  let directory := m.world.workingDirectory
  match action with
  | .exists path => (files.leadsSomewhere directory path, m)
  | .readText path => (files.readText directory path, m)
  | .canonicalPath path => (files.canonical directory path, m)
  | .writeText path text => m.changeFiles (files.write directory path (Frame.bytesOf text))
  | .makeDirectories path => m.changeFiles (files.makeDirectories directory path)
  | .startServer settings root =>
    let world := { m.world with grace := 1000 * settings.shutdownTimeout.toNat }
    { m with client := some (.new settings root world), world := world }.withClient
      fun c => c.start ScriptWorld.host
  | .openDocument document => m.withClient fun c => c.openDocument ScriptWorld.host document
  | .refreshDependencies document =>
    m.withClient fun c => c.refreshDependencies ScriptWorld.host document
  | .askGoal uri position => m.withClient fun c => c.goalAt ScriptWorld.host uri position
  | .wait milliseconds => ((), { m with world := m.world.pass milliseconds })
  | .publishedDiagnostics uri =>
    m.withClient fun c => (c.publishedDiagnostics ScriptWorld.host uri, c)
  | .stopServer => m.withClient fun c => c.stop ScriptWorld.host
  | .print text => ((), { m with printed := m.printed ++ text })

def run {α : Type} (m : Machine) (program : Program α) : α × Machine := program.run handle m

end Machine

end LanguageClient
