import LanguageClient.Posix.Process.Image
import LanguageClient.Session.Basic
import LanguageClient.Selector

/-!
Launching a server: its program is found as the command names it, run in its directory, and greeted.
A server that does not answer the greeting as it should is killed. What the programs of the system do
is given as the process of each, `programs`.
-/
namespace LanguageClient

namespace Launch

def holdsNul (server : ServerOptions) : Bool :=
  let texts := server.command :: server.arguments ++ server.directory.toList ++
    server.environment.flatMap fun (key, value) => [key, value]
  texts.any fun text => text.toList.contains '\x00'

/-- The program of a server and where it runs. A command without separators is looked for in the
directories of the search path. Only if the server is given a search path of its own, a file that
does not say what runs it is run by the shell. -/
def findImage (files : FileTree) (environment : Table String) (directory : String)
    (server : ServerOptions) : Except IoFailure (Image × String) := do
  match ← files.locate true "/" directory with
  | ⟨names, some .directory⟩ =>
    let place := FileTree.pathOf names
    let environment := Table.extend environment server.environment
    let asScript := (server.environment.get? "PATH").isSome && !server.command.toList.contains '/'
    let (program, arguments) ← Image.find asScript files place
      ((environment.get? "PATH").map Shell.Text.ofString) (Shell.Text.ofString server.command)
      (server.arguments.map Shell.Text.ofString)
    .ok (⟨program, arguments,
      environment.map fun (key, value) => (key, Shell.Text.ofString value)⟩, place)
  | ⟨_, some _⟩ => .error .notADirectory
  | ⟨_, none⟩ => .error .notFound

def start (programs : Image → Process) (files : FileTree) (environment : Table String)
    (directory : String) (server : ServerOptions) : Except String System :=
  if holdsNul server then .error "nul byte found in provided data"
  else
    match findImage files environment directory server with
    | .error failure => .error failure.message
    | .ok (image, place) => .ok (System.start files place (programs image))

end Launch

namespace Session

/-- Launches a server that is run from a working directory, with this much time for its shutdown, in
milliseconds. -/
def start (programs : Image → Process) (files : FileTree) (environment : Table String)
    (workingDirectory : String) (grace : Nat) (server : ServerOptions) (client : ClientOptions) :
    Except ClientError Session × FileTree :=
  let directory := match server.directory with
    | none => workingDirectory
    | some "" => ""
    | some path => Path.join workingDirectory path
  match Launch.start programs files environment directory server with
  | .error reason => (.error (.serverStart (server.command ++ ": " ++ reason)), files)
  | .ok system =>
    let connection := { Connection.connect client grace with process := .running }
    let greeting := Purpose.handshake 1
      (some (Uri.ofPath workingDirectory (server.directory.getD workingDirectory)))
    match complete greeting files ⟨connection, system, 0⟩ with
    | (.ok _, session, files) => (.ok session, files)
    | (.error e, session, files) =>
      (.error (.serverStart (server.command ++ " initialize failed: " ++ e.message)),
        (kill files session).2)

end Session

end LanguageClient
