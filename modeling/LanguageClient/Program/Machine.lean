import LanguageClient.Posix.Process.Program
import LanguageClient.Program.Handler

/-!
The machine on which scripts stand in for servers: its programs are a shell and the utilities that
shell scripts use.
-/
namespace LanguageClient

def Session.launch (files : FileTree) (environment : Table String) (workingDirectory : String)
    (grace : Nat) (server : ServerOptions) (client : ClientOptions) :
    Except ClientError Session × FileTree :=
  start Image.toProcess files environment workingDirectory grace server client

/-- Such a machine with files and variables, on which nothing has run. -/
def Machine.new (files : FileTree) (environment : Table String) (workingDirectory : String) : Machine :=
  ⟨⟨Image.toProcess, files, environment, workingDirectory, 0, []⟩, none, ""⟩

end LanguageClient
