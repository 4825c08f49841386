import LanguageClient.Message

/-!
What can go wrong: failures of the operating system, of the client and of its configuration, each
with the text that is shown for it.
-/
namespace LanguageClient

inductive IoFailure where
  | notFound
  | permissionDenied
  | alreadyExists
  | notADirectory
  | isADirectory
  | directoryNotEmpty
  | invalidArgument
  | badDescriptor
  | brokenPipe
  | interrupted
  | filesystemLoop
  | nameTooLong
  | notExecutable
  | nulCharacter
  | invalidText
  | other (message : String)
  deriving DecidableEq, Repr

namespace IoFailure

private def numbered (text : String) (number : Nat) : String :=
  text ++ " (os error " ++ toString number ++ ")"

def message : IoFailure → String
  | .notFound => numbered "No such file or directory" 2
  | .permissionDenied => numbered "Permission denied" 13
  | .alreadyExists => numbered "File exists" 17
  | .notADirectory => numbered "Not a directory" 20
  | .isADirectory => numbered "Is a directory" 21
  | .directoryNotEmpty => numbered "Directory not empty" 39
  | .invalidArgument => numbered "Invalid argument" 22
  | .badDescriptor => numbered "Bad file descriptor" 9
  | .brokenPipe => numbered "Broken pipe" 32
  | .interrupted => numbered "Interrupted system call" 4
  | .filesystemLoop => numbered "Too many levels of symbolic links" 40
  | .nameTooLong => numbered "File name too long" 36
  | .notExecutable => numbered "Exec format error" 8
  | .nulCharacter => "file name contained an unexpected NUL byte"
  | .invalidText => "stream did not contain valid UTF-8"
  | .other message => message

end IoFailure

inductive ClientError where
  | notStarted
  | serverStart (reason : String)
  | notConnected
  | serverTerminated
  | serverError (code : Int32) (message : String)
  | shutdown (reason : String)
  | protocol (reason : String)
  | io (failure : IoFailure)
  | json (message : String)
  deriving DecidableEq, Repr

namespace ClientError

def message : ClientError → String
  | .notStarted => "Language server is not started"
  | .serverStart reason => "Failed to start server: " ++ reason
  | .notConnected => "Server not connected"
  | .serverTerminated => "Language server terminated unexpectedly"
  | .serverError code message => "Server error [" ++ toString code.toInt ++ "]: " ++ message
  | .shutdown reason => "Failed to stop server: " ++ reason
  | .protocol reason => "Protocol error: " ++ reason
  | .io failure => failure.message
  | .json message => message

def code : ClientError → Int32
  | .serverError code _ => code
  | .serverTerminated => ErrorCode.serverTerminated
  | .notStarted => ErrorCode.serverNotInitialized
  | .notConnected => ErrorCode.serverNotInitialized
  | _ => -32000

def isPrecondition : ClientError → Bool
  | .notStarted => true
  | _ => false

def isTransport : ClientError → Bool
  | .notStarted => false
  | .shutdown _ => false
  | _ => true

def ofResponse (e : ResponseError) : ClientError := .serverError e.code e.message

end ClientError

inductive SettingsError where
  | malformed (text : String)
  | notFound (text : String)
  | invalidValue (key message : String)
  | io (failure : IoFailure)
  deriving DecidableEq, Repr

def SettingsError.message : SettingsError → String
  | .malformed text => "Config parse error: " ++ text
  | .notFound text => text
  | .invalidValue key message => "Invalid value for '" ++ key ++ "': " ++ message
  | .io failure => failure.message

end LanguageClient
