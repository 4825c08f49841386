import LanguageClient.Frame
import LanguageClient.Program.Commands

/-!
The command line. Files, variables and the standard output are those of the system. No host for
servers is attached here, so a command that needs a server fails as if its program were missing.
-/
namespace LanguageClient.CommandLine

def failureOf : IO.Error → IoFailure
  | .noFileOrDirectory _ _ _ => .notFound
  | .permissionDenied _ _ _ => .permissionDenied
  | .alreadyExists _ _ _ => .alreadyExists
  | .inappropriateType _ 20 _ => .notADirectory
  | .inappropriateType _ _ _ => .isADirectory
  | .noSuchThing _ _ _ => .notFound
  | e => .other (toString e)

def attempt {α : Type} (work : IO α) : IO (Except IoFailure α) := do
  match ← work.toBaseIO with
  | .ok a => return .ok a
  | .error e => return .error (failureOf e)

def answer : (action : Action) → IO action.Answer
  | .exists path => do return (← attempt (IO.FS.realPath path)).isOk
  | .readText path => do
    match ← attempt (IO.FS.readBinFile path) with
    | .error failure => return .error failure
    | .ok content =>
      match Frame.textOf? content.toList with
      | some text => return .ok text
      | none => return .error .invalidText
  | .canonicalPath path => do
    return (← attempt (IO.FS.realPath path)).map fun found => found.toString
  | .writeText path text => attempt (IO.FS.writeFile path text)
  | .makeDirectories path => attempt (IO.FS.createDirAll path)
  | .startServer settings _ =>
    return .error (.serverStart (settings.executablePath ++ ": " ++ IoFailure.message .notFound))
  | .openDocument _ => return .error .notStarted
  | .refreshDependencies _ => return .error .notStarted
  | .askGoal _ _ => return .error .notStarted
  | .wait milliseconds => IO.sleep (UInt32.ofNat milliseconds)
  | .publishedDiagnostics _ => return .error .notStarted
  | .stopServer => return .error .notStarted
  | .print text => IO.print text

def readEnvironment : IO Environment := do
  let keys := Environment.keys ++ [SettingsPaths.globalKey, SettingsPaths.homeKey]
  let found ← keys.filterMapM fun key => do
    return (← IO.getEnv key).map fun value => (key, value)
  return Environment.ofTable found

def run (words : List String) : IO Nat := do
  let directory ← IO.currentDir
  let s := Surroundings.usual directory.toString (← readEnvironment)
  (Command.runLine s words).runIn answer

end LanguageClient.CommandLine

def main (words : List String) : IO UInt32 := do
  return UInt32.ofNat (← LanguageClient.CommandLine.run words)
