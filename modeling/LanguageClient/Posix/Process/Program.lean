import LanguageClient.Posix.Shell.Invocation

/-!
The process of a program: that of a shell, or of another program of the system.
-/
namespace LanguageClient.Image

def shells : List String := ["sh", "dash", "bash"]

def toProcessWithin : (depth : Nat) → Image → Process
  | 0, _ => .ended 126
  | depth + 1, image =>
    let launch := toProcessWithin depth
    if shells.contains image.program then Shell.start launch image.environment image.arguments
    else Utility.run launch image

def toProcess (image : Image) : Process := image.toProcessWithin Act.stepLimit

end LanguageClient.Image
