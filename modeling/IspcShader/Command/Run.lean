import IspcShader.Command.Arguments

/-!
A command line from its arguments to the exit code.
-/
namespace IspcShader.Command

inductive Exit where
  | success
  | help
  | failure (error : RunError)
  | usage
  deriving DecidableEq, Repr

namespace Exit

def code : Exit → Nat
  | success | help => 0
  | failure _ => 1
  | usage => 2

def complaint : Exit → Text
  | failure error => "error: " ++ error.message ++ "\n"
  | _ => []

end Exit

def run {m : Type → Type} [Monad m] (files : FileAccess m) (args : List Text) : m Exit := do
  match parse args with
  | .help => return .help
  | .rejected => return .usage
  | .run settings =>
    match ← settings.run files with
    | .ok () => return .success
    | .error error => return .failure error

end IspcShader.Command
