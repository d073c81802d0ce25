import Runbook.Text

/-! What stops a pass. A block that runs and fails is an outcome and not a failure. -/
namespace Runbook

inductive Failure
  /-- The document or the surroundings are not usable. -/
  | user (message : Text)
  /-- None of the programs that could run the language was found. -/
  | missingInterpreter (language program : Text)
  /-- An interpreter was there and could not be driven. -/
  | execution (message : Text)
  /-- The result could not be written back. -/
  | write (message : Text)
  deriving DecidableEq, Repr

namespace Failure

def message : Failure → Text
  | .user message => message
  | .missingInterpreter language program =>
    program ++ " command not found (needed for '".toList ++ language ++
      "' blocks)\nFix: install it or make sure it is in your PATH.".toList
  | .execution message => "Execution failed: ".toList ++ message
  | .write message => "Write failed: ".toList ++ message

def exitCode : Failure → Nat
  | .user _ => 1
  | .missingInterpreter _ _ => 2
  | .execution _ => 3
  | .write _ => 4

end Failure
end Runbook
