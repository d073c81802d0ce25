import Runbook.CommandLine
import Runbook.DocumentFile

/-! What the program reports to the one who has called it: an exit code, and the failure if
there was one. -/
namespace Runbook

structure Report where
  exitCode : Nat
  errorText : Option Text := none
  deriving DecidableEq, Repr

namespace Report

def ofFailure (failure : Failure) : Report :=
  ⟨failure.exitCode, some ("Error: ".toList ++ failure.message ++ ['\n'])⟩

end Report

namespace CommandLine

def options (line : CommandLine) : DocumentFile.Options where
  timeLimit := line.timeout.map Duration.ofSeconds
  endpoint := if line.noSubmit then none else some line.endpoint

/-- Carries out a command line. One that stops early has no effect. -/
def carryOut (arguments : List Text) (machine : Machine) : Report × Machine :=
  match parse arguments with
  | .error stop => (⟨stop.exitCode, none⟩, machine)
  | .ok line =>
    match DocumentFile.process line.options line.file machine with
    | (.ok (), machine) => (⟨0, none⟩, machine)
    | (.error failure, machine) => (.ofFailure failure, machine)

end CommandLine
end Runbook
