import Runbook.Duration
import Runbook.Invocation
import Runbook.Machine
import Runbook.Outcome

/-! Running an invocation: the commands are tried in order, and the first program that is
found runs the block or is a failure. -/
namespace Runbook.Interpreter

/-- The last line on standard error of a program that was stopped. -/
def timeLimitNote (stderr : Text) (limit : Duration) : Text :=
  (if stderr.isEmpty || Text.endsLine stderr then stderr else stderr ++ ['\n']) ++
    "timed out after ".toList ++ limit.render

/-- A program that hangs is stopped at the time limit. -/
def outcome (limit : Option Duration) (reaction : Reaction) : Outcome :=
  let stderr := Utf8.decodeLossy reaction.stderr
  { stdout := Utf8.decodeLossy reaction.stdout
    stderr :=
      match limit with
      | some limit => if reaction.hangs then timeLimitNote stderr limit else stderr
      | none => stderr
    exitCode := if reaction.hangs then none else reaction.exitCode.map fun code => code.toNat }

def refusal (language : Language) (program : Text) (fault : SystemFault) : Failure :=
  .execution ("failed to start '".toList ++ program ++ "' for '".toList ++ language.name ++
    "' block: ".toList ++ fault.message ++ "\nFix: check that '".toList ++ program ++
    "' is executable.".toList)

def programs (candidates : List (List Text)) : List Text := candidates.filterMap List.head?

def missing (language : Language) (candidates : List (List Text)) : Failure :=
  .missingInterpreter language.name (Text.joined " or " (programs candidates))

/-- Tries the commands in order. The failure to find any is the given one. -/
def tryAll (limit : Option Duration) (language : Language) (directory stdin : Text)
    (exhausted : Failure) : List (List Text) → Machine → Except Failure Outcome × Machine
  | [], machine => (.error exhausted, machine)
  | [] :: more, machine => tryAll limit language directory stdin exhausted more machine
  | (program :: arguments) :: more, machine =>
    match machine.start directory program arguments stdin with
    | .error .missing => tryAll limit language directory stdin exhausted more machine
    | .error fault => (.error (refusal language program fault), machine)
    | .ok (reaction, machine) => (.ok (outcome limit reaction), machine)

def run (limit : Option Duration) (language : Language) (directory : Text)
    (invocation : Invocation) (machine : Machine) : Except Failure Outcome × Machine :=
  tryAll limit language directory (invocation.stdin.getD [])
    (missing language invocation.candidates) invocation.candidates machine

end Runbook.Interpreter
