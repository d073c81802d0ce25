import Runbook.AtomicWrite

/-! The machine that blocks run on: its files, the programs on its search path, and a record
of every start. A program is known by its reactions; it reads all of its standard input, and
the only file it writes is the one that follows `-o` in its arguments. -/
namespace Runbook

/-- What a program gets to see of a start. -/
structure Call where
  arguments : List Text
  stdin : Text
  /-- The content of the first argument that names a file. -/
  script : Option Text
  deriving DecidableEq, Repr

structure Reaction where
  stdout : Bytes := []
  stderr : Bytes := []
  /-- None if a signal ends the program. -/
  exitCode : Option UInt8 := some 0
  /-- For the file that the program is asked to write. -/
  output : Option Bytes := none
  /-- The program does not end by itself. -/
  hangs : Bool := false
  deriving DecidableEq, Repr

namespace Reaction

def isSuccess (reaction : Reaction) : Bool := !reaction.hangs && reaction.exitCode == some 0

end Reaction

inductive Program
  /-- It is there but may not be started. -/
  | locked
  | runnable (react : Call → Reaction)

structure Start where
  program : Text
  call : Call
  directory : Location
  /-- Whether the program came to an end by itself. -/
  finished : Bool
  deriving DecidableEq, Repr

structure Machine where
  tree : FileTree := {}
  /-- The directory that relative paths are seen from. -/
  here : Location := []
  programs : Text → Option Program := fun _ => none
  environment : Text → Option Text := fun _ => none
  /-- The service's answer to a plan, at an endpoint. -/
  planService : Text → Text → Option Text := fun _ _ => none
  /-- Parts of names that come out differently each time, and times of day. -/
  tokens : Nat → Text := Text.ofNat
  times : Nat → Text := Text.ofNat
  /-- How many tokens and times have been used up. -/
  drawn : Nat := 0
  starts : List Start := []

namespace Machine

def script? (tree : FileTree) (directory : Location) (arguments : List Text) : Option Text :=
  arguments.findSome? fun argument =>
    match tree.find directory argument with
    | .ok (_, .file bytes) => some (Utf8.decodeLossy bytes)
    | _ => none

/-- The argument after the first `-o`. -/
def outputArgument? : List Text → Option Text
  | [] => none
  | argument :: more => if argument == ['-', 'o'] then more.head? else outputArgument? more

/-- The files after a program has reacted. -/
def afterwards (tree : FileTree) (directory : Location) (arguments : List Text)
    (reaction : Reaction) : FileTree :=
  match reaction.output, outputArgument? arguments with
  | some bytes, some path => (tree.write directory path bytes).toOption.getD tree
  | _, _ => tree

/-- The place a program is started in. -/
def enter (machine : Machine) (directory : Text) : Except SystemFault Location :=
  match machine.tree.find machine.here directory with
  | .ok (location, .directory) => .ok location
  | .ok _ => .error .notDirectory
  | .error .zeroInName => .error .zeroInArgument
  | .error fault => .error fault

/-- Starts a program in a directory and waits for it. A start that is refused leaves no
trace. -/
def start (machine : Machine) (directory program : Text) (arguments : List Text) (stdin : Text) :
    Except SystemFault (Reaction × Machine) :=
  if arguments.any fun argument => argument.contains '\x00' then .error .zeroInArgument
  else match machine.enter directory with
    | .error fault => .error fault
    | .ok location =>
      match machine.programs program with
      | none => .error .missing
      | some .locked => .error .denied
      | some (.runnable react) =>
        let call : Call := ⟨arguments, stdin, script? machine.tree location arguments⟩
        let reaction := react call
        .ok (reaction, { machine with
          tree := afterwards machine.tree location arguments reaction
          starts := machine.starts ++ [⟨program, call, location, !reaction.hangs⟩] })

def token (machine : Machine) : Text × Machine :=
  (machine.tokens machine.drawn, { machine with drawn := machine.drawn + 1 })

def time (machine : Machine) : Text × Machine :=
  (machine.times machine.drawn, { machine with drawn := machine.drawn + 1 })

/-- Writes a file as a whole or not at all. -/
def save (machine : Machine) (path : Text) (bytes : Bytes) : Except Failure Unit × Machine :=
  let (result, tree) := AtomicWrite.write machine.here path bytes machine.tree
  (result, { machine with tree })

end Machine
end Runbook
