import Runbook.Session

/-! A document in a file: it is read, run through a pass in its own directory, and written
back if that has changed it. A pass that fails does not touch the file. -/
namespace Runbook.DocumentFile

structure Options where
  timeLimit : Option Duration := none
  /-- Where plans are submitted, if they are. -/
  endpoint : Option Text := none
  deriving DecidableEq, Repr

/-- A document that has been read. Its path has no links in it. -/
structure Opened where
  location : Location
  text : Text
  deriving DecidableEq, Repr

namespace Opened

def path (document : Opened) : Text := document.location.path

def directory (document : Opened) : Text := (Path.parent? document.path).getD ['/']

end Opened

def quoted (path : Text) : Text := '\x27' :: path ++ ['\x27']

/-- Reads a file that must be there, regular and in UTF-8. -/
def read (machine : Machine) (file : Text) : Except Failure Opened :=
  match machine.tree.find machine.here file with
  | .error _ =>
    .error (.user ("file not found: ".toList ++ quoted file ++
      "\nFix: check the path and try again.".toList))
  | .ok (location, .file bytes) =>
    match Utf8.decode? bytes with
    | some text => .ok ⟨location, text⟩
    | none =>
      .error (.user (quoted location.path ++
        " is not valid UTF-8\nFix: convert the file to UTF-8 first.".toList))
  | .ok _ => .error (.user (quoted file ++ " is not a regular file".toList))

/-- The pass over a document, in a session of its own. -/
def pass (options : Options) (document : Opened) (machine : Machine) : Run Session :=
  Pass.ofDocument (Session.services document.directory options.endpoint)
    { machine, timeLimit := options.timeLimit } document.text

/-- Writes a document back, if it has changed. -/
def writeBack (document : Opened) (text : Text) (machine : Machine) :
    Except Failure Unit × Machine :=
  if text = document.text then (.ok (), machine)
  else machine.save document.path (Utf8.encode text)

def process (options : Options) (file : Text) (machine : Machine) :
    Except Failure Unit × Machine :=
  match read machine file with
  | .error failure => (.error failure, machine)
  | .ok document =>
    let run := pass options document machine
    match run.result with
    | .error failure => (.error failure, run.state.machine)
    | .ok text => writeBack document text run.state.machine

end Runbook.DocumentFile
