import Runbook.CommandLine.Report

/-! The program. It carries out its command line on a machine that holds the document as it
is on disk, and writes the document back if that has changed it. No interpreters are on that
machine: a document whose blocks all have their results is done, and for any other the
interpreter that is asked for first is reported as missing. -/
namespace Runbook

/-- A document on disk: its place without links, and its content if it is a regular file. -/
structure Stored where
  location : Location
  content : Option Bytes

def stored? (file : Text) : IO (Option Stored) := do
  try
    let path ← IO.FS.realPath (String.ofList file)
    let location := FileTree.names path.toString.toList
    if ← path.isDir then return some ⟨location, none⟩
    return some ⟨location, some (← IO.FS.readBinFile path).toList⟩
  catch _ => return none

/-- Stands the document in its place, with a link to it where it was asked for. -/
def withDocument (tree : FileTree) (here : Location) (file : Text) (stored : Stored) : FileTree :=
  let path := stored.location.path
  let made (tree : FileTree) (path : Text) := (tree.makeDirectories here path).2
  match stored.content with
  | none => made tree path
  | some bytes =>
    let tree := made tree ((Path.parent? path).getD [])
    let tree := (tree.write here path bytes).toOption.getD tree
    if tree.reaches here file then tree
    else
      let tree := made tree ((Path.parent? file).getD [])
      (tree.create here file (.link path)).toOption.getD tree

/-- Writes the document to disk if it differs from what was read. -/
def store (stored : Stored) (tree : FileTree) : IO Unit :=
  match tree.get? stored.location with
  | some (.file bytes) =>
    if some bytes = stored.content then pure ()
    else IO.FS.writeBinFile (String.ofList stored.location.path) ⟨bytes.toArray⟩
  | _ => pure ()

end Runbook

open Runbook in
def main (arguments : List String) : IO UInt32 := do
  let arguments := arguments.map String.toList
  let here : Location := FileTree.names (← IO.currentDir).toString.toList
  let tree := (FileTree.makeDirectories {} [] here.path).2
  let file := (CommandLine.parse arguments).toOption.map CommandLine.file
  let stored ← match file with
    | some file => stored? file
    | none => pure none
  let tree := match file, stored with
    | some file, some stored => withDocument tree here file stored
    | _, _ => tree
  let (report, machine) := CommandLine.carryOut arguments { tree, here }
  if let some stored := stored then store stored machine.tree
  if let some text := report.errorText then (← IO.getStderr).putStr (String.ofList text)
  return UInt32.ofNat report.exitCode
