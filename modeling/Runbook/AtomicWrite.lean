import Runbook.Failure
import Runbook.FileTree.Change

/-! Writing a file by way of a temporary one beside it, which is then moved over it. Missing
directories above the file are made first. -/
namespace Runbook.AtomicWrite

/-- The temporary path beside a file: its name behind a dot. -/
def temporary? (path : Text) : Option Text :=
  (Path.fileName? path).map fun name =>
    Path.join ((Path.parent? path).getD ['.']) ('.' :: name ++ ".tmp".toList)

def refusal (what path : Text) (fault : SystemFault) : Failure :=
  .write ("failed to ".toList ++ what ++ " '".toList ++ path ++ "': ".toList ++ fault.message)

/-- Makes the directory above a path unless it is there. -/
def prepare (here : Location) (path : Text) (tree : FileTree) : Except Failure Unit × FileTree :=
  let parent := (Path.parent? path).getD []
  if parent.isEmpty || tree.reaches here parent then (.ok (), tree)
  else match tree.makeDirectories here parent with
    | (.ok (), tree) => (.ok (), tree)
    | (.error fault, tree) => (.error (refusal "create parent directory" parent fault), tree)

/-- Moves the temporary file to its place, or removes it. Between two devices, and where the
move is denied, the program copies the file instead. A tree is one device and has no
permissions, so no move in it is refused for either reason. -/
def settle (here : Location) (temporary path : Text) (tree : FileTree) :
    Except Failure Unit × FileTree :=
  match tree.rename here temporary path with
  | .ok tree => (.ok (), tree)
  | .error fault =>
    (.error (refusal "atomically replace" path fault),
      (tree.remove here temporary).toOption.getD tree)

/-- Whatever was done where a move is denied, it would not show. -/
theorem settle_eq_of_copying (here : Location) (temporary path : Text) (tree : FileTree)
    (copied : Except Failure Unit × FileTree) :
    settle here temporary path tree =
      match tree.rename here temporary path with
      | .ok tree => (.ok (), tree)
      | .error .denied => copied
      | .error fault =>
        (.error (refusal "atomically replace" path fault),
          (tree.remove here temporary).toOption.getD tree) := by
  unfold settle
  cases moved : tree.rename here temporary path with
  | ok after => rfl
  | error fault =>
    cases fault with
    | denied => exact absurd moved FileTree.rename_ne_denied
    | _ => rfl

def write (here : Location) (path : Text) (bytes : Bytes) (tree : FileTree) :
    Except Failure Unit × FileTree :=
  match prepare here path tree with
  | (.error failure, tree) => (.error failure, tree)
  | (.ok (), tree) =>
    match temporary? path with
    | none => (.error (.write ("invalid file path '".toList ++ path ++ ['\x27'])), tree)
    | some temporary =>
      match tree.write here temporary bytes with
      | .error fault => (.error (refusal "create temporary file" temporary fault), tree)
      | .ok tree => settle here temporary path tree

end Runbook.AtomicWrite
