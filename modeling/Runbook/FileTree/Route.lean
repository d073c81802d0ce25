import Runbook.FileTree
import Runbook.SystemFault

/-! Where a path leads in a file tree. Names are gone through one by one: two dots lead up
from the place reached so far, and a symbolic link is replaced by its target. -/
namespace Runbook.FileTree

def nameLimit : Nat := 255

def pathLimit : Nat := 4096

/-- How many symbolic links one path may lead through. -/
def linkLimit : Nat := 40

def names (path : Text) : List Text := (Path.pieces path).filter (!·.isEmpty)

/-- Whether a path can only mean a directory. -/
def asksForDirectory (path : Text) : Bool := path.getLast? == some '/'

/-- The names to go through. A slash at the end asks for a directory, like one more dot. -/
def steps (path : Text) : List Text :=
  if asksForDirectory path then names path ++ [['.']] else names path

/-- The names that lead to the directory of a path's last name. -/
def stepsAbove (path : Text) : List Text := (names path).dropLast ++ [['.']]

/-- The start of a path: the root, or the place it is seen from. -/
def start (here : Location) (path : Text) : Location := if Path.isAbsolute path then [] else here

/-- What becomes of a link that the last name leads to. -/
inductive Ending
  /-- The link itself is meant. -/
  | kept
  | followed
  /-- It is followed to a file that may still have to be made, which a target that asks for a
  directory rules out. -/
  | made
  deriving DecidableEq, Repr

/-- Goes on by some names, through a number of links at most. The last name may lead
nowhere yet. -/
def walk (tree : FileTree) (ending : Ending) (links : Nat) (here : Location) :
    List Text → Except SystemFault Location
  | [] => .ok here
  | name :: more =>
    if name = ['.'] then walk tree ending links here more
    else if name = ['.', '.'] then walk tree ending links here.dropLast more
    else if nameLimit < Text.utf8Length name then .error .nameTooLong
    else match tree.get? (here ++ [name]) with
      | some .directory => walk tree ending links (here ++ [name]) more
      | some (.link target) =>
        if more.isEmpty && ending == .kept then .ok (here ++ [name])
        else match links with
          | 0 => .error .tooManyLinks
          | links + 1 =>
            if more.isEmpty && ending == .made && asksForDirectory target then do
              let _ ← walk tree .followed links (start here target) (stepsAbove target)
              .error .isDirectory
            else walk tree ending links (start here target) (steps target ++ more)
      | some (.file _) => if more.isEmpty then .ok (here ++ [name]) else .error .notDirectory
      | none => if more.isEmpty then .ok (here ++ [name]) else .error .missing
termination_by names => (links, names.length)

/-- Checks a path before it is gone through. -/
def check (path : Text) : Except SystemFault Unit :=
  if path.contains '\x00' then .error .zeroInName
  else if path.isEmpty then .error .missing
  else if pathLimit ≤ Text.utf8Length path then .error .nameTooLong
  else .ok ()

/-- The place of a path as seen from `here`, whether something stands there or not. -/
def locate (tree : FileTree) (here : Location) (path : Text) (ending : Ending) :
    Except SystemFault Location := do
  check path
  walk tree ending linkLimit (start here path) (steps path)

/-- What stands at the end of a path and of the links there. -/
def find (tree : FileTree) (here : Location) (path : Text) :
    Except SystemFault (Location × Entry) := do
  let location ← tree.locate here path .followed
  match tree.get? location with
  | some entry => .ok (location, entry)
  | none => .error .missing

def reaches (tree : FileTree) (here : Location) (path : Text) : Bool :=
  (tree.find here path).isOk

def isDirectory (tree : FileTree) (here : Location) (path : Text) : Bool :=
  match tree.find here path with
  | .ok (_, .directory) => true
  | _ => false

/-- A place as its directory and its name there. A root has the name of a single dot. -/
structure Slot where
  directory : Location
  name : Text
  deriving DecidableEq, Repr

namespace Slot

/-- One or two dots name a directory that is there already. -/
def isDots (slot : Slot) : Bool := slot.name == ['.'] || slot.name == ['.', '.']

def location (slot : Slot) : Location := slot.directory ++ [slot.name]

end Slot

/-- The place of a path's last name, in a directory that must be there. -/
def slot (tree : FileTree) (here : Location) (path : Text) : Except SystemFault Slot := do
  check path
  let directory ← walk tree .followed linkLimit (start here path) (stepsAbove path)
  .ok ⟨directory, (names path).getLastD ['.']⟩

theorem bind_ne_error {α β : Type} {first : Except SystemFault α}
    {next : α → Except SystemFault β} {fault : SystemFault} (passed : first ≠ .error fault)
    (after : ∀ value, next value ≠ .error fault) : first >>= next ≠ .error fault := by
  cases first with
  | error other => simpa [bind, Except.bind] using passed
  | ok value => exact after value

theorem check_ne_denied {path : Text} : check path ≠ .error .denied := by
  unfold check
  split
  · simp
  · split
    · simp
    · split <;> simp

theorem walk_ne_denied {tree : FileTree} {ending : Ending} {links : Nat} {here : Location}
    {names : List Text} : tree.walk ending links here names ≠ .error .denied := by
  fun_induction walk tree ending links here names with
  | case8 =>
    -- A file is to be made through a target that asks for a directory.
    rename_i above
    exact bind_ne_error above fun _ => by simp
  | _ => simp_all

theorem slot_ne_denied {tree : FileTree} {here : Location} {path : Text} :
    tree.slot here path ≠ .error .denied :=
  bind_ne_error check_ne_denied fun _ => bind_ne_error walk_ne_denied fun _ => by simp

end Runbook.FileTree
