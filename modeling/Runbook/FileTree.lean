import Runbook.Path
import Runbook.Text.Utf8

/-! A tree of files, directories and symbolic links, as a finite map from places to what
stands there. The root is a directory in every tree. -/
namespace Runbook

/-- The names that lead from the root to a place. -/
abbrev Location := List Text

namespace Location

def path (location : Location) : Text := '/' :: Text.joined ['/'] location

end Location

inductive Entry
  | file (bytes : Bytes)
  | directory
  | link (target : Text)
  deriving DecidableEq, Repr

structure FileTree where
  entries : List (Location × Entry) := []
  deriving DecidableEq, Repr

namespace FileTree

def get? (tree : FileTree) (location : Location) : Option Entry :=
  if location = [] then some .directory
  else (tree.entries.find? fun known => known.1 = location).map Prod.snd

def erase (tree : FileTree) (location : Location) : FileTree :=
  ⟨tree.entries.filter fun known => known.1 ≠ location⟩

/-- Replaces what stood at the place. -/
def put (tree : FileTree) (location : Location) (entry : Entry) : FileTree :=
  ⟨(location, entry) :: (tree.erase location).entries⟩

@[simp] theorem get?_root (tree : FileTree) : tree.get? [] = some .directory := by
  simp [get?]

/-- Erasing changes one place, unless it is the root. -/
theorem get?_erase (tree : FileTree) (location other : Location) (named : location ≠ []) :
    (tree.erase location).get? other = if other = location then none else tree.get? other := by
  by_cases root : other = []
  · simp [get?, root, Ne.symm named]
  · simp only [get?, if_neg root, erase, List.find?_filter]
    by_cases same : other = location
    · subst same
      simp
    · simp only [if_neg same]
      congr 2
      funext known
      by_cases here : known.1 = other
      · simp [here, same]
      · simp [here]

/-- Putting changes one place, unless it is the root. -/
theorem get?_put (tree : FileTree) (location other : Location) (entry : Entry)
    (named : location ≠ []) :
    (tree.put location entry).get? other =
      if other = location then some entry else tree.get? other := by
  by_cases same : other = location
  · subst same
    simp [get?, put, named]
  · have kept := tree.get?_erase location other named
    simp only [if_neg same] at kept ⊢
    rw [← kept]
    by_cases root : other = []
    · simp [root]
    · simp [get?, put, root, Ne.symm same]

end FileTree
end Runbook
