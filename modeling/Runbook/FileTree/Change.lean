import Runbook.FileTree.Route

/-! Changes to a file tree. Each is made as a whole or refused; only the directories above
a path are made one by one, and those that were made before a refusal stay. -/
namespace Runbook.FileTree

def makeDirectory (tree : FileTree) (here : Location) (path : Text) :
    Except SystemFault FileTree := do
  let slot ← tree.slot here path
  if slot.isDots then .error .taken
  else if nameLimit < Text.utf8Length slot.name then .error .nameTooLong
  else match tree.get? slot.location with
    | some _ => .error .taken
    | none => .ok (tree.put slot.location .directory)

/-- Makes the first of some directories, each below the one after it, and those it needs. -/
def makeLineage (here : Location) : List Text → FileTree → Except SystemFault Unit × FileTree
  | [], tree => (.ok (), tree)
  | path :: above, tree =>
    match tree.makeDirectory here path with
    | .ok tree => (.ok (), tree)
    | .error .missing =>
      match makeLineage here above tree with
      | (.error fault, tree) => (.error fault, tree)
      | (.ok (), tree) =>
        match tree.makeDirectory here path with
        | .ok tree => (.ok (), tree)
        | .error fault =>
          (if tree.isDirectory here path then .ok () else .error fault, tree)
    | .error fault => (if tree.isDirectory here path then .ok () else .error fault, tree)

def makeDirectories (tree : FileTree) (here : Location) (path : Text) :
    Except SystemFault Unit × FileTree :=
  makeLineage here (Path.lineage path) tree

/-- Gives a file its content, through a link if one stands there. A file that is not there
is made. -/
def write (tree : FileTree) (here : Location) (path : Text) (bytes : Bytes) :
    Except SystemFault FileTree := do
  let location ← tree.locate here path .made
  match tree.get? location with
  | some .directory => .error .isDirectory
  | _ => .ok (tree.put location (.file bytes))

/-- Makes a new entry where nothing stands, not even a link. -/
def create (tree : FileTree) (here : Location) (path : Text) (entry : Entry) :
    Except SystemFault FileTree := do
  let location ← tree.locate here path .kept
  match tree.get? location with
  | some _ => .error .taken
  | none => .ok (tree.put location entry)

/-- Moves a file or a link to another place and over what stands there, but not over a
directory. Both must be written as a name and not as a directory. -/
def rename (tree : FileTree) (here : Location) (source target : Text) :
    Except SystemFault FileTree := do
  let origin ← tree.slot here source
  let goal ← tree.slot here target
  if origin.isDots || goal.isDots then .error .busy
  else if nameLimit < Text.utf8Length origin.name then .error .nameTooLong
  else match tree.get? origin.location with
    | none => .error .missing
    | some moved =>
      if nameLimit < Text.utf8Length goal.name then .error .nameTooLong
      else if asksForDirectory target then .error .notDirectory
      else if moved == .directory || tree.get? goal.location == some .directory then
        .error .isDirectory
      else .ok ((tree.erase origin.location).put goal.location moved)

/-- Removes a file or a link. -/
def remove (tree : FileTree) (here : Location) (path : Text) : Except SystemFault FileTree := do
  let location ← tree.locate here path .kept
  match tree.get? location with
  | none => .error .missing
  | some .directory => .error .isDirectory
  | some _ => .ok (tree.erase location)

theorem makeDirectory_slot {tree after : FileTree} {here : Location} {path : Text}
    (made : tree.makeDirectory here path = .ok after) :
    ∃ slot, tree.slot here path = .ok slot ∧ slot.isDots = false ∧
      Text.utf8Length slot.name ≤ nameLimit ∧ tree.get? slot.location = none ∧
      after = tree.put slot.location .directory := by
  simp only [makeDirectory, bind, Except.bind] at made
  split at made
  · cases made
  · rename_i slot found
    split at made
    · cases made
    · rename_i named
      split at made
      · cases made
      · rename_i short
        split at made
        · cases made
        · rename_i nothing
          cases made
          exact ⟨slot, found, by simpa using named, by omega, nothing, rfl⟩

theorem write_origin {tree after : FileTree} {here : Location} {path : Text} {bytes : Bytes}
    (written : tree.write here path bytes = .ok after) :
    ∃ location, tree.locate here path .made = .ok location ∧
      tree.get? location ≠ some .directory ∧ after = tree.put location (.file bytes) := by
  simp only [write, bind, Except.bind] at written
  split at written
  · cases written
  · rename_i location located
    split at written
    · cases written
    · rename_i other
      cases written
      exact ⟨location, located, other, rfl⟩

theorem create_origin {tree after : FileTree} {here : Location} {path : Text} {entry : Entry}
    (created : tree.create here path entry = .ok after) :
    ∃ location, tree.locate here path .kept = .ok location ∧ tree.get? location = none ∧
      after = tree.put location entry := by
  simp only [create, bind, Except.bind] at created
  split at created
  · cases created
  · rename_i location located
    split at created
    · cases created
    · rename_i nothing
      cases created
      exact ⟨location, located, nothing, rfl⟩

theorem rename_slots {tree after : FileTree} {here : Location} {source target : Text}
    (renamed : tree.rename here source target = .ok after) :
    ∃ origin goal moved, tree.slot here source = .ok origin ∧ tree.slot here target = .ok goal ∧
      goal.isDots = false ∧ Text.utf8Length origin.name ≤ nameLimit ∧
      Text.utf8Length goal.name ≤ nameLimit ∧ asksForDirectory target = false ∧
      tree.get? origin.location = some moved ∧ moved ≠ .directory ∧
      tree.get? goal.location ≠ some .directory ∧
      after = (tree.erase origin.location).put goal.location moved := by
  simp only [rename, bind, Except.bind] at renamed
  split at renamed
  · cases renamed
  · rename_i origin left
    split at renamed
    · cases renamed
    · rename_i goal entered
      split at renamed
      · cases renamed
      · rename_i named
        split at renamed
        · cases renamed
        · rename_i fits
          split at renamed
          · cases renamed
          · rename_i moved stood
            split at renamed
            · cases renamed
            · rename_i short
              split at renamed
              · cases renamed
              · rename_i plain
                split at renamed
                · cases renamed
                · rename_i free
                  simp only [Bool.or_eq_true, beq_iff_eq, not_or] at named free
                  cases renamed
                  exact ⟨origin, goal, moved, left, entered, Bool.eq_false_iff.mpr named.2,
                    by omega, by omega, by simpa using plain, stood, free.1, free.2, rfl⟩

theorem rename_origin {tree after : FileTree} {here : Location} {source target : Text}
    (renamed : tree.rename here source target = .ok after) :
    ∃ origin goal moved, tree.slot here source = .ok origin ∧ tree.slot here target = .ok goal ∧
      tree.get? origin.location = some moved ∧ moved ≠ .directory ∧
      tree.get? goal.location ≠ some .directory ∧
      after = (tree.erase origin.location).put goal.location moved := by
  obtain ⟨origin, goal, moved, left, entered, -, -, -, -, stood, free⟩ := rename_slots renamed
  exact ⟨origin, goal, moved, left, entered, stood, free⟩

/-- A move is refused for what stands in its way, never for want of permission. -/
theorem rename_ne_denied {tree : FileTree} {here : Location} {source target : Text} :
    tree.rename here source target ≠ .error .denied := by
  refine bind_ne_error slot_ne_denied fun origin => bind_ne_error slot_ne_denied fun goal => ?_
  split
  · simp
  · split
    · simp
    · split
      · simp
      · split
        · simp
        · split
          · simp
          · split <;> simp

theorem remove_origin {tree after : FileTree} {here : Location} {path : Text}
    (removed : tree.remove here path = .ok after) :
    ∃ location entry, tree.locate here path .kept = .ok location ∧
      tree.get? location = some entry ∧ entry ≠ .directory ∧ after = tree.erase location := by
  simp only [remove, bind, Except.bind] at removed
  split at removed
  · cases removed
  · rename_i location located
    split at removed
    · cases removed
    · cases removed
    · rename_i entry other stood
      cases removed
      exact ⟨location, entry, located, stood, other, rfl⟩

end Runbook.FileTree
