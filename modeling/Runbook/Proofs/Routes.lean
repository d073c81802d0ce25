import Runbook.FileTree.Change
import Runbook.Proofs.Paths

/-! Where paths lead while files come and go. A change to files leaves directories and links as
they are, so a path that led to a place still leads there; and a path that is written for a place
leads to it and changes nothing else. -/
namespace Runbook.FileTree

/-- Every place on the way is a directory, the last one included. -/
def Stands (tree : FileTree) (location : Location) : Prop :=
  ∀ above, above <+: location → tree.get? above = some .directory

/-- Nothing stands at the place, or a file. -/
def IsPlain (tree : FileTree) (place : Location) : Prop :=
  ∀ entry, tree.get? place = some entry → ∃ bytes, entry = .file bytes

/-- Files have changed, and only at some places. Directories and links are the same. -/
structure Changes (touched : Location → Prop) (before after : FileTree) : Prop where
  same : ∀ place, ¬ touched place → after.get? place = before.get? place
  fixed : ∀ place entry, (∀ bytes, entry ≠ .file bytes) →
    (after.get? place = some entry ↔ before.get? place = some entry)

variable {tree before after : FileTree} {touched : Location → Prop} {here place : Location}

namespace Stands

theorem root (tree : FileTree) : tree.Stands [] := by
  intro above start
  rw [List.prefix_nil.mp start, get?_root]

theorem last (stands : tree.Stands here) : tree.get? here = some .directory :=
  stands here (List.prefix_refl _)

theorem above (stands : tree.Stands here) {directory : Location} (start : directory <+: here) :
    tree.Stands directory :=
  fun above within => stands above (within.trans start)

theorem append (stands : tree.Stands here) {name : Text}
    (there : tree.get? (here ++ [name]) = some .directory) : tree.Stands (here ++ [name]) := by
  intro above start
  rcases List.prefix_concat_iff.mp start with rfl | start
  · exact there
  · exact stands above start

end Stands

namespace IsPlain

theorem named (plain : tree.IsPlain place) : place ≠ [] := by
  rintro rfl
  obtain ⟨bytes, same⟩ := plain .directory (get?_root tree)
  contradiction

theorem of_none (free : tree.get? place = none) : tree.IsPlain place := by
  intro entry stood
  rw [free] at stood
  contradiction

theorem of_file {bytes : Bytes} (file : tree.get? place = some (.file bytes)) :
    tree.IsPlain place := by
  intro entry stood
  rw [file] at stood
  exact ⟨bytes, (Option.some.inj stood).symm⟩

theorem put_there (plain : tree.IsPlain place) (entry : Entry) :
    (tree.put place entry).get? place = some entry := by
  rw [get?_put _ _ _ _ plain.named, if_pos rfl]

theorem erase_gone (plain : tree.IsPlain place) : (tree.erase place).get? place = none := by
  rw [get?_erase _ _ _ plain.named, if_pos rfl]

end IsPlain

/-- No link stands at the place. -/
def Unlinked (tree : FileTree) (place : Location) : Prop :=
  ∀ target, tree.get? place ≠ some (.link target)

theorem Unlinked.plain (unlinked : tree.Unlinked place)
    (other : tree.get? place ≠ some .directory) : tree.IsPlain place := by
  intro entry stood
  cases entry with
  | file bytes => exact ⟨bytes, rfl⟩
  | directory => exact absurd stood other
  | link target => exact absurd stood (unlinked target)

/-- A last name leads to its entry, unless that is a link which is to be followed. -/
theorem walk_last {ending : Ending} {links : Nat} {name : Text} (notDot : name ≠ ['.'])
    (notDots : name ≠ ['.', '.']) (meant : ending = .kept ∨ tree.Unlinked (here ++ [name])) :
    walk tree ending links here [name] =
      if nameLimit < Text.utf8Length name then .error .nameTooLong
      else .ok (here ++ [name]) := by
  rw [walk, if_neg notDot, if_neg notDots]
  split
  · rfl
  · cases there : tree.get? (here ++ [name]) with
    | none => simp
    | some entry =>
      cases entry with
      | file bytes => simp
      | directory => simp [walk]
      | link target =>
        rcases meant with rfl | unlinked
        · simp
        · exact absurd there (unlinked target)

/-- The later tree has every directory and every link of the earlier one, and no link in place of a
file or of nothing. -/
structure Carries (before after : FileTree) : Prop where
  directory : ∀ place, before.get? place = some .directory → after.get? place = some .directory
  link : ∀ place target, before.get? place = some (.link target) →
    after.get? place = some (.link target)
  plain : ∀ place, before.IsPlain place → after.Unlinked place

namespace Carries

variable (carries : Carries before after)

include carries

/-- A way that led to a place leads there still. -/
theorem walk {ending : Ending} {links : Nat} {names : List Text}
    (found : walk before ending links here names = .ok place) :
    FileTree.walk after ending links here names = .ok place := by
  fun_induction FileTree.walk before ending links here names with
  | case1 => rwa [FileTree.walk]
  | case2 ending links here more ih => rw [FileTree.walk, if_pos rfl, ih found]
  | case3 ending links here more other ih =>
    rw [FileTree.walk, if_neg other, if_pos rfl, ih found]
  | case4 | case7 | case11 | case13 => contradiction
  | case5 ending links here name more notDot notDots short there ih =>
    rw [FileTree.walk, if_neg notDot, if_neg notDots, if_neg short, carries.directory _ there]
    exact ih found
  | case6 ending links here name more notDot notDots short target there kept =>
    rw [FileTree.walk, if_neg notDot, if_neg notDots, if_neg short, carries.link _ _ there]
    simpa only [kept, if_true] using found
  | case8 ending here name more notDot notDots short target there notKept links asks ih =>
    cases above : FileTree.walk before .followed links (start here target) (stepsAbove target) <;>
      simp [above, bind, Except.bind] at found
  | case9 ending here name more notDot notDots short target there notKept links asks ih =>
    rw [FileTree.walk, if_neg notDot, if_neg notDots, if_neg short, carries.link _ _ there]
    simp only [notKept, asks]
    exact ih found
  | case10 ending links here name more notDot notDots short bytes there last =>
    obtain rfl := List.isEmpty_iff.mp last
    rwa [walk_last notDot notDots (.inr (carries.plain _ (.of_file there))), if_neg short]
  | case12 ending links here name more notDot notDots short there last =>
    obtain rfl := List.isEmpty_iff.mp last
    rwa [walk_last notDot notDots (.inr (carries.plain _ (.of_none there))), if_neg short]

theorem locate {path : Text} {ending : Ending} (found : before.locate here path ending = .ok place) :
    after.locate here path ending = .ok place := by
  simp only [FileTree.locate, bind, Except.bind] at found ⊢
  split at found
  · contradiction
  · exact carries.walk found

end Carries

namespace Changes

theorem refl (touched : Location → Prop) (tree : FileTree) : Changes touched tree tree :=
  ⟨fun _ _ => rfl, fun _ _ _ => Iff.rfl⟩

/-- Changes at some places are changes at more. -/
theorem mono {more : Location → Prop} (changes : Changes touched before after)
    (within : ∀ place, touched place → more place) : Changes more before after :=
  ⟨fun place spared => changes.same place fun free => spared (within place free), changes.fixed⟩

theorem trans {middle : FileTree} (first : Changes touched before middle)
    (second : Changes touched middle after) : Changes touched before after where
  same place spared := (second.same place spared).trans (first.same place spared)
  fixed place entry other := (second.fixed place entry other).trans (first.fixed place entry other)

theorem put (plain : tree.IsPlain place) (free : touched place) (bytes : Bytes) :
    Changes touched tree (tree.put place (.file bytes)) where
  same other spared := by
    rw [get?_put _ _ _ _ plain.named, if_neg]
    rintro rfl
    exact spared free
  fixed other entry notFile := by
    rw [get?_put _ _ _ _ plain.named]
    split
    · rename_i same
      subst same
      constructor
      · intro file
        exact absurd (Option.some.inj file).symm (notFile bytes)
      · intro stood
        obtain ⟨bytes, same⟩ := plain entry stood
        exact absurd same (notFile bytes)
    · rfl

theorem erase (plain : tree.IsPlain place) (free : touched place) :
    Changes touched tree (tree.erase place) where
  same other spared := by
    rw [get?_erase _ _ _ plain.named, if_neg]
    rintro rfl
    exact spared free
  fixed other entry notFile := by
    rw [get?_erase _ _ _ plain.named]
    split
    · rename_i same
      subst same
      constructor
      · intro nothing
        contradiction
      · intro stood
        obtain ⟨bytes, same⟩ := plain entry stood
        exact absurd same (notFile bytes)
    · rfl

variable (changes : Changes touched before after)

include changes

theorem directory_iff :
    after.get? place = some .directory ↔ before.get? place = some .directory :=
  changes.fixed place .directory fun _ => by simp

theorem link_iff {target : Text} :
    after.get? place = some (.link target) ↔ before.get? place = some (.link target) :=
  changes.fixed place (.link target) fun _ => by simp

theorem unlinked (bare : before.Unlinked place) : after.Unlinked place :=
  fun target stood => bare target (changes.link_iff.mp stood)

theorem plain_iff : after.IsPlain place ↔ before.IsPlain place := by
  have forward {one other : FileTree}
      (fixed : ∀ entry, (∀ bytes, entry ≠ .file bytes) →
        one.get? place = some entry → other.get? place = some entry)
      (plain : other.IsPlain place) : one.IsPlain place := by
    intro entry stood
    by_cases file : ∃ bytes, entry = .file bytes
    · exact file
    · exact plain entry (fixed entry (fun bytes same => file ⟨bytes, same⟩) stood)
  constructor
  · exact forward fun entry other => (changes.fixed place entry other).mpr
  · exact forward fun entry other => (changes.fixed place entry other).mp

theorem stands (stood : before.Stands here) : after.Stands here :=
  fun above start => changes.directory_iff.mpr (stood above start)

omit changes in
theorem symm (changes : Changes touched before after) : Changes touched after before where
  same place spared := (changes.same place spared).symm
  fixed place entry other := (changes.fixed place entry other).symm

theorem carries : Carries before after where
  directory _ := changes.directory_iff.mpr
  link _ _ := changes.link_iff.mpr
  plain _ plain := changes.unlinked fun target stood => by
    obtain ⟨bytes, same⟩ := plain _ stood
    contradiction

theorem locate {path : Text} {ending : Ending} (found : before.locate here path ending = .ok place) :
    after.locate here path ending = .ok place :=
  changes.carries.locate found

/-- A directory is found where it was. -/
theorem find_directory {path : Text} (found : before.find here path = .ok (place, .directory)) :
    after.find here path = .ok (place, .directory) := by
  simp only [find, bind, Except.bind] at found ⊢
  split at found
  · contradiction
  · rename_i location located
    split at found
    · rename_i entry stood
      obtain ⟨rfl, rfl⟩ := by simpa using found
      simp [changes.locate located, changes.directory_iff.mpr stood]
    · contradiction

/-- Where nothing stands any more is a place that changes were free to touch, if the places
where nothing stood before are. -/
theorem touched_of_none (free : ∀ place, before.get? place = none → touched place)
    (nothing : after.get? place = none) : touched place := by
  refine Classical.byContradiction fun spared => spared (free place ?_)
  rw [← changes.same place spared, nothing]

end Changes

/-- What a way that leads somewhere ends at: a directory, or an entry of one. A link is only met
where it is meant. -/
inductive Reached (tree : FileTree) (ending : Ending) : Location → Prop
  | directory {place : Location} (stands : tree.Stands place) : Reached tree ending place
  | entry {directory : Location} {name : Text} (stands : tree.Stands directory)
      (plain : ending ≠ .kept → tree.IsPlain (directory ++ [name])) :
      Reached tree ending (directory ++ [name])

theorem Stands.beginning (stands : tree.Stands here) (path : Text) :
    tree.Stands (start here path) := by
  unfold start
  split
  · exact .root tree
  · exact stands

theorem Stands.reached {ending : Ending} {links : Nat} {names : List Text}
    (stands : tree.Stands here) (found : walk tree ending links here names = .ok place) :
    tree.Reached ending place := by
  fun_induction walk tree ending links here names with
  | case1 =>
    cases found
    exact .directory stands
  | case2 ending links here more ih => exact ih stands found
  | case3 ending links here more other ih =>
    exact ih (stands.above (List.dropLast_prefix here)) found
  | case4 | case7 | case11 | case13 => contradiction
  | case5 ending links here name more notDot notDots short there ih =>
    exact ih (stands.append there) found
  | case6 ending links here name more notDot notDots short target there kept =>
    cases found
    have same : ending = .kept := by simpa using (Bool.and_eq_true_iff.mp kept).2
    exact .entry stands (absurd same)
  | case8 ending here name more notDot notDots short target there notKept links asks ih =>
    cases above : walk tree .followed links (FileTree.start here target) (stepsAbove target) <;>
      simp [above, bind, Except.bind] at found
  | case9 ending here name more notDot notDots short target there notKept links asks ih =>
    exact ih (stands.beginning target) found
  | case10 ending links here name more notDot notDots short bytes there last =>
    cases found
    exact .entry stands fun _ => .of_file there
  | case12 ending links here name more notDot notDots short there last =>
    cases found
    exact .entry stands fun _ => .of_none there

theorem Stands.reached_path {ending : Ending} {path : Text} (stands : tree.Stands (start here path))
    (found : tree.locate here path ending = .ok place) : tree.Reached ending place := by
  simp only [locate, bind, Except.bind] at found
  split at found
  · contradiction
  · exact stands.reached found

/-- A name that can stand in a list of steps. -/
def IsStep (name : Text) : Prop := name ≠ [] ∧ '/' ∉ name

theorem isStep_names {path name : Text} (member : name ∈ names path) : IsStep name := by
  obtain ⟨member, nonempty⟩ := List.mem_filter.mp member
  exact ⟨by simpa using nonempty, Path.flat_of_mem_pieces member⟩

theorem isStep_steps {path name : Text} (member : name ∈ steps path) : IsStep name := by
  unfold steps at member
  split at member
  · rcases List.mem_append.mp member with member | member
    · exact isStep_names member
    · rw [List.mem_singleton.mp member]
      exact ⟨by simp, by decide⟩
  · exact isStep_names member

/-- A way leads only over names that entries can have. -/
theorem proper_of_walk {ending : Ending} {links : Nat} {names : List Text}
    (proper : here.IsProper) (valid : ∀ name ∈ names, IsStep name)
    (found : walk tree ending links here names = .ok place) : place.IsProper := by
  fun_induction walk tree ending links here names with
  | case1 =>
    cases found
    exact proper
  | case2 ending links here more ih =>
    exact ih proper (fun name member => valid name (by simp [member])) found
  | case3 ending links here more other ih =>
    exact ih (fun name member => proper name (List.dropLast_subset here member))
      (fun name member => valid name (by simp [member])) found
  | case4 | case7 | case11 | case13 => contradiction
  | case5 ending links here name more notDot notDots short there ih =>
    obtain ⟨nonempty, flat⟩ := valid name (by simp)
    exact ih (proper.append ⟨nonempty, flat, notDot, notDots⟩)
      (fun name member => valid name (by simp [member])) found
  | case8 ending here name more notDot notDots short target there notKept links asks ih =>
    cases above : walk tree .followed links (start here target) (stepsAbove target) <;>
      simp [above, bind, Except.bind] at found
  | case9 ending here name more notDot notDots short target there notKept links asks ih =>
    refine ih ?_ (fun name member => ?_) found
    · unfold start
      split
      · intro name member
        simp at member
      · exact proper
    · rcases List.mem_append.mp member with member | member
      · exact isStep_steps member
      · exact valid name (by simp [member])
  | case6 ending links here name more notDot notDots short
  | case10 ending links here name more notDot notDots short
  | case12 ending links here name more notDot notDots short =>
    cases found
    obtain ⟨nonempty, flat⟩ := valid name (by simp)
    exact proper.append ⟨nonempty, flat, notDot, notDots⟩

theorem proper_of_locate {ending : Ending} {path : Text} (proper : here.IsProper)
    (found : tree.locate here path ending = .ok place) : place.IsProper := by
  simp only [locate, bind, Except.bind] at found
  split at found
  · contradiction
  · refine proper_of_walk ?_ (fun name => isStep_steps) found
    unfold start
    split
    · intro name member
      simp at member
    · exact proper

/-! ## Paths that are written for places -/

section Written

variable {directory : Location} {name : Text} {ending : Ending} {links : Nat}

/-- A way through directories that are there goes on behind them, unless one has a name that is
too long to be asked for. -/
theorem walk_standing (above : Location) {directory : Location} (stands : tree.Stands (above ++ directory))
    (proper : directory.IsProper) (more : List Text) :
    walk tree ending links above (directory ++ more) =
        walk tree ending links (above ++ directory) more ∨
      walk tree ending links above (directory ++ more) = .error .nameTooLong := by
  induction directory generalizing above with
  | nil => simp
  | cons name directory ih =>
    have valid := proper name (by simp)
    have there := stands (above ++ [name]) ⟨directory, by simp⟩
    rw [List.cons_append, walk, if_neg valid.notDot, if_neg valid.notDots]
    split
    · exact .inr rfl
    · rw [there]
      have onward := ih (above ++ [name]) (by simpa using stands)
        fun name member => proper name (by simp [member])
      simpa using onward

theorem walk_name (valid : Path.IsName name)
    (meant : ending = .kept ∨ tree.Unlinked (directory ++ [name])) :
    walk tree ending links directory [name] =
      if nameLimit < Text.utf8Length name then .error .nameTooLong
      else .ok (directory ++ [name]) :=
  walk_last valid.notDot valid.notDots meant

/-- The path of a single slash leads to the root. -/
theorem locate_root (tree : FileTree) (here : Location) (ending : Ending) :
    tree.locate here (Location.path []) ending = .ok [] := by
  have checked : check ['/'] = .ok () := rfl
  have began : start here ['/'] = [] := rfl
  have onward : steps ['/'] = [['.']] := by decide
  simp [locate, Location.path_root, checked, began, onward, bind, Except.bind, walk]

/-- A name by itself leads to the entry of that name. -/
theorem locate_name (valid : Path.IsName name)
    (meant : ending = .kept ∨ tree.Unlinked (here ++ [name]))
    (found : tree.locate here name ending = .ok place) : place = here ++ [name] := by
  have alone : names name = [name] := by
    simp [names, Path.pieces_flat valid.flat, valid.nonempty]
  have plain : asksForDirectory name = false := by
    simpa [asksForDirectory] using fun ends => valid.flat (List.mem_of_getLast? ends)
  simp only [locate, bind, Except.bind] at found
  split at found
  · contradiction
  · rw [start, valid.not_isAbsolute, steps, plain, alone] at found
    simp only [Bool.false_eq_true, if_false, walk_name valid meant] at found
    split at found
    · contradiction
    · exact (Except.ok.inj found).symm

theorem check_path (location : Location) {fault : SystemFault}
    (refused : check location.path = .error fault) : fault ≠ .missing := by
  rintro rfl
  unfold check at refused
  split at refused
  · simp at refused
  · rw [if_neg (by simp [Location.path])] at refused
    split at refused <;> simp at refused

variable (stands : tree.Stands directory) (proper : directory.IsProper) (valid : Path.IsName name)
include stands proper valid

/-- The path written for a place leads there. -/
theorem locate_path (meant : ending = .kept ∨ tree.Unlinked (directory ++ [name]))
    (found : tree.locate here (Location.path (directory ++ [name])) ending = .ok place) :
    place = directory ++ [name] := by
  simp only [locate, bind, Except.bind] at found
  split at found
  · contradiction
  · rw [start, Location.isAbsolute_path, if_pos rfl, Location.steps_path proper valid] at found
    rcases walk_standing [] stands proper [name] with onward | refused
    · rw [onward, List.nil_append, walk_name valid meant] at found
      split at found
      · contradiction
      · exact (Except.ok.inj found).symm
    · rw [refused] at found
      contradiction

/-- The last name of the path written for a place is found in its directory, or is refused
without being looked for. -/
theorem slot_path (here : Location) :
    tree.slot here (Location.path (directory ++ [name])) = .ok ⟨directory, name⟩ ∨
      ∃ fault, fault ≠ .missing ∧
        tree.slot here (Location.path (directory ++ [name])) = .error fault := by
  simp only [slot, bind, Except.bind]
  split
  · rename_i fault refused
    exact .inr ⟨fault, check_path _ refused, rfl⟩
  · rw [start, Location.isAbsolute_path, if_pos rfl, Location.stepsAbove_path proper valid,
      Location.names_path (proper.append valid)]
    rcases walk_standing [] stands proper [['.']] with onward | refused
    · rw [onward]
      simp [walk]
    · rw [refused]
      exact .inr ⟨.nameTooLong, by simp, rfl⟩

end Written

end Runbook.FileTree
