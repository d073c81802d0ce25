import Runbook.AtomicWrite
import Runbook.Proofs.Routes

/-! The directories above a path. A way goes first to the directory that its last name is looked for
in, whatever that name is. Where directories are missing, some are added; nothing else changes, and
what was found before is found again. -/
namespace Runbook.FileTree

variable {tree before middle after : FileTree} {here place directory further : Location}
  {links left rest : Nat} {ending : Ending} {front more dots : List Text} {path : Text}
  {paths others : List Text}

/-- The names lead to the directory, and this many links may still be followed from there. What
comes behind the names is looked for in it. -/
structure Leads (tree : FileTree) (links : Nat) (here : Location) (front : List Text) (left : Nat)
    (directory : Location) : Prop where
  onward : ∀ ending more, more ≠ [] →
    walk tree ending links here (front ++ more) = walk tree ending left directory more
  stands : tree.Stands here → tree.Stands directory

/-- The names lead to a directory, or whatever comes behind them is refused for the same reason. -/
def LeadsOrFails (tree : FileTree) (links : Nat) (here : Location) (front : List Text) : Prop :=
  (∃ left directory, Leads tree links here front left directory) ∨
    ∃ fault, ∀ ending more, more ≠ [] → walk tree ending links here (front ++ more) = .error fault

theorem LeadsOrFails.of_step {links' : Nat} {there : Location} {front' : List Text}
    (later : LeadsOrFails tree links' there front') (stands : tree.Stands here → tree.Stands there)
    (step : ∀ ending more, more ≠ [] → walk tree ending links here (front ++ more) =
      walk tree ending links' there (front' ++ more)) : LeadsOrFails tree links here front := by
  rcases later with ⟨left, directory, leads⟩ | ⟨fault, refused⟩
  · exact .inl ⟨left, directory,
      fun ending more some => (step ending more some).trans (leads.onward ending more some),
      fun stood => leads.stands (stands stood)⟩
  · exact .inr ⟨fault,
      fun ending more some => (step ending more some).trans (refused ending more some)⟩

theorem leadsOrFails (tree : FileTree) (links : Nat) (here : Location) (front : List Text) :
    LeadsOrFails tree links here front := by
  generalize same : Ending.followed = ending
  fun_induction walk tree ending links here front with
  | case1 ending links here => exact .inl ⟨links, here, fun _ _ _ => rfl, id⟩
  | case2 ending links here front ih =>
    refine (ih same).of_step id fun ending more _ => ?_
    rw [List.cons_append, walk, if_pos rfl]
  | case3 ending links here front other ih =>
    refine (ih same).of_step (·.above (List.dropLast_prefix here)) fun ending more _ => ?_
    rw [List.cons_append, walk, if_neg other, if_pos rfl]
  | case4 ending links here name front notDot notDots long =>
    refine .inr ⟨.nameTooLong, fun ending more _ => ?_⟩
    rw [List.cons_append, walk, if_neg notDot, if_neg notDots, if_pos long]
  | case5 ending links here name front notDot notDots short there ih =>
    refine (ih same).of_step (·.append there) fun ending more _ => ?_
    rw [List.cons_append, walk, if_neg notDot, if_neg notDots, if_neg short, there]
  | case6 ending links here name front notDot notDots short target there kept =>
    subst same
    simp at kept
  | case7 ending here name front notDot notDots short target there notKept =>
    refine .inr ⟨.tooManyLinks, fun ending more some => ?_⟩
    rw [List.cons_append, walk, if_neg notDot, if_neg notDots, if_neg short, there]
    simp [some]
  | case8 ending here name front notDot notDots short target there notKept links asks ih =>
    subst same
    simp at asks
  | case9 ending here name front notDot notDots short target there notKept links asks ih =>
    refine (ih same).of_step (·.beginning target) fun ending more some => ?_
    rw [List.cons_append, walk, if_neg notDot, if_neg notDots, if_neg short, there]
    simp [some]
  | case10 ending links here name front notDot notDots short bytes there last
  | case11 ending links here name front notDot notDots short bytes there notLast =>
    refine .inr ⟨.notDirectory, fun ending more some => ?_⟩
    rw [List.cons_append, walk, if_neg notDot, if_neg notDots, if_neg short, there]
    simp [some]
  | case12 ending links here name front notDot notDots short there last
  | case13 ending links here name front notDot notDots short there notLast =>
    refine .inr ⟨.missing, fun ending more some => ?_⟩
    rw [List.cons_append, walk, if_neg notDot, if_neg notDots, if_neg short, there]
    simp [some]

/-- What is found behind some names is found in the directory that they lead to. -/
theorem leads_of_walk (found : walk tree ending links here (front ++ more) = .ok place)
    (some : more ≠ []) : ∃ left directory, Leads tree links here front left directory := by
  rcases leadsOrFails tree links here front with leads | ⟨fault, refused⟩
  · exact leads
  · rw [refused ending more some] at found
    contradiction

namespace Leads

theorem append (first : Leads tree links here front left directory)
    (second : Leads tree left directory others rest further) :
    Leads tree links here (front ++ others) rest further where
  onward ending more some := by
    rw [List.append_assoc, first.onward ending _ (by simp [some]), second.onward ending more some]
  stands stood := second.stands (first.stands stood)

theorem idle (dotted : ∀ name ∈ dots, name = ['.']) : Leads tree links here dots links here where
  onward ending more _ := by
    induction dots with
    | nil => rfl
    | cons name dots ih =>
      obtain rfl := dotted name List.mem_cons_self
      rw [List.cons_append, walk, if_pos rfl, ih fun name member => dotted name (by simp [member])]
  stands := id

theorem walk_dot (leads : Leads tree links here front left directory) (ending : Ending) :
    walk tree ending links here (front ++ [['.']]) = .ok directory := by
  rw [leads.onward ending _ (by simp), walk, if_pos rfl, walk]

end Leads

/-- Directories have been added, each where nothing stood and where one of the paths leads. -/
structure Furnishes (here : Location) (paths : List Text) (before after : FileTree) : Prop where
  kept : ∀ place entry, before.get? place = some entry → after.get? place = some entry
  made : ∀ place, before.get? place = none → after.get? place = none ∨
    after.get? place = some .directory ∧
      ∃ path ∈ paths, after.locate here path .followed = .ok place

namespace Furnishes

theorem refl (here : Location) (paths : List Text) (tree : FileTree) :
    Furnishes here paths tree tree :=
  ⟨fun _ _ stood => stood, fun _ => .inl⟩

theorem unlinked_iff (furnishes : Furnishes here paths before after) :
    after.Unlinked place ↔ before.Unlinked place := by
  constructor
  · intro unlinked target stood
    exact unlinked target (furnishes.kept place _ stood)
  · intro unlinked target stood
    cases old : before.get? place with
    | none =>
      rcases furnishes.made place old with free | ⟨there, -⟩
      · rw [free] at stood
        contradiction
      · rw [there] at stood
        simp at stood
    | some entry =>
      rw [furnishes.kept place entry old] at stood
      exact unlinked target (old.trans stood)

theorem carries (furnishes : Furnishes here paths before after) : Carries before after where
  directory place := furnishes.kept place .directory
  link place target := furnishes.kept place (.link target)
  plain place plain := furnishes.unlinked_iff.mpr fun target stood => by
    obtain ⟨bytes, same⟩ := plain _ stood
    contradiction

theorem trans (first : Furnishes here paths before middle)
    (second : Furnishes here paths middle after) : Furnishes here paths before after where
  kept place entry stood := second.kept place entry (first.kept place entry stood)
  made place free := by
    rcases first.made place free with still | ⟨there, path, listed, leads⟩
    · exact second.made place still
    · exact .inr ⟨second.kept place _ there, path, listed, second.carries.locate leads⟩

theorem stands (furnishes : Furnishes here paths before after) (stood : before.Stands place) :
    after.Stands place :=
  fun above within => furnishes.kept above _ (stood above within)

end Furnishes

section Slot

variable {slot : Slot}

theorem slot_origin (found : tree.slot here path = .ok slot) :
    check path = .ok () ∧
      walk tree .followed linkLimit (start here path) (stepsAbove path) = .ok slot.directory ∧
      slot.name = (names path).getLastD ['.'] := by
  simp only [FileTree.slot, bind, Except.bind] at found
  split at found
  · contradiction
  · rename_i checked
    split at found
    · contradiction
    · rename_i directory onward
      obtain rfl := Except.ok.inj found
      exact ⟨checked, onward, rfl⟩

/-- A slot with a name of its own is in the directory that the names above it lead to. -/
theorem slot_leads (found : tree.slot here path = .ok slot) (named : slot.isDots = false) :
    check path = .ok () ∧ names path = (names path).dropLast ++ [slot.name] ∧ ∃ left,
      Leads tree linkLimit (start here path) (names path).dropLast left slot.directory := by
  obtain ⟨checked, onward, last⟩ := slot_origin found
  refine ⟨checked, ?_, ?_⟩
  · rcases List.eq_nil_or_concat (names path) with nothing | ⟨above, name, shape⟩
    · simp [Slot.isDots, last, nothing] at named
    · rw [List.concat_eq_append] at shape
      simp [last, shape]
  · rw [stepsAbove] at onward
    obtain ⟨left, directory, leads⟩ := leads_of_walk onward (by simp)
    rw [leads.walk_dot] at onward
    obtain rfl := Except.ok.inj onward
    exact ⟨left, leads⟩

/-- A path leads to the slot of its last name, unless a link there is to be followed, or the path
can only mean a directory and there is none. -/
theorem locate_slot (found : tree.slot here path = .ok slot) (named : slot.isDots = false)
    (short : Text.utf8Length slot.name ≤ nameLimit)
    (meant : ending = .kept ∨ tree.Unlinked slot.location)
    (suits : asksForDirectory path = false ∨ tree.get? slot.location = some .directory) :
    tree.locate here path ending = .ok slot.location := by
  obtain ⟨checked, split, left, leads⟩ := slot_leads found named
  obtain ⟨notDot, notDots⟩ : slot.name ≠ ['.'] ∧ slot.name ≠ ['.', '.'] := by
    simpa [Slot.isDots] using named
  have last : walk tree ending left slot.directory [slot.name] = .ok slot.location := by
    rw [walk_last notDot notDots meant, if_neg (by omega), Slot.location]
  simp only [locate, checked, bind, Except.bind, steps]
  split
  · rename_i asks
    have there := suits.resolve_left (by simp [asks])
    rw [split, List.append_assoc, leads.onward ending _ (by simp), List.singleton_append, walk,
      if_neg notDot, if_neg notDots, if_neg (by omega)]
    rw [Slot.location] at there
    simp [there, walk, Slot.location]
  · rw [split, leads.onward ending _ (by simp), last]

end Slot

theorem Carries.slot (carries : Carries before after) {slot : Slot}
    (found : before.slot here path = .ok slot) : after.slot here path = .ok slot := by
  obtain ⟨checked, onward, last⟩ := slot_origin found
  simp only [FileTree.slot, checked, bind, Except.bind, carries.walk onward, ← last]

theorem Carries.put_directory (free : tree.get? place = none) :
    Carries tree (tree.put place .directory) := by
  have named : place ≠ [] := by
    rintro rfl
    simp at free
  have other {entry : Entry} {second : Location} (stood : tree.get? second = some entry) :
      (tree.put place .directory).get? second = some entry := by
    rw [get?_put _ _ _ _ named, if_neg, stood]
    rintro rfl
    rw [free] at stood
    contradiction
  refine ⟨fun _ => other, fun _ _ => other, fun second plain target => ?_⟩
  rw [get?_put _ _ _ _ named]
  split
  · simp
  · intro stood
    obtain ⟨bytes, same⟩ := plain _ stood
    contradiction

namespace Furnishes

theorem makeDirectory (made : tree.makeDirectory here path = .ok after) (listed : path ∈ paths) :
    Furnishes here paths tree after := by
  obtain ⟨slot, found, named, short, free, rfl⟩ := makeDirectory_slot made
  have proper : slot.location ≠ [] := by simp [Slot.location]
  have carries := Carries.put_directory free
  have there : (tree.put slot.location .directory).get? slot.location = some .directory := by
    rw [get?_put _ _ _ _ proper, if_pos rfl]
  have again := carries.slot found
  constructor
  · intro place entry stood
    rw [get?_put _ _ _ _ proper, if_neg, stood]
    rintro rfl
    rw [free] at stood
    contradiction
  · intro place nothing
    by_cases same : place = slot.location
    · subst same
      have unlinked : (tree.put slot.location .directory).Unlinked slot.location := by
        intro target link
        rw [there] at link
        simp at link
      exact .inr ⟨there, path, listed, locate_slot again named short (.inr unlinked) (.inr there)⟩
    · rw [get?_put _ _ _ _ proper, if_neg same]
      exact .inl nothing

/-- Whatever comes of it, making a directory and those above it adds only these. -/
theorem makeLineage (tree : FileTree) (within : ∀ path ∈ paths, path ∈ others) :
    Furnishes here others tree (FileTree.makeLineage here paths tree).2 := by
  induction paths generalizing tree with
  | nil => exact refl ..
  | cons path paths ih =>
    have listed := within path List.mem_cons_self
    have above := ih tree fun other member => within other (List.mem_cons_of_mem _ member)
    rw [FileTree.makeLineage]
    split
    · rename_i made
      exact makeDirectory made listed
    · split
      · rename_i fault furnished shape
        rwa [shape] at above
      · rename_i furnished shape
        rw [shape] at above
        split
        · rename_i made
          exact above.trans (makeDirectory made listed)
        · exact above
    · exact refl ..

theorem makeDirectories (tree : FileTree) (here : Location) (path : Text) :
    Furnishes here (Path.lineage path) tree (tree.makeDirectories here path).2 :=
  makeLineage tree fun _ member => member

end Furnishes

end Runbook.FileTree

namespace Runbook.AtomicWrite

open FileTree

/-- Before a file is written, directories above its path are added and nothing else. -/
theorem furnishes_prepare (here : Location) (path : Text) (tree : FileTree) :
    Furnishes here (Path.lineage ((Path.parent? path).getD [])) tree
      (prepare here path tree).2 := by
  have made := Furnishes.makeDirectories tree here ((Path.parent? path).getD [])
  unfold prepare
  dsimp only
  split
  · exact .refl ..
  · split <;> (rename_i shape; rwa [shape] at made)

end Runbook.AtomicWrite
