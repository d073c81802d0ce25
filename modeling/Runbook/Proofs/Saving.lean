import Runbook.AtomicWrite
import Runbook.Proofs.Routes

/-! What writing, making and moving files changes. Each changes the place that its path leads to
and no directory and no link; and a file that is saved by way of a temporary one is either as it
was or has the new content. -/
namespace Runbook

namespace FileTree

variable {tree after : FileTree} {here directory : Location} {path name : Text} {bytes : Bytes}

/-- A program or a save that writes along a path changes the file there and nothing else. -/
theorem Stands.changes_write (stands : tree.Stands (start here path))
    (written : tree.write here path bytes = .ok after) {touched : Location → Prop}
    (free : ∀ place, tree.locate here path .made = .ok place → touched place) :
    Changes touched tree after := by
  obtain ⟨place, located, other, rfl⟩ := write_origin written
  refine .put ?_ (free place located) bytes
  cases stands.reached_path located with
  | directory stood => exact absurd stood.last other
  | entry _ plain => exact plain (by simp)

theorem makeDirectory_standing (here : Location) (stands : tree.Stands directory) (proper : directory.IsProper) :
    ∃ fault, fault ≠ .missing ∧
      tree.makeDirectory here directory.path = .error fault := by
  rcases List.eq_nil_or_concat directory with rfl | ⟨above, name, rfl⟩
  · refine ⟨.taken, by simp, ?_⟩
    have found : tree.slot here (Location.path []) = .ok ⟨[], ['.']⟩ := by
      have steps : stepsAbove ['/'] = [['.']] := by decide
      have start : start here ['/'] = [] := rfl
      have names : names ['/'] = [] := by decide
      have checked : check ['/'] = .ok () := by rfl
      simp [slot, Location.path_root, steps, start, names, checked, bind, Except.bind, walk]
    simp [makeDirectory, found, bind, Except.bind, Slot.isDots]
  · rw [List.concat_eq_append] at *
    have valid := proper name (by simp)
    have proper : Location.IsProper above := fun other member => proper other (by simp [member])
    rcases slot_path (stands.above (List.prefix_append _ _)) proper valid here with
      found | ⟨fault, other, refused⟩
    · by_cases long : nameLimit < Text.utf8Length name
      · exact ⟨.nameTooLong, by simp, by
          simp [makeDirectory, found, bind, Except.bind, Slot.isDots, valid.notDot, valid.notDots,
            long]⟩
      · exact ⟨.taken, by simp, by
          simp [makeDirectory, found, bind, Except.bind, Slot.isDots, valid.notDot, valid.notDots,
            long, Slot.location, stands.last]⟩
    · exact ⟨fault, other, by simp [makeDirectory, refused, bind, Except.bind]⟩

theorem makeDirectories_standing (here : Location) (stands : tree.Stands directory) (proper : directory.IsProper) :
    (tree.makeDirectories here directory.path).2 = tree := by
  obtain ⟨fault, other, refused⟩ := makeDirectory_standing here stands proper
  simp only [makeDirectories, Path.lineage, makeLineage, refused]

/-- What a move between two names of a directory does, if it is not refused. -/
theorem rename_path (stands : tree.Stands directory) (proper : directory.IsProper)
    {source target : Text} (named : Path.IsName source) (aimed : Path.IsName target)
    (renamed : tree.rename here (Location.path (directory ++ [source]))
      (Location.path (directory ++ [target])) = .ok after) :
    ∃ moved, tree.get? (directory ++ [source]) = some moved ∧
      tree.get? (directory ++ [target]) ≠ some .directory ∧
      after = (tree.erase (directory ++ [source])).put (directory ++ [target]) moved := by
  obtain ⟨origin, goal, moved, left, entered, stood, -, free, rfl⟩ := rename_origin renamed
  have source_slot := slot_path stands proper named here
  have target_slot := slot_path stands proper aimed here
  simp only [left, entered, Except.ok.injEq, reduceCtorEq, and_false, exists_false, or_false]
    at source_slot target_slot
  subst source_slot target_slot
  exact ⟨moved, stood, free, rfl⟩

end FileTree

namespace AtomicWrite

open FileTree

/-- What the temporary file beside a file is called. -/
def temporaryName (name : Text) : Text := '.' :: name ++ ".tmp".toList

variable {tree after : FileTree} {here directory : Location} {name : Text} {bytes : Bytes}

theorem isName_temporaryName (valid : Path.IsName name) : Path.IsName (temporaryName name) where
  nonempty := by simp [temporaryName]
  flat := by simpa [temporaryName] using valid.flat
  notDot := by simp [temporaryName]
  notDots := by
    intro same
    have size := congrArg List.length same
    simp [temporaryName] at size

theorem temporaryName_ne (name : Text) : temporaryName name ≠ name := by
  intro same
  have size := congrArg List.length same
  simp [temporaryName] at size
  omega

/-- What has become of a file that was to be saved: it has its new content, or nothing but the
temporary file has changed. -/
inductive Saved (place temporary : Location) (bytes : Bytes) (before : FileTree) :
    Except Failure Unit → FileTree → Prop
  | done {after : FileTree} (holds : after.get? place = some (.file bytes))
      (changes : Changes (fun other => other = temporary ∨ other = place) before after) :
      Saved place temporary bytes before (.ok ()) after
  | refused {failure : Failure} {after : FileTree} (changes : Changes (· = temporary) before after) :
      Saved place temporary bytes before (.error failure) after

theorem Saved.changes {place temporary : Location} {result : Except Failure Unit}
    (saved : Saved place temporary bytes tree result after) :
    Changes (fun other => other = temporary ∨ other = place) tree after := by
  cases saved with
  | done _ changes => exact changes
  | refused changes => exact changes.mono fun _ => .inl

theorem Saved.of_changes {place temporary : Location} {middle : FileTree}
    {result : Except Failure Unit} (first : Changes (· = temporary) tree middle)
    (second : Saved place temporary bytes middle result after) :
    Saved place temporary bytes tree result after := by
  cases second with
  | done holds changes => exact .done holds ((first.mono fun _ => .inl).trans changes)
  | refused changes => exact .refused (first.trans changes)

variable (stands : tree.Stands directory) (proper : directory.IsProper) (valid : Path.IsName name)
include stands proper valid

theorem prepare_path (here : Location) :
    (prepare here (Location.path (directory ++ [name])) tree).2 = tree := by
  have made := makeDirectories_standing here stands proper
  simp only [prepare, Location.parent_path proper valid, Option.getD_some]
  split
  · rfl
  · split <;> (rename_i shape; rw [shape] at made; exact made)

omit stands in
theorem temporary_path :
    temporary? (Location.path (directory ++ [name])) =
      some (Location.path (directory ++ [temporaryName name])) := by
  rw [temporary?, Location.fileName_path proper valid, Location.parent_path proper valid]
  exact congrArg some (Location.join_path proper (isName_temporaryName valid))

theorem settle_path (here : Location)
    (stood : tree.get? (directory ++ [temporaryName name]) = some (.file bytes))
    (unlinked : tree.Unlinked (directory ++ [name])) :
    Saved (directory ++ [name]) (directory ++ [temporaryName name]) bytes tree
      (settle here (Location.path (directory ++ [temporaryName name]))
        (Location.path (directory ++ [name])) tree).1
      (settle here (Location.path (directory ++ [temporaryName name]))
        (Location.path (directory ++ [name])) tree).2 := by
  have named := isName_temporaryName valid
  have apart : directory ++ [name] ≠ directory ++ [temporaryName name] := by
    simpa using (temporaryName_ne name).symm
  have temporary := IsPlain.of_file stood
  unfold settle
  cases renamed : tree.rename here (Location.path (directory ++ [temporaryName name]))
      (Location.path (directory ++ [name])) with
  | ok moved =>
    obtain ⟨entry, origin, free, rfl⟩ := rename_path stands proper named valid renamed
    obtain rfl : Entry.file bytes = entry := Option.some.inj (stood.symm.trans origin)
    have erased : Changes (fun other => other = directory ++ [temporaryName name] ∨
        other = directory ++ [name]) tree (tree.erase (directory ++ [temporaryName name])) :=
      .erase temporary (.inl rfl)
    have goal := erased.plain_iff.mpr (unlinked.plain free)
    exact .done (goal.put_there _) (erased.trans (.put goal (.inr rfl) bytes))
  | error fault =>
    refine .refused ?_
    cases removed : tree.remove here (Location.path (directory ++ [temporaryName name])) with
    | error fault => exact .refl _ _
    | ok removed =>
      obtain ⟨place, entry, located, -, -, rfl⟩ := remove_origin removed
      obtain rfl := locate_path stands proper named (.inl rfl) located
      exact .erase temporary rfl

/-- A file is saved as a whole or not at all. -/
theorem write_path (here : Location) (bytes : Bytes)
    (bare : tree.Unlinked (directory ++ [temporaryName name]))
    (unlinked : tree.Unlinked (directory ++ [name])) :
    Saved (directory ++ [name]) (directory ++ [temporaryName name]) bytes tree
      (write here (Location.path (directory ++ [name])) bytes tree).1
      (write here (Location.path (directory ++ [name])) bytes tree).2 := by
  have named := isName_temporaryName valid
  have unmade := prepare_path stands proper valid here
  unfold write
  cases shape : prepare here (Location.path (directory ++ [name])) tree with
  | mk prepared made =>
    obtain rfl : tree = made := by simpa [shape] using unmade.symm
    cases prepared with
    | error failure => exact .refused (.refl _ _)
    | ok =>
      rw [temporary_path proper valid]
      dsimp only
      cases written : tree.write here (Location.path (directory ++ [temporaryName name])) bytes with
      | error fault => exact .refused (.refl _ _)
      | ok begun =>
        obtain ⟨place, located, other, rfl⟩ := write_origin written
        obtain rfl := locate_path stands proper named (.inr bare) located
        have plain := bare.plain other
        have changes : Changes (· = directory ++ [temporaryName name]) tree _ :=
          .put plain (by rfl) bytes
        have settled := settle_path (changes.stands stands) proper valid here
          (plain.put_there _) (changes.unlinked unlinked)
        exact settled.of_changes changes

end AtomicWrite
end Runbook
