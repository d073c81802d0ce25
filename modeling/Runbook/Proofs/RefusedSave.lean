import Mathlib
import Runbook.Proofs.Directories
import Runbook.Proofs.Saving

/-! What a save that is refused leaves. At whatever step it is refused, the temporary file is not
there any more and no other entry has changed. Only directories above the path stay, if some were
missing and have been made before. -/
namespace Runbook

namespace FileTree

variable {tree : FileTree} {here place : Location} {path : Text} {entry : Entry}
  {ending : Ending} {links : Nat} {names : List Text}

theorem erase_put (free : tree.get? place = none) : (tree.put place entry).erase place = tree := by
  have named : place ≠ [] := by
    rintro rfl
    simp at free
  have other : ∀ known ∈ tree.entries, known.1 ≠ place := by
    simpa [get?, named] using free
  have kept : tree.erase place = tree := by
    rw [erase, List.filter_eq_self.mpr fun known member => by simpa using other known member]
  calc (tree.put place entry).erase place = (tree.erase place).erase place := by
        simp [put, erase]
    _ = tree := by rw [kept, kept]

/-- A way that leads somewhere has a last name, and leads to its place unless a link is there. -/
theorem walk_kept (found : walk tree ending links here names = .ok place) :
    ∃ spot, walk tree .kept links here names = .ok spot ∧
      (tree.Unlinked spot → spot = place) := by
  fun_induction walk tree ending links here names with
  | case1 => exact ⟨place, by rwa [walk], fun _ => rfl⟩
  | case2 ending links here more ih =>
    rw [walk, if_pos rfl]
    exact ih found
  | case3 ending links here more other ih =>
    rw [walk, if_neg other, if_pos rfl]
    exact ih found
  | case4 | case7 | case11 | case13 => contradiction
  | case5 ending links here name more notDot notDots short there ih =>
    rw [walk, if_neg notDot, if_neg notDots, if_neg short, there]
    exact ih found
  | case6 ending links here name more notDot notDots short target there kept =>
    have last : more.isEmpty = true := (Bool.and_eq_true_iff.mp kept).1
    rw [walk, if_neg notDot, if_neg notDots, if_neg short, there]
    exact ⟨place, by simpa [last] using found, fun _ => rfl⟩
  | case8 ending here name more notDot notDots short target there notKept links asks ih =>
    cases above : walk tree .followed links (start here target) (stepsAbove target) <;>
      simp [above, bind, Except.bind] at found
  | case9 ending here name more notDot notDots short target there notKept links asks ih =>
    rw [walk, if_neg notDot, if_neg notDots, if_neg short, there]
    by_cases last : more.isEmpty = true
    · exact ⟨here ++ [name], by simp [last], fun unlinked => absurd there (unlinked target)⟩
    · simpa [last] using ih found
  | case10 ending links here name more notDot notDots short bytes there last
  | case12 ending links here name more notDot notDots short there last =>
    rw [walk, if_neg notDot, if_neg notDots, if_neg short, there]
    exact ⟨place, by simpa [last] using found, fun _ => rfl⟩

theorem locate_kept (located : tree.locate here path ending = .ok place) :
    ∃ spot, tree.locate here path .kept = .ok spot ∧ (tree.Unlinked spot → spot = place) := by
  simp only [locate, bind, Except.bind] at located ⊢
  split at located
  · contradiction
  · rename_i checked
    simpa only [checked] using walk_kept located

end FileTree

namespace AtomicWrite

open FileTree

variable {tree after : FileTree} {here : Location} {path : Text} {bytes : Bytes} {failure : Failure}

theorem settle_refused {made : FileTree} {place : Location} {temporary : Text}
    (located : made.locate here temporary .kept = .ok place) (free : made.get? place = none)
    (refused : settle here temporary path (made.put place (.file bytes)) = (.error failure, after)) :
    after = made := by
  have plain : made.IsPlain place := .of_none free
  have changes : Changes (fun _ => True) made (made.put place (.file bytes)) :=
    .put plain trivial bytes
  have stood := plain.put_there (.file bytes)
  have removed : (made.put place (.file bytes)).remove here temporary = .ok made := by
    simp only [remove, changes.locate located, bind, Except.bind, stood, erase_put free]
  unfold settle at refused
  split at refused
  · simp at refused
  · rw [removed] at refused
    exact (Prod.mk.inj refused).2.symm

theorem write_refused {made : FileTree} {prepared : Except Failure Unit}
    (first : prepare here path tree = (prepared, made))
    (fresh : ∀ temporary place, temporary? path = some temporary →
      made.locate here temporary .kept = .ok place → tree.get? place = none)
    (refused : write here path bytes tree = (.error failure, after)) : after = made := by
  have furnishes := furnishes_prepare here path tree
  rw [first] at furnishes
  unfold write at refused
  rw [first] at refused
  cases prepared with
  | error fault => exact (Prod.mk.inj refused).2.symm
  | ok =>
    dsimp only at refused
    split at refused
    · exact (Prod.mk.inj refused).2.symm
    · rename_i temporary named
      split at refused
      · exact (Prod.mk.inj refused).2.symm
      · rename_i begun written
        obtain ⟨into, located, other, rfl⟩ := write_origin written
        obtain ⟨place, kept, same⟩ := locate_kept located
        -- A directory may have been made there, but no file and no link.
        have nothing := fresh temporary place named kept
        have unlinked : made.Unlinked place := furnishes.unlinked_iff.mpr fun target link => by
          rw [nothing] at link
          contradiction
        obtain rfl := same unlinked
        have free : made.get? place = none :=
          (furnishes.made place nothing).resolve_right fun there => other there.1
        exact settle_refused kept free refused

/-- A save that is refused has made some of the directories above its path at most, and that only
where its parent was not there. The temporary file is gone, and all else is as it was. -/
theorem write_refused_furnishes
    (fresh : ∀ temporary place, temporary? path = some temporary →
      (prepare here path tree).2.locate here temporary .kept = .ok place →
        tree.get? place = none)
    (refused : write here path bytes tree = (.error failure, after)) :
    after = (prepare here path tree).2 ∧
      Furnishes here (Path.lineage ((Path.parent? path).getD [])) tree after ∧
      ((Path.parent? path).getD [] = [] ∨
          tree.reaches here ((Path.parent? path).getD []) = true → after = tree) := by
  have furnishes := furnishes_prepare here path tree
  cases shape : prepare here path tree with
  | mk prepared made =>
    rw [shape] at fresh furnishes
    obtain rfl := write_refused shape fresh refused
    refine ⟨rfl, furnishes, fun standing => ?_⟩
    have idle : (((Path.parent? path).getD []).isEmpty ||
        tree.reaches here ((Path.parent? path).getD [])) = true := by
      simpa [Bool.or_eq_true] using standing
    rw [prepare, if_pos idle] at shape
    exact (Prod.mk.inj shape).2.symm

/-- A directory stands where the file should go: the temporary file has been written, and is gone. -/
theorem write_refused_directory :
    let fresh := Utf8.encode "fresh"
    let tree : FileTree := ⟨[(["notes"], .directory), (["notes", "doc.md"], .directory)]⟩
    temporary? "notes/doc.md" = some "notes/.doc.md.tmp".toList ∧
      tree.get? ["notes", ".doc.md.tmp"] = none ∧
      write [] "notes/doc.md" fresh tree =
        (.error (refusal "atomically replace" "notes/doc.md" .isDirectory), tree) := by
  intro fresh tree
  have beside : temporary? "notes/doc.md" = some "notes/.doc.md.tmp".toList := by decide
  have free : tree.get? ["notes", ".doc.md.tmp"] = none := by decide
  have standing : prepare [] "notes/doc.md" tree = (.ok (), tree) := by cbv
  have written : tree.write [] "notes/.doc.md.tmp" fresh =
      .ok ⟨(["notes", ".doc.md.tmp"], .file fresh) :: tree.entries⟩ := by
    cbv
  have moved : (⟨(["notes", ".doc.md.tmp"], .file fresh) :: tree.entries⟩ : FileTree).rename []
      "notes/.doc.md.tmp" "notes/doc.md" = .error .isDirectory := by
    cbv
  obtain ⟨after, refused⟩ : ∃ after, write [] "notes/doc.md" fresh tree =
      (.error (refusal "atomically replace" "notes/doc.md" .isDirectory), after) := by
    simp only [write, standing, beside, written, settle, moved]
    exact ⟨_, rfl⟩
  have nothing : ∀ temporary place, temporary? "notes/doc.md" = some temporary →
      (prepare [] "notes/doc.md" tree).2.locate [] temporary .kept = .ok place →
        tree.get? place = none := by
    intro temporary place named located
    obtain rfl := Option.some.inj (beside.symm.trans named)
    have leads : tree.locate [] "notes/.doc.md.tmp" .kept =
        .ok ["notes".toList, ".doc.md.tmp".toList] := by
      cbv
    rw [standing, leads] at located
    exact Except.ok.inj located ▸ free
  obtain ⟨same, -, -⟩ := write_refused_furnishes nothing refused
  obtain rfl : after = tree := same.trans (congrArg Prod.snd standing)
  exact ⟨beside, free, refused⟩

/-- A path that names no file is refused when the directory above it has been made already. And once
that is made, the temporary path may lead to a file that it did not lead to before. -/
theorem write_refused_not_untouched :
    let fresh := Utf8.encode "fresh"
    let tree : FileTree :=
      ⟨[([".doc.md.tmp"], .file (Utf8.encode "old")), (["doc.md"], .directory)]⟩
    temporary? "notes/.." = none ∧
      write [] "notes/.." fresh {} =
        (.error (.write "invalid file path 'notes/..'"), ⟨[(["notes"], .directory)]⟩) ∧
      temporary? "new/../doc.md" = some "new/../.doc.md.tmp".toList ∧
      tree.locate [] "new/../.doc.md.tmp" .kept = .error .missing ∧
      write [] "new/../doc.md" fresh tree =
        (.error (refusal "atomically replace" "new/../doc.md" .isDirectory),
          ⟨[(["new"], .directory), (["doc.md"], .directory)]⟩) := by
  intro fresh tree
  let made : FileTree := ⟨(["new"], .directory) :: tree.entries⟩
  let begun : FileTree :=
    ⟨[([".doc.md.tmp"], .file fresh), (["new"], .directory), (["doc.md"], .directory)]⟩
  have beside : temporary? "new/../doc.md" = some "new/../.doc.md.tmp".toList := by decide
  have furnished : prepare [] "new/../doc.md" tree = (.ok (), made) := by cbv
  have written : made.write [] "new/../.doc.md.tmp" fresh = .ok begun := by cbv
  have moved : begun.rename [] "new/../.doc.md.tmp" "new/../doc.md" = .error .isDirectory := by cbv
  have removed : begun.remove [] "new/../.doc.md.tmp" =
      .ok ⟨[(["new"], .directory), (["doc.md"], .directory)]⟩ := by
    cbv
  refine ⟨by decide, by cbv, beside, by cbv, ?_⟩
  simp only [write, furnished, beside, written, settle, moved, removed]
  rfl

end AtomicWrite
end Runbook
