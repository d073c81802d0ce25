import Mathlib
import Runbook.Proofs.Directories
import Runbook.Proofs.TemporaryPath

/-! What a save that succeeds has changed. Missing directories above the path have been added, and
the target is a new file. All else is as it was, unless a link stood at the temporary place: then
the content has gone to where that link leads, and the link has become the target. -/
namespace Runbook.AtomicWrite

open FileTree

variable {tree after : FileTree} {here : Location} {path : Text} {bytes : Bytes}

theorem write_done (done : write here path bytes tree = (.ok (), after)) :
    ∃ made temporary begun, prepare here path tree = (.ok (), made) ∧
      temporary? path = some temporary ∧ made.write here temporary bytes = .ok begun ∧
      begun.rename here temporary path = .ok after := by
  unfold write at done
  split at done
  · simp at done
  · rename_i made prepared
    split at done
    · simp at done
    · rename_i temporary named
      split at done
      · simp at done
      · rename_i begun written
        unfold settle at done
        split at done
        · rename_i moved renamed
          obtain rfl := (Prod.mk.inj done).2
          exact ⟨made, temporary, begun, prepared, named, written, renamed⟩
        · simp at done

/-- The target is a file with the content, nothing is left at the temporary place, and nothing else
has changed. -/
structure Replaced (place temporary : Location) (bytes : Bytes) (before after : FileTree) :
    Prop where
  holds : after.get? place = some (.file bytes)
  gone : after.get? temporary = none
  same : ∀ other, other ≠ place → other ≠ temporary → after.get? other = before.get? other

/-- The content has gone to another place, by a link that was at the temporary place and is the
target now. -/
structure Diverted (place temporary into : Location) (bytes : Bytes) (before after : FileTree) :
    Prop where
  link : ∃ target, before.get? temporary = some (.link target) ∧
    after.get? place = some (.link target)
  gone : after.get? temporary = none
  written : ∀ other, other ≠ place → other ≠ temporary →
    after.get? other = if other = into then some (.file bytes) else before.get? other

theorem slot_beside {slot : Slot} {temporary : Text} (found : tree.slot here path = .ok slot)
    (named : slot.isDots = false) (plain : asksForDirectory path = false)
    (aside : temporary? path = some temporary) (checked : check temporary = .ok ()) :
    Path.IsName slot.name ∧ Path.fileName? path = some slot.name ∧
      asksForDirectory temporary = false ∧ start here temporary = start here path ∧
      tree.slot here temporary = .ok ⟨slot.directory, temporaryName slot.name⟩ ∧
      (tree.Stands (start here path) → tree.Stands slot.directory) := by
  obtain ⟨-, split, left, leads⟩ := slot_leads found named
  have member : slot.name ∈ names path := by
    rw [split]
    exact List.mem_concat_self
  obtain ⟨nonempty, flat⟩ := isStep_names member
  obtain ⟨notDot, notDots⟩ : slot.name ≠ ['.'] ∧ slot.name ≠ ['.', '.'] := by
    simpa [Slot.isDots] using named
  have valid : Path.IsName slot.name := ⟨nonempty, flat, notDot, notDots⟩
  obtain ⟨file, other, front, dots, aside', above, dotted, last, root, proper⟩ :=
    temporary_beside plain split valid
  obtain rfl : temporary = other := Option.some.inj (aside.symm.trans aside')
  have begins : start here temporary = start here path := by rw [start, root, start]
  refine ⟨valid, file, proper, begins, ?_, leads.stands⟩
  have whole := leads.walk_dot .followed
  rw [above, List.append_assoc] at whole
  obtain ⟨rest, directory, first⟩ := leads_of_walk whole (by simp)
  have onward := (first.append (.idle dotted)).walk_dot .followed
  rw [List.append_assoc, whole] at onward
  obtain rfl := Except.ok.inj onward
  simp only [FileTree.slot, checked, bind, Except.bind, begins, stepsAbove, last,
    List.dropLast_concat, first.walk_dot, List.getLastD_concat]

variable {made : FileTree} {directory into : Location} {name : Text} {moved : Entry}

/-- A save that succeeds has written a temporary file, or the place that a link there leads to, and
has moved what stands at the temporary place over the target. -/
theorem write_moved (stands : tree.Stands (start here path))
    (done : write here path bytes tree = (.ok (), after)) :
    ∃ made directory name temporary into moved, prepare here path tree = (.ok (), made) ∧
      Path.fileName? path = some name ∧ temporary? path = some temporary ∧
      made.locate here path .kept = .ok (directory ++ [name]) ∧
      (∀ ending, ending = .kept ∨ made.Unlinked (directory ++ [temporaryName name]) →
        made.locate here temporary ending = .ok (directory ++ [temporaryName name])) ∧
      made.locate here temporary .made = .ok into ∧ made.IsPlain into ∧ made.Stands directory ∧
      (made.put into (.file bytes)).get? (directory ++ [temporaryName name]) = some moved ∧
      after = ((made.put into (.file bytes)).erase (directory ++ [temporaryName name])).put
        (directory ++ [name]) moved := by
  obtain ⟨made, temporary, begun, prepared, aside, written, renamed⟩ := write_done done
  have furnishes := furnishes_prepare here path tree
  rw [prepared] at furnishes
  obtain ⟨into, located, other, rfl⟩ := write_origin written
  obtain ⟨origin, goal, moved, left, entered, named, fits, short, plain, stood, -, -, rfl⟩ :=
    rename_slots renamed
  obtain ⟨valid, file, proper, begins, beside, onward⟩ :=
    slot_beside entered named plain aside (slot_origin left).1
  obtain rfl : origin = ⟨goal.directory, temporaryName goal.name⟩ :=
    Except.ok.inj (left.symm.trans beside)
  have starts := furnishes.stands stands
  have free : made.IsPlain into := by
    cases Stands.reached_path (begins ▸ starts) located with
    | directory stands => exact absurd stands.last other
    | entry _ plain => exact plain (by simp)
  -- The places are those from before the temporary file was written, which is no directory.
  have changes : Changes (· = into) made (made.put into (.file bytes)) := .put free (by rfl) bytes
  have fresh := isName_temporaryName valid
  exact ⟨made, goal.directory, goal.name, temporary, into, moved, prepared, file, aside,
    locate_slot (changes.symm.carries.slot entered) named short (.inl rfl) (.inl plain),
    fun ending meant => locate_slot (changes.symm.carries.slot beside)
      (by simp [Slot.isDots, fresh.notDot, fresh.notDots]) fits meant (.inl proper),
    located, free, changes.symm.stands (onward (changes.stands starts)), stood, rfl⟩

theorem get?_moved (free : made.IsPlain into) (other : Location) :
    (((made.put into (.file bytes)).erase (directory ++ [temporaryName name])).put
        (directory ++ [name]) moved).get? other =
      if other = directory ++ [name] then some moved
      else if other = directory ++ [temporaryName name] then none
      else if other = into then some (.file bytes) else made.get? other := by
  rw [get?_put _ _ _ _ (by simp), get?_erase _ _ _ (by simp), get?_put _ _ _ _ free.named]

theorem stands_moved (free : made.IsPlain into) (stands : made.Stands directory) :
    (((made.put into (.file bytes)).erase (directory ++ [temporaryName name])).put
      (directory ++ [name]) moved).Stands directory := by
  intro above within
  have apart (last : Text) : above ≠ directory ++ [last] := by
    rintro rfl
    have shorter := within.length_le
    rw [List.length_append, List.length_singleton] at shorter
    omega
  have spared : above ≠ into := by
    rintro rfl
    obtain ⟨bytes, file⟩ := free _ (stands above within)
    contradiction
  rw [get?_moved free, if_neg (apart _), if_neg (apart _), if_neg spared]
  exact stands above within

theorem replaced_moved (free : made.IsPlain (directory ++ [temporaryName name])) :
    Replaced (directory ++ [name]) (directory ++ [temporaryName name]) bytes made
      (((made.put (directory ++ [temporaryName name]) (.file bytes)).erase
        (directory ++ [temporaryName name])).put (directory ++ [name]) (.file bytes)) where
  holds := by rw [get?_moved free, if_pos rfl]
  gone := by rw [get?_moved free, if_neg (by simpa using temporaryName_ne name), if_pos rfl]
  same other target temporary := by
    rw [get?_moved free, if_neg target, if_neg temporary, if_neg temporary]

theorem diverted_moved {target : Text} (free : made.IsPlain into)
    (link : made.get? (directory ++ [temporaryName name]) = some (.link target)) :
    Diverted (directory ++ [name]) (directory ++ [temporaryName name]) into bytes made
      (((made.put into (.file bytes)).erase (directory ++ [temporaryName name])).put
        (directory ++ [name]) (.link target)) where
  link := ⟨target, link, by rw [get?_moved free, if_pos rfl]⟩
  gone := by rw [get?_moved free, if_neg (by simpa using temporaryName_ne name), if_pos rfl]
  written other goal temporary := by rw [get?_moved free, if_neg goal, if_neg temporary]

theorem Diverted.not_replaced {place temporary : Location}
    (diverted : Diverted place temporary into bytes made after) :
    ¬ Replaced place temporary bytes made after := by
  intro replaced
  obtain ⟨target, -, link⟩ := diverted.link
  rw [replaced.holds] at link
  simp at link

/-- A save that succeeds has made the missing directories above its path. It has replaced the
target, with nothing left at the temporary place and nothing else changed, exactly if no link stood
at the temporary place. If one stood there, the content is where it leads to and the link is the
target. -/
theorem write_replaces_iff (stands : tree.Stands (start here path))
    (done : write here path bytes tree = (.ok (), after)) :
    ∃ made directory name temporary, prepare here path tree = (.ok (), made) ∧
      Furnishes here (Path.lineage ((Path.parent? path).getD [])) tree made ∧
      Path.fileName? path = some name ∧ temporary? path = some temporary ∧
      made.locate here path .kept = .ok (directory ++ [name]) ∧
      made.locate here temporary .kept = .ok (directory ++ [temporaryName name]) ∧
      after.Stands directory ∧
      (Replaced (directory ++ [name]) (directory ++ [temporaryName name]) bytes made after ↔
        tree.Unlinked (directory ++ [temporaryName name])) ∧
      (¬ tree.Unlinked (directory ++ [temporaryName name]) →
        ∃ into, made.locate here temporary .made = .ok into ∧
          Diverted (directory ++ [name]) (directory ++ [temporaryName name]) into bytes made
            after) := by
  obtain ⟨made, directory, name, temporary, into, moved, prepared, file, aside, target, beside,
    located, free, stood, moving, rfl⟩ := write_moved stands done
  have furnishes := furnishes_prepare here path tree
  rw [prepared] at furnishes
  dsimp only at furnishes
  refine ⟨made, directory, name, temporary, prepared, furnishes, file, aside, target,
    beside .kept (.inl rfl), stands_moved free stood, ?_⟩
  rw [← furnishes.unlinked_iff]
  by_cases unlinked : made.Unlinked (directory ++ [temporaryName name])
  · obtain rfl := Except.ok.inj (located.symm.trans (beside .made (.inr unlinked)))
    rw [free.put_there] at moving
    obtain rfl := Option.some.inj moving
    exact ⟨iff_of_true (replaced_moved free) unlinked, absurd unlinked⟩
  · obtain ⟨text, link⟩ : ∃ text, made.get? (directory ++ [temporaryName name]) =
        some (.link text) := by
      simpa [Unlinked] using unlinked
    have other : directory ++ [temporaryName name] ≠ into := by
      rintro rfl
      obtain ⟨bytes, same⟩ := free _ link
      contradiction
    rw [get?_put _ _ _ _ free.named, if_neg other, link] at moving
    obtain rfl := Option.some.inj moving
    have diverted : Diverted _ _ into bytes made _ := diverted_moved free link
    exact ⟨iff_of_false diverted.not_replaced unlinked, fun _ => ⟨into, located, diverted⟩⟩

/-- A new file is put over a link, with what a broken save has left beside it. What the link led to
stays. -/
theorem write_replaces_link :
    let keep := Utf8.encode "keep"
    let fresh := Utf8.encode "fresh"
    let tree : FileTree := ⟨[(["notes"], .directory), (["notes", "keep.md"], .file keep),
      (["notes", "doc.md"], .link "keep.md"), (["notes", ".doc.md.tmp"], .file [])]⟩
    let after : FileTree := ⟨[(["notes", "doc.md"], .file fresh), (["notes"], .directory),
      (["notes", "keep.md"], .file keep)]⟩
    tree.Stands (start [] "notes/doc.md") ∧
      write [] "notes/doc.md" fresh tree = (.ok (), after) ∧
      Replaced ["notes", "doc.md"] ["notes", ".doc.md.tmp"] fresh tree after := by
  intro keep fresh tree after
  have stands : tree.Stands (start [] "notes/doc.md") := by
    have begins : start [] "notes/doc.md" = [] := by decide
    rw [begins]
    exact .root tree
  have done : write [] "notes/doc.md" fresh tree = (.ok (), after) := by cbv
  obtain ⟨made, directory, name, temporary, prepared, -, file, -, target, -, -, law, -⟩ :=
    write_replaces_iff stands done
  obtain rfl : tree = made := by
    have standing : prepare [] "notes/doc.md" tree = (.ok (), tree) := by cbv
    exact (Prod.mk.inj (standing.symm.trans prepared)).2
  obtain rfl : "doc.md".toList = name := by
    have last : Path.fileName? "notes/doc.md" = some "doc.md".toList := by decide
    exact Option.some.inj (last.symm.trans file)
  obtain rfl : ["notes".toList] = directory := by
    have place : tree.locate [] "notes/doc.md" .kept =
        .ok (["notes".toList] ++ ["doc.md".toList]) := by
      cbv
    exact List.append_cancel_right (Except.ok.inj (place.symm.trans target))
  refine ⟨stands, done, law.mpr fun text there => ?_⟩
  have stale : tree.get? (["notes".toList] ++ [temporaryName "doc.md"]) = some (.file []) := by
    decide
  rw [stale] at there
  simp at there

/-- A link at the temporary place: the save succeeds, the document is a link and another file has
its content. -/
theorem write_diverts :
    let keep := Utf8.encode "keep"
    let fresh := Utf8.encode "fresh"
    let tree : FileTree := ⟨[(["victim"], .file keep), ([".doc.md.tmp"], .link "victim")]⟩
    (write [] "doc.md" fresh tree).1 = .ok () ∧
      (write [] "doc.md" fresh tree).2.get? ["doc.md"] = some (.link "victim") ∧
      (write [] "doc.md" fresh tree).2.get? ["victim"] = some (.file fresh) ∧ fresh ≠ keep := by
  intro keep fresh tree
  have done : write [] "doc.md" fresh tree =
      (.ok (), ⟨[(["doc.md"], .link "victim"), (["victim"], .file fresh)]⟩) := by
    cbv
  rw [done]
  exact ⟨rfl, by decide, by decide, by decide⟩

end Runbook.AtomicWrite
