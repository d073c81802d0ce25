import Runbook.Proofs.Saving

/-! The temporary path beside any path that ends in the name of an entry. It is put together from
the text of the path, without the empty pieces and single dots before the last name; so it goes over
the same names, apart from these dots, and ends in the temporary name. -/
namespace Runbook

namespace Path

variable {path above name : Text} {reversed : List Text}

/-- A path is taken apart at its slashes. -/
theorem pieces_eq_splitOn (path : Text) : pieces path = List.splitOn '/' path := by
  induction path with
  | nil => simp [pieces]
  | cons c path ih =>
    rw [pieces, List.splitOn_cons_eq_if_modifyHead, ← ih]
    split
    · simp_all
    · rename_i differs
      have some : pieces path ≠ [] := ih ▸ List.splitOn_ne_nil _ _
      obtain ⟨first, more, shape⟩ := List.exists_cons_of_ne_nil some
      simp [shape, differs]

theorem pieces_slash (front rest : Text) :
    pieces (front ++ '/' :: rest) = pieces front ++ pieces rest := by
  simp only [pieces_eq_splitOn, List.splitOn_append_cons_self]

theorem pieces_ne_nil (path : Text) : pieces path ≠ [] := by
  rw [pieces_eq_splitOn]
  exact List.splitOn_ne_nil _ _

/-- A path has no slash, or a last one. -/
theorem exists_last_slash (path : Text) :
    '/' ∉ path ∨ ∃ front last, path = front ++ '/' :: last ∧ '/' ∉ last := by
  induction path with
  | nil => exact .inl List.not_mem_nil
  | cons c path ih =>
    rcases ih with flat | ⟨front, last, rfl, flat⟩
    · by_cases slash : c = '/'
      · exact .inr ⟨[], path, by rw [slash]; rfl, flat⟩
      · exact .inl (by simp [flat, Ne.symm slash])
    · exact .inr ⟨c :: front, last, rfl, flat⟩

/-- Only empty pieces and single dots are left out. -/
theorem dropIdle_split (reversed : List Text) :
    ∃ idle, reversed = idle ++ dropIdle reversed ∧ ∀ piece ∈ idle, piece = [] ∨ piece = ['.'] := by
  fun_induction dropIdle reversed with
  | case1 => exact ⟨[], rfl, by simp⟩
  | case2 => exact ⟨[], rfl, by simp⟩
  | case3 piece more _ leaves ih =>
    obtain ⟨idle, whole, same⟩ := ih
    refine ⟨piece :: idle, by rw [List.cons_append, ← whole], ?_⟩
    exact List.forall_mem_cons.mpr ⟨by simpa using leaves, same⟩
  | case4 => exact ⟨[], rfl, by simp⟩

theorem dropIdle_ne_nil (some : reversed ≠ []) : dropIdle reversed ≠ [] := by
  fun_induction dropIdle reversed with
  | case1 => contradiction
  | case2 => simp
  | case3 piece more other _ ih => exact ih (by rintro rfl; simp at other)
  | case4 => simp

/-- The last piece that is kept is not empty, if it is not the first as well. -/
theorem dropIdle_head {piece : Text} {more : List Text} (kept : dropIdle reversed = piece :: more)
    (some : more ≠ []) : piece ≠ [] := by
  fun_induction dropIdle reversed with
  | case1 => contradiction
  | case2 => simp_all
  | case3 piece more _ _ ih => exact ih kept
  | case4 first rest _ stays =>
    obtain ⟨rfl, rfl⟩ := List.cons.inj kept
    rintro rfl
    simp at stays

/-- What is joined to a parent stands behind a slash, and the pieces before it are those of the
parent. -/
theorem join_ofReversed (flat : ∀ piece ∈ reversed, '/' ∉ piece) (some : reversed ≠ [])
    (relative : isAbsolute name = false) : ∃ above,
      join (ofReversed reversed) name = above ++ '/' :: name ∧
        pieces above = (dropIdle reversed).reverse := by
  by_cases root : dropIdle reversed = [[]]
  · refine ⟨[], ?_, by simp [root, pieces]⟩
    simp [ofReversed, root, join, relative]
  · have kept : ofReversed reversed = Text.joined ['/'] (dropIdle reversed).reverse := by
      unfold ofReversed
      split
      · contradiction
      · rfl
    have parts : pieces (ofReversed reversed) = (dropIdle reversed).reverse := by
      rw [kept]
      refine pieces_joined (fun piece member => ?_) (by simpa using dropIdle_ne_nil some)
      exact flat piece ((dropIdle_suffix _).subset (List.mem_reverse.mp member))
    refine ⟨ofReversed reversed, ?_, parts⟩
    have nonempty : ofReversed reversed ≠ [] := by
      intro nothing
      rw [nothing, pieces] at parts
      exact root (by simpa using (congrArg List.reverse parts).symm)
    have behind : (ofReversed reversed).getLast? ≠ Option.some '/' := by
      intro ends
      obtain ⟨front, whole⟩ := List.getLast?_eq_some_iff.mp ends
      rw [whole, pieces_slash, pieces] at parts
      have order := congrArg List.reverse parts
      rw [List.reverse_reverse, List.reverse_append] at order
      exact dropIdle_head order.symm (by simpa using pieces_ne_nil front) rfl
    simp [join, relative, nonempty, behind]

theorem isAbsolute_slash (front rest : Text) :
    isAbsolute (front ++ '/' :: rest) = ((pieces front).head? == some []) := by
  cases front with
  | nil => rfl
  | cons c front =>
    rw [pieces_eq_splitOn, List.splitOn_cons_eq_if_modifyHead]
    by_cases slash : c = '/'
    · simp [isAbsolute, slash]
    · cases shape : List.splitOn '/' front <;> simp [isAbsolute, slash]

theorem reversedPieces_flat (flat : '/' ∉ name) : reversedPieces name = [name] := by
  simp [reversedPieces, pieces_flat flat, dropIdle]

/-- A name stays the last piece, and what stands before it is kept as it is. -/
theorem reversedPieces_slash (front : Text) (valid : IsName name) :
    reversedPieces (front ++ '/' :: name) = name :: (pieces front).reverse := by
  have some : (pieces front).reverse ≠ [] := by simpa using pieces_ne_nil front
  obtain ⟨piece, more, shape⟩ := List.exists_cons_of_ne_nil some
  rw [reversedPieces, pieces_slash, pieces_flat valid.flat, List.reverse_append,
    List.reverse_singleton, List.singleton_append, shape]
  simp [dropIdle, valid.nonempty, valid.notDot]

theorem fileName_of_reversedPieces (valid : IsName name) {more : List Text}
    (shape : reversedPieces path = name :: more) : fileName? path = some name := by
  simp [fileName?, shape, valid.nonempty, valid.notDot, valid.notDots]

theorem parent_slash (front : Text) (valid : IsName name) :
    parent? (front ++ '/' :: name) = some (ofReversed (pieces front).reverse) := by
  have some : (pieces front).reverse ≠ [] := by simpa using pieces_ne_nil front
  obtain ⟨piece, more, shape⟩ := List.exists_cons_of_ne_nil some
  simp [parent?, reversedPieces_slash front valid, shape]

end Path

namespace FileTree

theorem names_slash (front rest : Text) :
    names (front ++ '/' :: rest) = names front ++ names rest := by
  rw [names, Path.pieces_slash, List.filter_append]
  rfl

theorem names_flat {name : Text} (flat : '/' ∉ name) (nonempty : name ≠ []) :
    names name = [name] := by
  simp [names, Path.pieces_flat flat, nonempty]

theorem asksForDirectory_flat {name : Text} (flat : '/' ∉ name) :
    asksForDirectory name = false := by
  simpa [asksForDirectory] using fun ends => flat (List.mem_of_getLast? ends)

theorem asksForDirectory_slash {name : Text} (front : Text) (nonempty : name ≠ []) :
    asksForDirectory (front ++ '/' :: name) = asksForDirectory name := by
  rw [asksForDirectory, asksForDirectory, List.getLast?_append,
    List.getLast?_cons_of_ne_nil nonempty, List.getLast?_eq_some_getLast nonempty, Option.some_or]

end FileTree

namespace AtomicWrite

open FileTree

variable {path name : Text} {above : List Text}

/-- The temporary path goes over the names above the path, apart from single dots, and ends in a
name of its own. -/
theorem temporary_beside (plain : asksForDirectory path = false)
    (split : names path = above ++ [name]) (valid : Path.IsName name) :
    Path.fileName? path = some name ∧ ∃ temporary front dots, temporary? path = some temporary ∧
      above = front ++ dots ∧ (∀ dot ∈ dots, dot = ['.']) ∧
      names temporary = front ++ [temporaryName name] ∧
      Path.isAbsolute temporary = Path.isAbsolute path ∧ asksForDirectory temporary = false := by
  have fresh := isName_temporaryName valid
  rcases Path.exists_last_slash path with flat | ⟨front, last, rfl, flat⟩
  · -- A name by itself has its temporary name beside it.
    have nonempty : path ≠ [] := by
      rintro rfl
      simp [names, Path.pieces] at split
    rw [names_flat flat nonempty] at split
    obtain ⟨rfl, same⟩ := List.append_inj' (show [] ++ [path] = above ++ [name] from split) rfl
    obtain rfl := (List.cons.inj same).1
    have reversed := Path.reversedPieces_flat flat
    have file := Path.fileName_of_reversedPieces valid reversed
    have relative : Path.isAbsolute ('.' :: path ++ ".tmp".toList) = false := fresh.not_isAbsolute
    refine ⟨file, temporaryName path, [], [], ?_, rfl, by simp,
      names_flat fresh.flat fresh.nonempty, by rw [fresh.not_isAbsolute, valid.not_isAbsolute],
      asksForDirectory_flat fresh.flat⟩
    simp only [temporary?, file, Path.parent?, reversed, Option.map_some, Option.getD_some,
      Path.join, relative]
    rfl
  · -- Behind a directory the pieces that name no entry are left out.
    have nonempty : last ≠ [] := by
      rintro rfl
      simp [asksForDirectory] at plain
    rw [names_slash, names_flat flat nonempty] at split
    obtain ⟨rfl, same⟩ := List.append_inj' split rfl
    obtain rfl := (List.cons.inj same).1
    have file := Path.fileName_of_reversedPieces valid (Path.reversedPieces_slash front valid)
    obtain ⟨above, joined, parts⟩ := Path.join_ofReversed
      (fun piece member => Path.flat_of_mem_pieces (List.mem_reverse.mp member))
      (by simpa using Path.pieces_ne_nil front) fresh.not_isAbsolute
    obtain ⟨idle, whole, leaves⟩ := Path.dropIdle_split (Path.pieces front).reverse
    have order : Path.pieces front = Path.pieces above ++ idle.reverse := by
      rw [parts, ← List.reverse_append, ← whole, List.reverse_reverse]
    refine ⟨file, above ++ '/' :: temporaryName last, names above,
      idle.reverse.filter (!·.isEmpty), ?_, ?_, ?_, ?_, ?_, ?_⟩
    · rw [temporary?, file, Path.parent_slash front valid]
      exact congrArg some joined
    · rw [names, order, List.filter_append]
      rfl
    · intro dot member
      obtain ⟨listed, nonempty⟩ := List.mem_filter.mp member
      exact (leaves dot (List.mem_reverse.mp listed)).resolve_left (by simpa using nonempty)
    · rw [names_slash, names_flat fresh.flat fresh.nonempty]
    · obtain ⟨piece, more, shape⟩ := List.exists_cons_of_ne_nil (Path.pieces_ne_nil above)
      rw [Path.isAbsolute_slash, Path.isAbsolute_slash, order, shape]
      rfl
    · rw [asksForDirectory_slash _ fresh.nonempty, asksForDirectory_flat fresh.flat]

end AtomicWrite
end Runbook
