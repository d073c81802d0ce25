import Runbook.FileTree.Route

/-! Places and the paths that are written for them. A place whose names are names of entries is
written as a path from which its names, its directory and its last name are read again. -/
namespace Runbook

namespace Path

/-- What an entry of a directory can be called. -/
structure IsName (name : Text) : Prop where
  nonempty : name ≠ []
  flat : '/' ∉ name
  notDot : name ≠ ['.']
  notDots : name ≠ ['.', '.']

instance (name : Text) : Decidable (IsName name) :=
  decidable_of_iff (name ≠ [] ∧ '/' ∉ name ∧ name ≠ ['.'] ∧ name ≠ ['.', '.'])
    ⟨fun ⟨nonempty, flat, dot, dots⟩ => ⟨nonempty, flat, dot, dots⟩,
      fun h => ⟨h.nonempty, h.flat, h.notDot, h.notDots⟩⟩

variable {name piece rest : Text}

theorem pieces_flat (flat : '/' ∉ piece) : pieces piece = [piece] := by
  induction piece with
  | nil => rfl
  | cons c piece ih =>
    simp only [List.mem_cons, not_or] at flat
    rw [pieces, if_neg (Ne.symm flat.1), ih flat.2]

theorem pieces_append (flat : '/' ∉ piece) (rest : Text) :
    pieces (piece ++ '/' :: rest) = piece :: pieces rest := by
  induction piece with
  | nil => simp [pieces]
  | cons c piece ih =>
    simp only [List.mem_cons, not_or] at flat
    rw [List.cons_append, pieces, if_neg (Ne.symm flat.1), ih flat.2]

/-- No piece holds a slash. -/
theorem flat_of_mem_pieces {path : Text} (member : piece ∈ pieces path) : '/' ∉ piece := by
  induction path generalizing piece with
  | nil =>
    rw [List.mem_singleton.mp member]
    simp
  | cons c path ih =>
    unfold pieces at member
    split at member
    · rcases List.mem_cons.mp member with rfl | member
      · simp
      · exact ih member
    · rename_i differs
      split at member
      · rw [List.mem_singleton.mp member]
        simpa using Ne.symm differs
      · rename_i first more shape
        rcases List.mem_cons.mp member with rfl | member
        · simp only [List.mem_cons, not_or]
          exact ⟨Ne.symm differs, ih (by simp [shape])⟩
        · exact ih (by simp [shape, member])

theorem pieces_joined {names : List Text} (flat : ∀ name ∈ names, '/' ∉ name)
    (nonempty : names ≠ []) : pieces (Text.joined ['/'] names) = names := by
  induction names with
  | nil => exact absurd rfl nonempty
  | cons name names ih =>
    have first := flat name (by simp)
    cases names with
    | nil => simpa [Text.joined] using pieces_flat first
    | cons next names =>
      have others := ih (fun other member => flat other (by simp [member])) (by simp)
      have cut := pieces_append first (Text.joined ['/'] (next :: names))
      simp only [Text.joined, List.intercalate_cons_cons, List.append_assoc,
        List.singleton_append] at cut others ⊢
      rw [cut, others]

/-! ## The characters of a path -/

theorem mem_of_mem_pieces {path : Text} {c : Char} (member : piece ∈ pieces path) (inside : c ∈ piece) :
    c ∈ path := by
  induction path generalizing piece with
  | nil =>
    rw [List.mem_singleton.mp member] at inside
    contradiction
  | cons d path ih =>
    unfold pieces at member
    split at member
    · rcases List.mem_cons.mp member with rfl | member
      · contradiction
      · exact List.mem_cons_of_mem _ (ih member inside)
    · split at member
      · rw [List.mem_singleton.mp member] at inside
        rw [List.mem_singleton.mp inside]
        exact List.mem_cons_self
      · rename_i first more shape
        rcases List.mem_cons.mp member with rfl | member
        · rcases List.mem_cons.mp inside with rfl | inside
          · exact List.mem_cons_self
          · exact List.mem_cons_of_mem _ (ih (by simp [shape]) inside)
        · exact List.mem_cons_of_mem _ (ih (by simp [shape, member]) inside)

theorem dropIdle_suffix (reversed : List Text) : dropIdle reversed <:+ reversed := by
  fun_induction dropIdle reversed with
  | case1 => exact List.suffix_refl _
  | case2 => exact List.suffix_refl _
  | case3 piece more _ _ ih => exact ih.trans (List.suffix_cons _ _)
  | case4 => exact List.suffix_refl _

theorem mem_of_mem_reversedPieces {path : Text} {c : Char} (member : piece ∈ reversedPieces path)
    (inside : c ∈ piece) : c ∈ path :=
  mem_of_mem_pieces (List.mem_reverse.mp ((dropIdle_suffix _).subset member)) inside

theorem mem_joined {parts : List Text} {c : Char} (member : c ∈ Text.joined ['/'] parts) :
    c = '/' ∨ ∃ part ∈ parts, c ∈ part := by
  induction parts with
  | nil => simp [Text.joined] at member
  | cons part parts ih =>
    cases parts with
    | nil => exact .inr ⟨part, by simp, by simpa [Text.joined] using member⟩
    | cons next parts =>
      simp only [Text.joined, List.intercalate_cons_cons, List.append_assoc, List.mem_append,
        List.mem_singleton] at member ih
      rcases member with inside | rfl | member
      · exact .inr ⟨part, by simp, inside⟩
      · exact .inl rfl
      · rcases ih member with rfl | ⟨other, there, inside⟩
        · exact .inl rfl
        · exact .inr ⟨other, by simp [there], inside⟩

theorem mem_join {path : Text} {c : Char} (member : c ∈ join path name) :
    c = '/' ∨ c ∈ path ∨ c ∈ name := by
  unfold join at member
  split at member
  · exact .inr (.inr member)
  · split at member
    · exact .inr (List.mem_append.mp member)
    · rcases List.mem_append.mp member with inside | inside
      · exact .inr (.inl inside)
      · rcases List.mem_cons.mp inside with rfl | inside
        · exact .inl rfl
        · exact .inr (.inr inside)

theorem mem_ofReversed {reversed : List Text} {c : Char} (member : c ∈ ofReversed reversed) :
    c = '/' ∨ ∃ part ∈ reversed, c ∈ part := by
  unfold ofReversed at member
  split at member
  · exact .inl (List.mem_singleton.mp member)
  · rcases mem_joined member with same | ⟨part, there, inside⟩
    · exact .inl same
    · exact .inr ⟨part, (dropIdle_suffix _).subset (List.mem_reverse.mp there), inside⟩

theorem mem_parent {path above : Text} {c : Char} (found : parent? path = some above)
    (member : c ∈ above) : c = '/' ∨ c ∈ path := by
  unfold parent? at found
  split at found
  · contradiction
  · contradiction
  · obtain rfl := Option.some.inj found
    contradiction
  · rename_i first more _ shape
    obtain rfl := Option.some.inj found
    rcases mem_ofReversed member with same | ⟨part, there, inside⟩
    · exact .inl same
    · have there : part ∈ reversedPieces path := shape ▸ List.mem_cons_of_mem _ there
      exact .inr (mem_of_mem_reversedPieces there inside)

theorem mem_fileName {path : Text} {c : Char} (found : fileName? path = some name)
    (member : c ∈ name) : c ∈ path := by
  unfold fileName? at found
  split at found
  · contradiction
  · rename_i last more shape
    split at found
    · contradiction
    · obtain rfl := Option.some.inj found
      exact mem_of_mem_reversedPieces (shape ▸ List.mem_cons_self) member

theorem mem_stem {c : Char} (member : c ∈ stem name) : c ∈ name := by
  unfold stem at member
  split at member
  · exact member
  · exact member
  · rename_i dot before _ shape
    have behind : c ∈ name.reverse.dropWhile (· != '.') := by
      rw [shape]
      exact List.mem_cons_of_mem _ (List.mem_reverse.mp member)
    exact List.mem_reverse.mp ((List.dropWhile_suffix _).subset behind)

/-- The stem of a name is what stands before its last dot. -/
theorem stem_dot {stem extension : Text} (some : stem ≠ []) (plain : '.' ∉ extension) :
    Path.stem (stem ++ '.' :: extension) = stem := by
  have differs : ∀ c ∈ extension.reverse, (c != '.') = true := by
    intro c member
    simpa using fun same : c = '.' => plain (same ▸ List.mem_reverse.mp member)
  have reversed : (stem ++ '.' :: extension).reverse.dropWhile (· != '.') =
      '.' :: stem.reverse := by
    rw [List.reverse_append, List.reverse_cons, List.append_assoc,
      List.dropWhile_append_of_pos differs]
    simp
  rw [Path.stem, reversed]
  cases shape : stem.reverse with
  | nil => simp_all
  | cons c before => simp [← shape]

/-- Going to a file beside a path adds nothing to it but slashes and the new suffix. -/
theorem mem_sibling {path suffix : Text} {c : Char} (member : c ∈ sibling path suffix) :
    c = '/' ∨ c ∈ path ∨ c ∈ suffix := by
  unfold sibling withFileName at member
  cases last : fileName? path with
  | none =>
    simp only [last, Option.map_none, Option.getD_none, List.nil_append] at member
    exact mem_join member
  | some name =>
    simp only [last, Option.map_some, Option.getD_some] at member
    rcases mem_join member with same | inside | inside
    · exact .inl same
    · cases above : parent? path with
      | none => simp [above] at inside
      | some parent =>
        simp only [above, Option.getD_some] at inside
        exact (mem_parent above inside).imp_right .inl
    · rcases List.mem_append.mp inside with inside | inside
      · exact .inr (.inl (mem_fileName last (mem_stem inside)))
      · exact .inr (.inr inside)

theorem IsName.not_isAbsolute (valid : IsName name) : isAbsolute name = false := by
  cases name with
  | nil => rfl
  | cons c name =>
    have differs : '/' ≠ c := fun same => valid.flat (same ▸ List.mem_cons_self)
    simpa [isAbsolute] using Ne.symm differs

end Path

namespace Location

variable {directory : Location} {name : Text}

/-- Every name on the way is one that an entry can have. -/
def IsProper (location : Location) : Prop := ∀ name ∈ location, Path.IsName name

theorem IsProper.append (proper : directory.IsProper) (valid : Path.IsName name) :
    IsProper (directory ++ [name]) := by
  intro other member
  rcases List.mem_append.mp member with member | member
  · exact proper other member
  · rw [List.mem_singleton.mp member]
    exact valid

theorem path_root : path [] = ['/'] := by simp [path, Text.joined]

theorem pieces_path {location : Location} (proper : location.IsProper) (named : location ≠ []) :
    Path.pieces location.path = [] :: location := by
  have cut := Path.pieces_joined (fun name member => (proper name member).flat) named
  simp [path, Path.pieces, cut]

@[simp] theorem isAbsolute_path (location : Location) : Path.isAbsolute location.path = true := by
  simp [Path.isAbsolute, path]

/-- A name is appended behind a slash, which the root has already. -/
theorem path_append (directory : Location) (name : Text) :
    path (directory ++ [name]) =
      if directory = [] then '/' :: name else path directory ++ '/' :: name := by
  induction directory with
  | nil => simp [path, Text.joined]
  | cons first directory ih =>
    cases directory with
    | nil => simp [path, Text.joined, List.intercalate_cons_cons]
    | cons second directory =>
      simp only [path, Text.joined, List.cons_append, List.intercalate_cons_cons,
        List.append_assoc, List.cons_ne_nil, if_false, List.cons.injEq, true_and] at ih ⊢
      rw [ih]

theorem last_path (valid : Path.IsName name) :
    (path (directory ++ [name])).getLast? ≠ some '/' := by
  have last : (path (directory ++ [name])).getLast? = name.getLast? := by
    have nonempty := valid.nonempty
    rw [path_append]
    split
    · rw [List.getLast?_cons, List.getLast?_eq_some_getLast nonempty]
      rfl
    · rw [List.getLast?_append, List.getLast?_cons, List.getLast?_eq_some_getLast nonempty]
      rfl
  rw [last]
  exact fun ends => valid.flat (List.mem_of_getLast? ends)

theorem names_path {location : Location} (proper : location.IsProper) :
    FileTree.names location.path = location := by
  by_cases root : location = []
  · subst root
    decide
  · rw [FileTree.names, pieces_path proper root]
    simp only [List.filter_cons, List.isEmpty_nil, Bool.not_true, Bool.false_eq_true, if_false]
    exact List.filter_eq_self.mpr fun name member => by
      simpa using (proper name member).nonempty

theorem asksForDirectory_path (valid : Path.IsName name) :
    FileTree.asksForDirectory (path (directory ++ [name])) = false := by
  simpa [FileTree.asksForDirectory] using last_path valid

theorem steps_path (proper : directory.IsProper) (valid : Path.IsName name) :
    FileTree.steps (path (directory ++ [name])) = directory ++ [name] := by
  rw [FileTree.steps, asksForDirectory_path valid, names_path (proper.append valid)]
  rfl

theorem stepsAbove_path (proper : directory.IsProper) (valid : Path.IsName name) :
    FileTree.stepsAbove (path (directory ++ [name])) = directory ++ [['.']] := by
  rw [FileTree.stepsAbove, names_path (proper.append valid), List.dropLast_concat]

/-- The last name is found at the end of the path. -/
theorem reversedPieces_path (proper : directory.IsProper) (valid : Path.IsName name) :
    Path.reversedPieces (path (directory ++ [name])) = name :: (directory.reverse ++ [[]]) := by
  have stays (more : List Text) (some : more ≠ []) : Path.dropIdle (name :: more) = name :: more := by
    cases more with
    | nil => exact absurd rfl some
    | cons piece more => simp [Path.dropIdle, valid.nonempty, valid.notDot]
  rw [Path.reversedPieces, pieces_path (proper.append valid) (by simp)]
  simp [stays]

theorem fileName_path (proper : directory.IsProper) (valid : Path.IsName name) :
    Path.fileName? (path (directory ++ [name])) = some name := by
  simp [Path.fileName?, reversedPieces_path proper valid, valid.nonempty, valid.notDot,
    valid.notDots]

theorem ofReversed_path (proper : directory.IsProper) :
    Path.ofReversed (directory.reverse ++ [[]]) = path directory := by
  rcases List.eq_nil_or_concat directory with rfl | ⟨above, name, rfl⟩
  · simp [Path.ofReversed, Path.dropIdle, path_root]
  · have valid := proper name (by simp)
    have stays : Path.dropIdle (name :: (above.reverse ++ [[]])) =
        name :: (above.reverse ++ [[]]) := by
      cases shape : above.reverse ++ [[]] with
      | nil => simp at shape
      | cons piece more => simp [Path.dropIdle, valid.nonempty, valid.notDot]
    rw [Path.ofReversed]
    simp only [List.concat_eq_append, List.reverse_append, List.reverse_cons, List.reverse_nil,
      List.nil_append, stays, List.cons_append]
    split
    · rename_i shape
      simp at shape
    · cases above <;> simp [path, Text.joined]

theorem parent_path (proper : directory.IsProper) (valid : Path.IsName name) :
    Path.parent? (path (directory ++ [name])) = some (path directory) := by
  rw [Path.parent?, reversedPieces_path proper valid]
  cases shape : directory.reverse ++ [[]] with
  | nil => simp at shape
  | cons piece more =>
    have above := ofReversed_path proper
    rw [shape] at above
    simp [above]

theorem join_path (proper : directory.IsProper) (valid : Path.IsName name) :
    Path.join (path directory) name = path (directory ++ [name]) := by
  rw [Path.join, valid.not_isAbsolute, path_append]
  rcases List.eq_nil_or_concat directory with rfl | ⟨above, last, rfl⟩
  · simp [path_root]
  · have behind : (path (above ++ [last])).getLast? ≠ some '/' :=
      last_path (proper last (by simp))
    simp only [List.concat_eq_append] at *
    have nonempty : path (above ++ [last]) ≠ [] := by simp [path]
    simp [behind, nonempty]

/-- A path without detours stays as it is. -/
theorem absolute_path (here : Text) {location : Location} (proper : location.IsProper) :
    Path.absolute here location.path = location.path := by
  by_cases root : location = []
  · subst root
    simp [Path.absolute, path_root, Path.isAbsolute, Path.pieces, Text.joined]
  · obtain ⟨above, last, rfl⟩ := (List.eq_nil_or_concat location).resolve_left root
    simp only [List.concat_eq_append] at *
    have kept : (Path.pieces (path (above ++ [last]))).filter
        (fun piece => !piece.isEmpty && piece != ['.']) = above ++ [last] := by
      rw [pieces_path proper root, List.filter_cons]
      simp only [List.isEmpty_nil, Bool.not_true, Bool.false_and, Bool.false_eq_true, if_false]
      exact List.filter_eq_self.mpr fun name member => by
        simp [(proper name member).nonempty, (proper name member).notDot]
    have behind : (path (above ++ [last])).getLast? ≠ some '/' :=
      last_path (proper last (by simp))
    unfold Path.absolute
    simp only [isAbsolute_path, if_true, List.nil_append, kept, beq_iff_eq, behind,
      Bool.and_eq_true, and_false, if_false, List.append_nil]
    rfl

/-- The file beside this one with its stem and another suffix. -/
theorem sibling_path (proper : directory.IsProper) (valid : Path.IsName name) {suffix : Text}
    (fresh : Path.IsName (Path.stem name ++ suffix)) :
    Path.sibling (path (directory ++ [name])) suffix =
      path (directory ++ [Path.stem name ++ suffix]) := by
  rw [Path.sibling, Path.withFileName, fileName_path proper valid, parent_path proper valid]
  exact join_path proper fresh

end Location
end Runbook
