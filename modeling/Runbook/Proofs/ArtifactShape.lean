import Runbook.Artifact

/-! The shape of artifacts, said apart from the reader that takes them: which lines make up a
whole artifact, which ones a fenced artifact that the end of the lines has cut, and how a
first line tells the kinds apart. What is taken always has one of the two shapes. -/
namespace Runbook

theorem Fence.marker_eq : Fence.marker = ['\x60', '\x60', '\x60'] := by decide

theorem Fence.eq_backtick_of_fold {c : Char} (folded : Fence.fold c = '\x60') : c = '\x60' := by
  unfold Fence.fold at folded
  split at folded
  · exact absurd folded (by decide)
  · unfold Char.toLower at folded
    split at folded
    · rename_i capital
      have value := congrArg (fun d => d.val.toNat) folded
      have low := capital.1
      have high := capital.2
      simp at value
      simp [UInt32.le_iff_toNat_le] at low high
      omega
    · exact folded

namespace ArtifactKind

/-- The kinds whose artifacts go on over blank lines and over lines of their own kind. -/
def isLinked : ArtifactKind → Bool
  | .planLink | .flamegraph => true
  | _ => false

/-- Whether an artifact of a linked kind goes on with the line. -/
def continues (kind : ArtifactKind) (line : Line) : Bool := line.isBlank || kind.opens line

/-- The lines of one whole artifact. A fenced one ends with its first closing fence. -/
inductive IsWhole : ArtifactKind → List Line → Prop
  | fenced {kind : ArtifactKind} {first close : Line} {inside : List Line} :
      kind.isFenced = true → kind.opens first = true →
      (∀ line ∈ inside, Fence.isClose line = false) → Fence.isClose close = true →
      IsWhole kind (first :: inside ++ [close])
  | image {line : Line} : image.opens line = true → IsWhole image [line]
  | linked {kind : ArtifactKind} {first : Line} {more : List Line} :
      kind.isLinked = true → kind.opens first = true →
      (∀ line ∈ more, kind.continues line = true) → IsWhole kind (first :: more)

/-- The lines of a fenced artifact that ended before its closing fence. -/
inductive IsCut : ArtifactKind → List Line → Prop
  | intro {kind : ArtifactKind} {first : Line} {more : List Line} :
      kind.isFenced = true → kind.opens first = true →
      (∀ line ∈ more, Fence.isClose line = false) → IsCut kind (first :: more)

theorem IsWhole.head {kind : ArtifactKind} {lines : List Line} (whole : kind.IsWhole lines) :
    ∃ first more, lines = first :: more ∧ kind.opens first = true := by
  cases whole with
  | fenced _ opens _ _ => exact ⟨_, _, rfl, opens⟩
  | image opens => exact ⟨_, _, rfl, opens⟩
  | linked _ opens _ => exact ⟨_, _, rfl, opens⟩

theorem isFenced_or_image_or_isLinked (kind : ArtifactKind) :
    kind.isFenced = true ∨ kind = .image ∨ kind.isLinked = true := by
  cases kind <;> decide

variable {kind : ArtifactKind} {line first close : Line} {lines rest inside : List Line}

theorem takeBody_of_fenced (fenced : kind.isFenced = true) :
    kind.takeBody (first :: rest) = .fenced first rest := by
  cases kind <;> first | rfl | exact absurd fenced (by decide)

theorem takeBody_of_linked (linked : kind.isLinked = true) :
    kind.takeBody (first :: rest) =
      ⟨first :: rest.takeWhile kind.continues, true, rest.dropWhile kind.continues⟩ := by
  cases kind <;> first | rfl | exact absurd linked (by decide)

theorem fenced_closed (unclosed : ∀ line ∈ inside, Fence.isClose line = false)
    (closes : Fence.isClose close = true) :
    ArtifactBody.fenced first (inside ++ close :: rest) =
      ⟨first :: inside ++ [close], true, rest⟩ := by
  have pass : ∀ line ∈ inside, (!Fence.isClose line) = true := by simpa using unclosed
  have start : (inside ++ close :: rest).takeWhile (fun line => !Fence.isClose line) = inside := by
    rw [List.takeWhile_append_of_pos pass]
    simp [closes]
  have later : (inside ++ close :: rest).dropWhile (fun line => !Fence.isClose line) =
      close :: rest := by
    rw [List.dropWhile_append_of_pos pass]
    simp [closes]
  unfold ArtifactBody.fenced
  rw [start, later]

theorem fenced_unclosed (unclosed : ∀ line ∈ rest, Fence.isClose line = false) :
    ArtifactBody.fenced first rest = ⟨first :: rest, false, []⟩ := by
  have pass : ∀ line ∈ rest, (!Fence.isClose line) = true := by simpa using unclosed
  have start : (rest ++ []).takeWhile (fun line => !Fence.isClose line) = rest := by
    rw [List.takeWhile_append_of_pos pass, List.takeWhile_nil, List.append_nil]
  have later : (rest ++ []).dropWhile (fun line => !Fence.isClose line) = [] := by
    rw [List.dropWhile_append_of_pos pass, List.dropWhile_nil]
  rw [List.append_nil] at start later
  unfold ArtifactBody.fenced
  rw [start, later]

theorem fenced_cons_of_close (closes : Fence.isClose close = true) :
    ArtifactBody.fenced first (close :: rest) = ⟨[first, close], true, rest⟩ :=
  fenced_closed (List.forall_mem_nil _) closes

theorem fenced_cons_of_open (stillOpen : Fence.isClose line = false) :
    ArtifactBody.fenced first (line :: rest) =
      { ArtifactBody.fenced line rest with
        lines := first :: (ArtifactBody.fenced line rest).lines } := by
  simp only [ArtifactBody.fenced, List.takeWhile_cons, List.dropWhile_cons, stillOpen,
    Bool.not_false, if_true]
  split <;> rfl

/-- Lines either hold a closing fence, with none before it, or none at all. -/
theorem exists_first_close (lines : List Line) :
    (∃ inside close rest, lines = inside ++ close :: rest ∧
      (∀ line ∈ inside, Fence.isClose line = false) ∧ Fence.isClose close = true) ∨
    ∀ line ∈ lines, Fence.isClose line = false := by
  induction lines with
  | nil => simp
  | cons line lines ih =>
    by_cases closes : Fence.isClose line = true
    · exact .inl ⟨[], line, lines, rfl, by simp, closes⟩
    · rcases ih with ⟨inside, close, rest, rfl, unclosed, ends⟩ | unclosed
      · exact .inl ⟨line :: inside, close, rest, rfl, by simpa [closes] using unclosed, ends⟩
      · exact .inr (by simpa [closes] using unclosed)

theorem first_close_inj {others more : List Line} {last : Line}
    (unclosed : ∀ line ∈ inside, Fence.isClose line = false) (closes : Fence.isClose close = true)
    (stillOpen : ∀ line ∈ others, Fence.isClose line = false) (ends : Fence.isClose last = true)
    (same : inside ++ close :: rest = others ++ last :: more) :
    inside = others ∧ close = last ∧ rest = more := by
  have body : ArtifactBody.fenced [] (inside ++ close :: rest) = _ := fenced_closed unclosed closes
  rw [same, fenced_closed stillOpen ends] at body
  obtain ⟨lines, -, behind⟩ := ArtifactBody.mk.inj body
  obtain ⟨start, finish⟩ := List.append_inj' lines rfl
  exact ⟨(List.cons.inj start).2.symm, (List.cons.inj finish).1.symm, behind.symm⟩

/-- What is taken is a whole artifact, or a cut one that leaves no line unread. -/
theorem takeBody_shape (opens : kind.opens first = true) :
    ((kind.takeBody (first :: rest)).complete = true ∧
      kind.IsWhole (kind.takeBody (first :: rest)).lines) ∨
    (kind.takeBody (first :: rest) = ⟨first :: rest, false, []⟩ ∧ kind.IsCut (first :: rest)) := by
  have ofFenced (fenced : kind.isFenced = true) :
      ((kind.takeBody (first :: rest)).complete = true ∧
        kind.IsWhole (kind.takeBody (first :: rest)).lines) ∨
      (kind.takeBody (first :: rest) = ⟨first :: rest, false, []⟩ ∧
        kind.IsCut (first :: rest)) := by
    rw [takeBody_of_fenced fenced]
    rcases exists_first_close rest with ⟨inside, close, rest, rfl, unclosed, closes⟩ | unclosed
    · rw [fenced_closed unclosed closes]
      exact .inl ⟨rfl, .fenced fenced opens unclosed closes⟩
    · exact .inr ⟨fenced_unclosed unclosed, .intro fenced opens unclosed⟩
  have ofLinked (linked : kind.isLinked = true) :
      (kind.takeBody (first :: rest)).complete = true ∧
        kind.IsWhole (kind.takeBody (first :: rest)).lines := by
    rw [takeBody_of_linked linked]
    refine ⟨rfl, .linked linked opens ?_⟩
    intro line member
    exact List.all_eq_true.mp List.all_takeWhile line member
  cases kind with
  | resultFence => exact ofFenced rfl
  | inlineResultFence => exact ofFenced rfl
  | image => exact .inl ⟨rfl, .image opens⟩
  | planLink => exact .inl (ofLinked rfl)
  | flamegraph => exact .inl (ofLinked rfl)

theorem length_takeBody_lines_pos (kind : ArtifactKind) (first : Line) (rest : List Line) :
    0 < (kind.takeBody (first :: rest)).lines.length := by
  have fenced : 0 < (ArtifactBody.fenced first rest).lines.length := by
    unfold ArtifactBody.fenced
    split <;> simp
  cases kind <;> first | exact fenced | simp [takeBody]

theorem takeBody_whole (whole : kind.IsWhole lines) (bounded : kind.isLinked = false)
    (rest : List Line) : kind.takeBody (lines ++ rest) = ⟨lines, true, rest⟩ := by
  cases whole with
  | fenced fenced _ unclosed closes =>
    simp only [List.cons_append, List.append_assoc, List.nil_append]
    rw [takeBody_of_fenced fenced, fenced_closed unclosed closes]
    rfl
  | image => rfl
  | linked linked => exact absurd linked (by simp [bounded])

/-- A link or a flamegraph goes on as far as blank lines and lines of its kind follow. -/
theorem takeBody_linked (whole : kind.IsWhole lines) (linked : kind.isLinked = true)
    (rest : List Line) : kind.takeBody (lines ++ rest) =
      ⟨lines ++ rest.takeWhile kind.continues, true, rest.dropWhile kind.continues⟩ := by
  cases whole with
  | fenced fenced => cases kind <;> simp_all [isFenced, isLinked]
  | image => exact absurd linked (by decide)
  | linked _ _ more =>
    rw [List.cons_append, takeBody_of_linked linked, List.takeWhile_append_of_pos more,
      List.dropWhile_append_of_pos more]
    rfl

/-- The signs that the first line of an artifact may begin with. -/
def leads : ArtifactKind → List Char
  | .resultFence | .inlineResultFence => ['\x60']
  | .image | .flamegraph => ['!']
  | .planLink => ['*', '[']

theorem opens_lead (opens : kind.opens line = true) :
    ∃ c text, line.stripTerminator = c :: text ∧ c ∈ kind.leads := by
  have ofFold {wanted : Text}
      (folded : line.stripTerminator.map Fence.fold = '\x60' :: wanted) :
      ∃ c text, line.stripTerminator = c :: text ∧ c ∈ ['\x60'] := by
    obtain ⟨c, text, strip, lead, -⟩ := List.map_eq_cons_iff.mp folded
    exact ⟨c, text, strip, by simp [Fence.eq_backtick_of_fold lead]⟩
  have ofLabel {c : Char} {label : Text}
      (begins : (c :: label).isPrefixOf line.stripTerminator = true) :
      ∃ text, line.stripTerminator = c :: text := by
    obtain ⟨later, same⟩ := List.isPrefixOf_iff_prefix.mp begins
    exact ⟨label ++ later, same.symm⟩
  cases kind with
  | resultFence =>
    simp only [ArtifactKind.opens, Fence.opensResult, beq_iff_eq, Fence.marker_eq] at opens
    exact ofFold opens
  | inlineResultFence =>
    simp only [ArtifactKind.opens, Fence.opensInlineResult] at opens
    split at opens
    · rename_i c rest found
      have folded := Text.eq_append_of_after? found
      rw [Fence.marker_eq] at folded
      exact ofFold folded
    · exact absurd opens (by decide)
  | image =>
    unfold ArtifactKind.opens isSvgImage at opens
    cases found : Text.after? "![".toList line.stripTerminator with
    | none =>
      simp only [found, Option.bind_none] at opens
      contradiction
    | some rest => exact ⟨'!', '[' :: rest, Text.eq_append_of_after? found, by simp [leads]⟩
  | planLink =>
    simp only [ArtifactKind.opens, Bool.or_eq_true] at opens
    rcases opens with long | short
    · obtain ⟨text, strip⟩ := ofLabel long
      exact ⟨'*', text, strip, by simp [leads]⟩
    · obtain ⟨text, strip⟩ := ofLabel short
      exact ⟨'[', text, strip, by simp [leads]⟩
  | flamegraph =>
    obtain ⟨text, strip⟩ := ofLabel opens
    exact ⟨'!', text, strip, by simp [leads]⟩

theorem not_isLinked_of_isFenced (fenced : kind.isFenced = true) : kind.isLinked = false := by
  cases kind <;> first | rfl | contradiction

theorem eq_resultFence {kind : ArtifactKind} (fenced : kind.isFenced = true)
    (separate : kind ≠ .inlineResultFence) : kind = .resultFence := by
  cases kind <;> first | rfl | contradiction

/-- Artifacts of the two kinds begin with different signs. -/
def Apart (a b : ArtifactKind) : Prop := ∀ c ∈ a.leads, c ∉ b.leads

instance (a b : ArtifactKind) : Decidable (a.Apart b) :=
  List.decidableBAll (fun c => c ∉ b.leads) a.leads

theorem Apart.symm {a b : ArtifactKind} (apart : a.Apart b) : b.Apart a :=
  fun c right left => apart c left right

theorem Apart.opens {other : ArtifactKind} (apart : kind.Apart other)
    (opens : kind.opens line = true) : other.opens line = false := by
  obtain ⟨c, text, strip, lead⟩ := opens_lead opens
  apply Bool.eq_false_iff.mpr
  intro clash
  obtain ⟨c', text', strip', lead'⟩ := opens_lead clash
  rw [strip] at strip'
  obtain ⟨rfl, -⟩ := List.cons.inj strip'
  exact apart c lead lead'

end ArtifactKind

namespace Line

theorem stripTerminator_prefix (line : Line) : line.stripTerminator <+: line := by
  have kept := List.dropWhile_suffix (l := line.reverse) fun c => c == '\n' || c == '\r'
  rw [← List.reverse_prefix, List.reverse_reverse] at kept
  exact kept

/-- Without its terminator a blank line is empty or begins with white space. -/
theorem isBlank_lead {line : Line} {c : Char} {text : Text} (blank : line.isBlank = true)
    (strip : line.stripTerminator = c :: text) : Text.isBlank c = true := by
  obtain ⟨later, same⟩ := line.stripTerminator_prefix
  rw [strip] at same
  exact List.all_eq_true.mp blank c (by simp [← same])

end Line

theorem ArtifactKind.not_isBlank_of_opens {kind : ArtifactKind} {line : Line}
    (opens : kind.opens line = true) : line.isBlank = false := by
  obtain ⟨c, text, strip, lead⟩ := opens_lead opens
  apply Bool.eq_false_iff.mpr
  intro blank
  have white := Line.isBlank_lead blank strip
  cases kind <;> simp only [leads, List.mem_cons, List.not_mem_nil, or_false] at lead
  all_goals first
    | (subst lead; exact absurd white (by decide))
    | (rcases lead with rfl | rfl <;> exact absurd white (by decide))

end Runbook
