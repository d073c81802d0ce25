import Mathlib.Order.Bounds.Basic
import Runbook.Proofs.ArtifactShape

/-! How far an artifact reaches, said by counting lines. A fenced one ends as soon as it can, with
the first closing fence behind its opening line; a linked one goes on for as long as it can; an
image is its one line. That leaves one way to cut an artifact off, whatever its first line is, and
this is how it is taken. -/
namespace Runbook

/-- The places of the closing fences among the lines. -/
def Fence.closings (lines : List Line) : Set Nat :=
  {n | ∃ line, lines[n]? = some line ∧ isClose line = true}

theorem Fence.isLeast_closings {inside rest : List Line} {close : Line}
    (unclosed : ∀ line ∈ inside, isClose line = false) (closes : isClose close = true) :
    IsLeast (closings (inside ++ close :: rest)) inside.length := by
  constructor
  · exact ⟨close, by simp, closes⟩
  · rintro n ⟨line, place, ends⟩
    by_contra before
    rw [List.getElem?_append_left (by omega)] at place
    have stillOpen := unclosed line (List.mem_of_getElem? place)
    exact Bool.eq_false_iff.mp stillOpen ends

namespace ArtifactKind

/-- How many of the lines an artifact of a linked kind can go on over without a break. -/
def stretches (kind : ArtifactKind) (lines : List Line) : Set Nat :=
  {n | n ≤ lines.length ∧ ∀ line ∈ lines.take n, kind.continues line = true}

theorem take_stretch (kind : ArtifactKind) (lines : List Line) :
    lines.take (lines.takeWhile kind.continues).length = lines.takeWhile kind.continues :=
  (List.prefix_iff_eq_take.mp (List.takeWhile_prefix kind.continues)).symm

theorem isGreatest_stretches (kind : ArtifactKind) (lines : List Line) :
    IsGreatest (kind.stretches lines) (lines.takeWhile kind.continues).length := by
  constructor
  · refine ⟨(List.takeWhile_prefix kind.continues).length_le, ?_⟩
    rw [take_stretch]
    exact List.all_eq_true.mp List.all_takeWhile
  · rintro n ⟨bound, unbroken⟩
    have whole := List.take_append_drop n lines
    have taken : (lines.takeWhile kind.continues).length =
        (lines.take n).length + ((lines.drop n).takeWhile kind.continues).length := by
      rw [← List.length_append, ← List.takeWhile_append_of_pos unbroken, whole]
    rw [List.length_take_of_le bound] at taken
    omega

/-- The body is the artifact of the kind that begins with the first line, and what is left of the
lines behind it. -/
structure Delimits (kind : ArtifactKind) (first : Line) (rest : List Line)
    (body : ArtifactBody) : Prop where
  /-- No line is lost, doubled or moved. -/
  parts : body.lines ++ body.rest = first :: rest
  closed : kind.isFenced = true → (∃ line ∈ rest, Fence.isClose line = true) →
    body.complete = true ∧
      ∃ n, IsLeast (Fence.closings rest) n ∧ body.lines = first :: rest.take (n + 1)
  cut : kind.isFenced = true → (∀ line ∈ rest, Fence.isClose line = false) →
    body.complete = false ∧ body.rest = []
  image : kind = .image → body.complete = true ∧ body.lines = [first]
  linked : kind.isLinked = true → body.complete = true ∧
    ∃ n, IsGreatest (kind.stretches rest) n ∧ body.lines = first :: rest.take n
  stopped : kind.isLinked = true → ∀ line, body.rest.head? = some line →
    line.isBlank = false ∧ kind.opens line = false

variable {kind : ArtifactKind} {first : Line} {rest : List Line} {body other : ArtifactBody}

theorem fenced_reaches (closes : ∃ line ∈ rest, Fence.isClose line = true) :
    (ArtifactBody.fenced first rest).complete = true ∧
      ∃ n, IsLeast (Fence.closings rest) n ∧
        (ArtifactBody.fenced first rest).lines = first :: rest.take (n + 1) := by
  rcases exists_first_close rest with ⟨inside, close, more, rfl, unclosed, ends⟩ | unclosed
  · rw [fenced_closed unclosed ends]
    refine ⟨rfl, inside.length, Fence.isLeast_closings unclosed ends, ?_⟩
    rw [List.take_length_add_append]
    rfl
  · obtain ⟨line, member, ends⟩ := closes
    exact absurd ends (Bool.eq_false_iff.mp (unclosed line member))

theorem delimits_fenced (fenced : kind.isFenced = true) :
    kind.Delimits first rest (.fenced first rest) := by
  have parts := kind.takeBody_append (first :: rest)
  rw [takeBody_of_fenced fenced] at parts
  have bounded := not_isLinked_of_isFenced fenced
  refine ⟨parts, fun _ => fenced_reaches, fun _ unclosed => ?_, ?_, ?_, ?_⟩
  · rw [fenced_unclosed unclosed]
    exact ⟨rfl, rfl⟩
  · rintro rfl
    contradiction
  · simp [bounded]
  · simp [bounded]

theorem delimits_image : image.Delimits first rest ⟨[first], true, rest⟩ := by
  refine ⟨rfl, ?_, ?_, fun _ => ⟨rfl, rfl⟩, ?_, ?_⟩
  all_goals
    intro other
    contradiction

theorem delimits_linked (linked : kind.isLinked = true) :
    kind.Delimits first rest
      ⟨first :: rest.takeWhile kind.continues, true, rest.dropWhile kind.continues⟩ := by
  have unfenced : ¬ kind.isFenced = true := by
    intro fenced
    rw [not_isLinked_of_isFenced fenced] at linked
    contradiction
  refine ⟨by simp, ?_, ?_, ?_, fun _ => ⟨rfl, _, kind.isGreatest_stretches rest, ?_⟩,
    fun _ line next => ?_⟩
  · exact fun fenced => absurd fenced unfenced
  · exact fun fenced => absurd fenced unfenced
  · rintro rfl
    contradiction
  · rw [take_stretch]
  · have stops := List.head?_dropWhile_not kind.continues rest
    rw [next] at stops
    simpa [continues] using stops

theorem delimits_takeBody (kind : ArtifactKind) (first : Line) (rest : List Line) :
    kind.Delimits first rest (kind.takeBody (first :: rest)) := by
  rcases kind.isFenced_or_image_or_isLinked with fenced | rfl | linked
  · rw [takeBody_of_fenced fenced]
    exact delimits_fenced fenced
  · exact delimits_image
  · rw [takeBody_of_linked linked]
    exact delimits_linked linked

theorem Delimits.eq_of_lines (one : kind.Delimits first rest body)
    (two : kind.Delimits first rest other) (lines : body.lines = other.lines)
    (complete : body.complete = other.complete) : body = other := by
  have whole := one.parts.trans two.parts.symm
  rw [lines] at whole
  have behind := List.append_cancel_left whole
  change ArtifactBody.mk body.lines body.complete body.rest = ⟨_, _, _⟩
  rw [lines, complete, behind]

/-- There is one way to cut an artifact off. -/
theorem Delimits.unique (one : kind.Delimits first rest body)
    (two : kind.Delimits first rest other) : body = other := by
  rcases kind.isFenced_or_image_or_isLinked with fenced | image | linked
  · rcases exists_first_close rest with ⟨inside, close, more, shape, -, ends⟩ | unclosed
    · have closes : ∃ line ∈ rest, Fence.isClose line = true := ⟨close, by simp [shape], ends⟩
      obtain ⟨complete, n, least, lines⟩ := one.closed fenced closes
      obtain ⟨complete', m, least', lines'⟩ := two.closed fenced closes
      obtain rfl := least.unique least'
      exact one.eq_of_lines two (lines.trans lines'.symm) (complete.trans complete'.symm)
    · obtain ⟨complete, nothing⟩ := one.cut fenced unclosed
      obtain ⟨complete', nothing'⟩ := two.cut fenced unclosed
      have lines := one.parts.trans two.parts.symm
      rw [nothing, nothing', List.append_nil, List.append_nil] at lines
      exact one.eq_of_lines two lines (complete.trans complete'.symm)
  · obtain ⟨complete, lines⟩ := one.image image
    obtain ⟨complete', lines'⟩ := two.image image
    exact one.eq_of_lines two (lines.trans lines'.symm) (complete.trans complete'.symm)
  · obtain ⟨complete, n, greatest, lines⟩ := one.linked linked
    obtain ⟨complete', m, greatest', lines'⟩ := two.linked linked
    obtain rfl := greatest.unique greatest'
    exact one.eq_of_lines two (lines.trans lines'.symm) (complete.trans complete'.symm)

/-- What is taken of lines is the artifact that they begin with, as its kind delimits it, and
nothing else is. The first line need not be one that opens the kind. -/
theorem takeBody_eq_iff_delimits (kind : ArtifactKind) (first : Line) (rest : List Line)
    (body : ArtifactBody) :
    kind.takeBody (first :: rest) = body ↔ kind.Delimits first rest body := by
  constructor
  · rintro rfl
    exact delimits_takeBody kind first rest
  · exact fun delimits => (delimits_takeBody kind first rest).unique delimits

/-- The first line closes nothing, not even itself. -/
example : resultFence.takeBody (Text.lines "```\nx\n ``` \n```\n") =
    ⟨["```\n".toList, "x\n".toList, " ``` \n".toList], true, ["```\n".toList]⟩ := by
  decide +kernel

end ArtifactKind
end Runbook
