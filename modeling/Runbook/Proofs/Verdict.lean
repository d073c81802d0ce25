import Runbook.Proofs.Pieces
import Runbook.Proofs.Lookahead

/-! The law of the decision on a block. Whether the block runs is said apart from the search, by
what stands first behind the block; and the lines after it are accounted for in order, whatever
is decided. -/
namespace Runbook

/-- Behind blank lines the lines begin with a whole artifact of the kind. -/
def ArtifactKind.Stands (kind : ArtifactKind) (lines : List Line) : Prop :=
  ∃ artifact rest, lines.dropWhile Line.isBlank = artifact ++ rest ∧ kind.IsWhole artifact

variable {kind : ArtifactKind} {artifact rest following : List Line} {config : BlockConfig}
  {plan : ArtifactPlan} {content : Text} {decision : Decision}

theorem ArtifactKind.takeBody_complete (whole : kind.IsWhole artifact) (rest : List Line) :
    (kind.takeBody (artifact ++ rest)).complete = true := by
  cases linked : kind.isLinked with
  | true => rw [takeBody_linked whole linked]
  | false => rw [takeBody_whole whole linked]

/-- The search for the first kind finds it exactly where a whole artifact of it stands. -/
theorem Search.take_stale_iff (kind : ArtifactKind) (following : List Line) :
    (Search.take kind { unread := following.dropWhile Line.isBlank }).stale = true ↔
      kind.Stands following := by
  constructor
  · intro stale
    unfold Search.take at stale
    split at stale
    · contradiction
    · rename_i first rest shape
      split at stale
      · rename_i opens
        have parts := kind.takeBody_append (first :: rest)
        rcases ArtifactKind.takeBody_shape opens with ⟨-, whole⟩ | ⟨cut, -⟩
        · exact ⟨_, _, shape.trans parts.symm, whole⟩
        · have shape : following.dropWhile Line.isBlank = first :: rest := shape
          simp [shape, cut] at stale
      · contradiction
  · rintro ⟨artifact, rest, shape, whole⟩
    obtain ⟨first, more, rfl, opens⟩ := whole.head
    have complete := ArtifactKind.takeBody_complete whole rest
    rw [shape, Search.take_of_opens rfl opens]
    simp only [List.cons_append] at complete
    simp [complete]

namespace Decision

theorem verdict_iff (config : BlockConfig) (plan : ArtifactPlan) (present : Bool) :
    (verdict config plan present).1 = true ↔
      config.rerun = true ∨ plan.autoReplace = true ∨ present = false := by
  unfold verdict
  cases present <;> cases config.rerun <;> cases plan.autoReplace <;> simp

theorem inspect_execute_iff (config : BlockConfig) (plan : ArtifactPlan) (following : List Line) :
    (inspect config plan following).execute = true ↔
      config.rerun = true ∨ plan.autoReplace = true ∨ ¬ plan.primary.Stands following := by
  have judged : (inspect config plan following).execute = (judged config plan following).1 := by
    rw [inspect_eq, ofSearch]
  rw [judged, Decision.judged, verdict_iff, ← Search.take_stale_iff, Bool.not_eq_true]

/-- The lines after a block that runs: those dropped, those copied and those left, in order. -/
theorem Division.executed {blanks kept cut : List Line}
    (division : Division plan following decision blanks kept cut)
    (due : decision.execute = true) :
    decision.consumed ++ decision.passThrough ++ decision.unread = following ∧
      (decision.passThrough ≠ [] → decision.unread = [] ∧
        ∃ kind ∈ plan.kinds, kind.IsCut decision.passThrough) := by
  have consumed : decision.consumed = blanks ++ kept := by rw [division.consumed, if_pos due]
  have passThrough : decision.passThrough = cut := by rw [division.passThrough, if_pos due]
  rw [consumed, passThrough]
  exact ⟨division.total, division.ended.resolve_left⟩

/-- The lines after a block that does not run. Those dropped are surplus blank lines from behind
the first of those copied. -/
theorem Division.kept {blanks kept cut : List Line}
    (division : Division plan following decision blanks kept cut)
    (idle : decision.execute = false) :
    (∀ line ∈ decision.consumed, line.isBlank = true) ∧
      decision.passThrough.take 1 ++ decision.consumed ++ decision.passThrough.drop 1 ++
        decision.unread = following := by
  have consumed : decision.consumed = blanks.tail := by
    rw [division.consumed, if_neg (by simp [idle])]
  have passThrough : decision.passThrough = blanks.head?.toList ++ kept ++ cut := by
    rw [division.passThrough, if_neg (by simp [idle])]
  have white := division.white
  have total := division.total
  rw [consumed, passThrough]
  constructor
  · exact fun line member => white line (List.mem_of_mem_tail member)
  · cases blanks with
    | nil =>
      rw [List.nil_append] at total
      simp only [List.head?_nil, Option.toList_none, List.tail_nil, List.nil_append,
        List.append_nil, List.take_append_drop]
      exact total
    | cons first more => simpa using total

theorem forBlock_execute_iff (config : BlockConfig) (plan : ArtifactPlan) (content : Text)
    (following : List Line) :
    (forBlock config plan content following).execute = true ↔
      config.run = true ∧ Text.isBlankText content = false ∧
        if plan.inline = true ∧ Annotation.isAnnotated content = true then config.rerun = true
        else config.rerun = true ∨ plan.autoReplace = true ∨ ¬ plan.primary.Stands following := by
  unfold forBlock
  by_cases runs : config.run = true
  · by_cases empty : Text.isBlankText content = true
    · simp [runs, empty, untouched]
    · by_cases annotated : plan.inline = true ∧ Annotation.isAnnotated content = true
      · simp [runs, empty, annotated, untouched]
      · rw [if_neg (by simp [runs]), if_neg empty, if_neg (by simpa using annotated),
          if_neg annotated, inspect_execute_iff]
        simp [runs, empty]
  · simp [runs, untouched]

theorem forBlock_untouched (settled : config.run = false ∨ Text.isBlankText content = true ∨
      plan.inline = true ∧ Annotation.isAnnotated content = true) (following : List Line) :
    ∃ execute reason, forBlock config plan content following =
      untouched execute reason plan.primary following := by
  unfold forBlock
  split
  · exact ⟨_, _, rfl⟩
  · rename_i runs
    split
    · exact ⟨_, _, rfl⟩
    · rename_i filled
      have annotated : (plan.inline && Annotation.isAnnotated content) = true := by
        rcases settled with idle | empty | annotated
        · exact absurd idle (by simpa using runs)
        · exact absurd empty filled
        · simpa using annotated
      rw [if_pos annotated]
      exact ⟨_, _, rfl⟩

/-- A block runs if it may, has something to run, and is told to or has no result yet. One that
may not, is empty or holds its own results reads nothing. The lines behind one that runs are
those it drops, then a cut artifact if there is one, then those left unread; one that does not
run drops blank lines at most, from behind the first line it copies. -/
theorem forBlock_law (config : BlockConfig) (kind : ResultKind) (content : Text)
    (following : List Line) :
    let plan := ArtifactPlan.forBlock config kind
    let decision := forBlock config plan content following
    (decision.execute = true ↔ config.run = true ∧ Text.isBlankText content = false ∧
      if plan.inline = true ∧ Annotation.isAnnotated content = true then config.rerun = true
      else config.rerun = true ∨ plan.autoReplace = true ∨ ¬ plan.primary.Stands following) ∧
    (config.run = false ∨ Text.isBlankText content = true ∨
        plan.inline = true ∧ Annotation.isAnnotated content = true →
      decision.consumed = [] ∧ decision.passThrough = [] ∧ decision.unread = following) ∧
    (decision.execute = true →
      decision.consumed ++ decision.passThrough ++ decision.unread = following ∧
        (decision.passThrough ≠ [] → decision.unread = [] ∧
          ∃ kind ∈ plan.kinds, kind.IsCut decision.passThrough)) ∧
    (decision.execute = false →
      (∀ line ∈ decision.consumed, line.isBlank = true) ∧
        decision.passThrough.take 1 ++ decision.consumed ++ decision.passThrough.drop 1 ++
          decision.unread = following) := by
  intro plan decision
  obtain ⟨blanks, kept, cut, division⟩ := forBlock_division config plan content following
  refine ⟨forBlock_execute_iff .., fun settled => ?_, division.executed, division.kept⟩
  obtain ⟨execute, reason, untouched⟩ := forBlock_untouched settled following
  rw [show decision = _ from untouched]
  exact ⟨rfl, rfl, rfl⟩

end Decision

theorem Pass.scanned_execute_iff {document : Text} {block : Block}
    (member : .block block ∈ scanned document) :
    block.decision.execute = true ↔
      block.config.run = true ∧ Text.isBlankText block.content = false ∧
        if block.plan.inline = true ∧ Annotation.isAnnotated block.content = true
        then block.config.rerun = true
        else block.config.rerun = true ∨ block.plan.autoReplace = true ∨
          ¬ block.plan.primary.Stands (block.read ++ block.decision.unread) := by
  obtain ⟨opened, close, following, rfl, -⟩ := scanned_origin document member
  have behind : (opened.close close following).read ++
      (opened.close close following).decision.unread = following :=
    opened.close_read_append close following
  rw [behind]
  exact Decision.forBlock_execute_iff ..

end Runbook
