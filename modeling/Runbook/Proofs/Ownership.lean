import Runbook.Splice
import Runbook.Proofs.ArtifactShape

/-! Which kinds of artifacts a block owns. Kinds that one block owns begin with different
signs, so a line opens one of them at most. -/
namespace Runbook

namespace ArtifactPlan

/-- Every kind that a block may own, the primary one first. -/
def kinds (plan : ArtifactPlan) : List ArtifactKind := plan.primary :: plan.secondaries

variable {config : BlockConfig} {kind : ResultKind}

@[simp] theorem forBlock_inline (config : BlockConfig) (kind : ResultKind) :
    (forBlock config kind).inline = (kind == .inlineAnnotated) := by
  unfold forBlock
  cases kind <;> split <;> try rfl
  simp only [structuredPlan]
  split
  · rfl
  · split <;> rfl

theorem forBlock_separate (separate : (forBlock config kind).inline = false) :
    ArtifactKind.inlineResultFence ∉ (forBlock config kind).kinds := by
  rw [forBlock_inline] at separate
  revert separate
  unfold forBlock structuredPlan isVisualized
  cases kind <;> cases config.showResult <;> cases config.explain <;> cases config.flamegraph <;>
    decide

theorem forBlock_kinds_apart (config : BlockConfig) (kind : ResultKind) :
    (forBlock config kind).kinds.Pairwise ArtifactKind.Apart := by
  unfold forBlock structuredPlan isVisualized
  cases kind <;> cases config.showResult <;> cases config.explain <;> cases config.flamegraph <;>
    decide

theorem forBlock_kinds_nodup (config : BlockConfig) (kind : ResultKind) :
    (forBlock config kind).kinds.Nodup :=
  (forBlock_kinds_apart config kind).imp fun {one other} apart same => by
    subst same
    revert apart
    cases one <;> decide

/-- The primary kind of a plan is the only one that a line can open together with it. -/
theorem eq_primary_of_opens {plan : ArtifactPlan} {other : ArtifactKind} {line : Line}
    (apart : plan.kinds.Pairwise ArtifactKind.Apart) (owned : other ∈ plan.kinds)
    (opens : other.opens line = true) (primary : plan.primary.opens line = true) :
    other = plan.primary := by
  rcases List.mem_cons.mp owned with same | secondary
  · exact same
  · have clash := (List.pairwise_cons.mp apart).1 other secondary
    rw [clash.opens primary] at opens
    contradiction

end ArtifactPlan

theorem Splice.render_annotatedBody {config : BlockConfig} {language : Language}
    (separate : (ArtifactPlan.forBlock config language.resultKind).inline = false)
    (outcome : Outcome) (source : Text) (answers : Answers) :
    (render config language outcome source answers).annotatedBody = none := by
  rw [ArtifactPlan.forBlock_inline] at separate
  unfold render
  split
  · rfl
  · split <;> simp_all

theorem Splice.render_artifacts_inline {config : BlockConfig} {language : Language}
    (inline : (ArtifactPlan.forBlock config language.resultKind).inline = true)
    (outcome : Outcome) (source : Text) (answers : Answers) :
    (render config language outcome source answers).artifacts = [] := by
  rw [ArtifactPlan.forBlock_inline] at inline
  unfold render
  split
  · rfl
  · split <;> simp_all

end Runbook
