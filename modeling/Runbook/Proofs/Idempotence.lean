import Runbook.Proofs.SecondPass

/-! A second pass has nothing to do where every block either never runs or keeps its result once
it has one. Every block is met again with all that was written after it, and stays as it is. -/
namespace Runbook

/-- A pass leaves the segment as it is, to the last blank line. -/
def Segment.IsStable : Segment → Prop
  | .copied _ => True
  | .block closed =>
    closed.decision.execute = false ∧ closed.decision.passThrough = closed.read

/-- The block never runs, or it runs once and then keeps its result. -/
def Block.IsSettled (block : Block) : Prop :=
  block.config.run = false ∨ Text.isBlankText block.content = true ∨
    block.config.rerun = false ∧ block.config.showResult = true ∧
      (block.language.resultKind = .plainText ∨ block.language.resultKind = .structuredPlan)

instance (block : Block) : Decidable block.IsSettled :=
  inferInstanceAs (Decidable (_ ∨ _ ∨ _ ∧ _ ∧ (_ ∨ _)))

namespace Pass

variable {services : Services σ} {state : σ}

theorem run_stable {todo : List Segment} (stable : ∀ segment ∈ todo, segment.IsStable) :
    (run services state todo).requests = [] ∧
      (run services state todo).result = .ok (todo.flatMap Segment.source).flatten := by
  have idle : ∀ block, .block block ∈ todo → block.decision.execute = false :=
    fun block member => (stable _ member).1
  rw [run_idle idle]
  refine ⟨rfl, Run.result_eq_ok_iff.mpr ⟨rfl, ?_⟩⟩
  rw [Run.text]
  clear idle
  induction todo with
  | nil => rfl
  | cons segment todo ih =>
    have first := stable segment (by simp)
    have later := ih fun other member => stable other (by simp [member])
    rw [List.map_cons, List.flatMap_cons, List.flatMap_cons, List.flatten_append, later]
    cases segment with
    | copied line => simp [Segment.standing, Segment.source, Piece.output]
    | block closed =>
      simp [Segment.standing, Segment.source, Piece.output, Block.content, first.2]

end Pass

section Stable

variable {defaults : Defaults} {lines rest : List Line}

theorem stable_neutral (neutral : ∀ line ∈ lines, Line.IsNeutral defaults line) :
    (∀ segment ∈ segments defaults .outside (lines ++ rest), segment.IsStable) ↔
      ∀ segment ∈ segments defaults .outside rest, segment.IsStable := by
  rw [segments_neutral neutral]
  constructor
  · exact fun stable segment member => stable segment (List.mem_append_right _ member)
  · intro stable segment member
    rcases List.mem_append.mp member with front | member
    · obtain ⟨line, -, rfl⟩ := List.mem_map.mp front
      trivial
    · exact stable segment member

theorem stable_unclosed (unclosed : ∀ line ∈ lines, Fence.isClose line = false)
    (state : ScanState) : ∀ segment ∈ segments defaults state lines, segment.IsStable := by
  intro segment member
  cases segment with
  | copied => trivial
  | block closed => exact absurd member (segments_unclosed unclosed state closed)

end Stable

/-- A plan whose only fenced kind is the result, and whose result is kept. -/
structure ArtifactPlan.KeepsResult (plan : ArtifactPlan) : Prop where
  primary : plan.primary = .resultFence
  separate : plan.inline = false
  kept : plan.autoReplace = false
  fenced : ∀ kind ∈ plan.kinds, kind.isFenced = true → kind = .resultFence

theorem ArtifactPlan.forBlock_keepsResult {config : BlockConfig} {kind : ResultKind}
    (shown : config.showResult = true) (plain : kind = .plainText ∨ kind = .structuredPlan) :
    (forBlock config kind).KeepsResult := by
  rcases plain with rfl | rfl
  · constructor <;> simp [forBlock, shown, kinds]
  · refine ⟨?_, ?_, ?_, ?_⟩
    · simp [forBlock, structuredPlan, shown]
    · simp
    · simp [forBlock, structuredPlan, shown]
    · intro kind owned fenced
      simp only [forBlock, structuredPlan, shown, kinds] at owned
      simp at owned
      rcases owned with rfl | ⟨-, rfl⟩ | ⟨-, rfl⟩
      · rfl
      · contradiction
      · contradiction

/-- The block has run, and its result is among what it has written. -/
structure Block.LeavesResult (block : Block) (artifacts : List Text) : Prop where
  runs : block.config.run = true
  filled : Text.isBlankText block.content = false
  once : block.config.rerun = false
  keeps : block.plan.KeepsResult
  result : ∃ text, resultFence text ∈ artifacts

/-- A block whose result was written is left alone, and what follows stays stable. -/
theorem OpenBlock.stable_written {block : OpenBlock} {defaults : Defaults} {separator : Line}
    {written : List Written} {cut out : List Line} (close : Line)
    (runs : block.config.run = true) (filled : Text.isBlankText block.body.flatten = false)
    (once : block.config.rerun = false)
    (keeps : (ArtifactPlan.forBlock block.config block.language.resultKind).KeepsResult)
    (blank : separator.isBlank = true)
    (ordered : (written.map Written.kind).Sublist
      (ArtifactPlan.forBlock block.config block.language.resultKind).kinds)
    (result : ∃ artifact ∈ written, artifact.kind = .resultFence)
    (ended : cut = [] ∨ out = [] ∧ ∀ line ∈ cut, Fence.isClose line = false)
    (behind : ∀ segment ∈ segments defaults .outside out, segment.IsStable) :
    let following := separator :: Written.spread written ++ cut ++ out
    (Segment.block (block.close close following)).IsStable ∧
      ∀ segment ∈ segments defaults .outside (block.decision following).unread,
        segment.IsStable := by
  intro following
  let plan := ArtifactPlan.forBlock block.config block.language.resultKind
  have apart : plan.kinds.Pairwise ArtifactKind.Apart := ArtifactPlan.forBlock_kinds_apart ..
  have shape : following = separator :: (Written.spread written ++ (cut ++ out)) := by
    simp [following]
  have decided : block.decision following =
      Decision.inspect block.config plan
        (separator :: (Written.spread written ++ (cut ++ out))) := by
    rw [shape]
    exact Decision.forBlock_inspect runs filled keeps.separate _
  have present : ∃ artifact ∈ written, artifact.kind = plan.primary := by
    rw [show plan.primary = _ from keeps.primary]
    exact result
  obtain ⟨execute, all⟩ :=
    Decision.inspect_written_kept apart ordered present blank once keeps.kept
  rw [← decided] at execute all
  have white : ∀ line ∈ [separator], line.isBlank = true := by simpa using blank
  obtain ⟨allowed, rim, read, rest, owned, bare, remains, ends, split⟩ :=
    Decision.inspect_past_written block.config (cut ++ out) apart ordered white
  have unfenced : ∀ kind ∈ allowed, kind.isFenced = false := by
    intro kind member
    apply Bool.eq_false_iff.mpr
    intro fenced
    obtain ⟨among, sort⟩ := owned kind member
    obtain rfl := keeps.fenced kind among fenced
    rcases sort with linked | others
    · contradiction
    · obtain ⟨artifact, written, same⟩ := result
      exact absurd (others artifact written) (by rw [same]; decide)
  have whole : rest = [] := by
    rcases ends with nothing | ⟨-, kind, member, broken⟩
    · exact nothing
    · cases broken with
      | intro fenced =>
        rw [unfenced kind member] at fenced
        contradiction
  have unread : (Decision.inspect block.config plan
      ([separator] ++ (Written.spread written ++ (cut ++ out)))).unread =
        (block.decision following).unread := by rw [decided]; rfl
  rw [whole, List.append_nil, unread] at split
  refine ⟨⟨execute, ?_⟩, ?_⟩
  · have parts := block.close_read_append close following
    rw [← shape] at all
    exact List.append_cancel_right (all.trans parts.symm)
  · rcases unread_cases bare ended split with
      ⟨beyond, rfl, tail⟩ | ⟨left, white, tail⟩ | ⟨-, unclosed⟩
    · have neutral : ∀ line ∈ beyond, Line.IsNeutral defaults line :=
        fun line member => remains.neutral unfenced line (by simp [member])
      rw [tail] at behind
      exact (stable_neutral neutral).mp behind
    · have neutral : ∀ line ∈ left, Line.IsNeutral defaults line :=
        fun line member => Line.neutral_of_blank (white line member)
      rw [tail]
      exact (stable_neutral neutral).mpr behind
    · exact stable_unclosed unclosed .outside

theorem Rewrites.stable {defaults : Defaults} {state : ScanState} {lines out : List Line}
    (rewrites : Rewrites defaults
      (fun block fresh => ∃ artifacts, block.LeavesResult artifacts ∧ block.Leaves artifacts fresh)
      state lines out) : ∀ segment ∈ segments defaults state out, segment.IsStable := by
  induction rewrites with
  | @done state => exact stable_unclosed (by simp) state
  | outside _ ih =>
    rw [segments]
    exact List.forall_mem_cons.mpr ⟨trivial, ih⟩
  | inResult _ ih =>
    rw [segments]
    exact List.forall_mem_cons.mpr ⟨trivial, ih⟩
  | body unclosed _ ih =>
    rw [segments, if_neg (by simp [unclosed])]
    exact ih
  | @kept block line following out closes stays rewrites ih =>
    obtain ⟨still, through, again⟩ := rewrites.decision_again stays
    have parts := block.close_read_append line ((block.decision following).passThrough ++ out)
    rw [again] at parts
    rw [segments, if_pos closes, again]
    have read := List.append_cancel_right parts
    exact List.forall_mem_cons.mpr ⟨⟨still, through.trans read.symm⟩, ih⟩
  | @executed block line following fresh out closes due writes rewrites ih =>
    -- The result that was written is found again, and it keeps the block from running.
    obtain ⟨artifacts, left, leaves⟩ := writes
    obtain ⟨text, result⟩ := left.result
    have ended := rewrites.passed_on due
    rw [segments, if_pos ((line.isClose_before fresh).trans closes)]
    cases leaves with
    | bare => simp at result
    | unknown =>
      have same := List.mem_singleton.mp result
      exact absurd same (Splice.forms_apart text [] [] _).2.2.1
    | @artifacts separator written blank _ _ ordered =>
      have present : ∃ artifact ∈ written, artifact.kind = .resultFence := by
        obtain ⟨artifact, member, same⟩ := List.mem_map.mp result
        have owned := ordered.subset (List.mem_map_of_mem member)
        exact ⟨artifact, member,
          left.keeps.fenced _ owned (Written.isFenced_of_result same)⟩
      exact List.forall_mem_cons.mpr (OpenBlock.stable_written _ left.runs left.filled left.once
        left.keeps blank ordered present ended ih)

namespace Pass

variable {services : Services σ} {state : σ}

theorem leavesResult_of_settled {document : Text} {block : Block} {outcome : Outcome}
    {spliced : Spliced}
    (member : .executed block outcome spliced ∈ (ofDocument services state document).pieces)
    (settled : block.IsSettled) :
    block.LeavesResult spliced.artifacts ∧ ∀ name, diagramImage name ∉ spliced.artifacts := by
  have closed := mem_blocks_of_executed member
  rw [ofDocument_eq] at member
  obtain ⟨-, due, before, after, called, rendered⟩ := run_origin member
  obtain ⟨opened, line, following, rfl, -⟩ := scanned_origin document (mem_blocks.mp closed)
  obtain ⟨runs, filled⟩ := Decision.forBlock_due due
  rcases settled with off | empty | ⟨once, shown, plain⟩
  · exact absurd (off.symm.trans runs) (by decide)
  · exact absurd (empty.symm.trans filled) (by decide)
  · rw [rendered]
    refine ⟨⟨runs, filled, once, ArtifactPlan.forBlock_keepsResult shown plain, _,
      Splice.render_result shown plain ..⟩, ?_⟩
    intro name drawn
    have image := (Splice.artifacts_of_diagram drawn).1
    rcases plain with plain | plain <;> exact absurd (plain.symm.trans image) (by decide)

/-- Where every block is settled, one pass is enough. Whatever surrounds a second one, it executes
nothing and gives the text back as it is. No link breaks its line, nor does the name of a picture,
which is made of the time of day. -/
theorem ofDocument_idempotent {document output : Text}
    (done : (ofDocument services state document).result = .ok output)
    (settled : ∀ block ∈ blocks document, block.IsSettled)
    (results : ∀ block outcome spliced text,
      .executed block outcome spliced ∈ (ofDocument services state document).pieces →
        resultFence text ∈ spliced.artifacts → ∀ line ∈ Text.lines text, Fence.isClose line = false)
    (links : ∀ block outcome spliced address,
      .executed block outcome spliced ∈ (ofDocument services state document).pieces →
        planLink address ∈ spliced.artifacts → '\n' ∉ address)
    (names : ∀ block outcome spliced name,
      .executed block outcome spliced ∈ (ofDocument services state document).pieces →
        flamegraphImage name ∈ spliced.artifacts → '\n' ∉ name)
    (ended : ∀ line, (Text.lines document).getLast? = some line →
      line.isBlank = true → Text.endsLine line = true)
    (again : Services τ) (later : τ) :
    (ofDocument again later output).requests = [] ∧
      (ofDocument again later output).result = .ok output := by
  have executed : ∀ block outcome spliced,
      .executed block outcome spliced ∈ (ofDocument services state document).pieces →
        block.plan.inline = false ∧ spliced.Contained ∧ block.LeavesResult spliced.artifacts := by
    intro block outcome spliced member
    obtain ⟨leaves, undrawn⟩ :=
      leavesResult_of_settled member (settled block (mem_blocks_of_executed member))
    have contained : spliced.Contained := by
      constructor
      · exact fun text => results block outcome spliced text member
      · exact fun address => links block outcome spliced address member
      · exact fun name => names block outcome spliced name member
      · exact fun name drawn => absurd drawn (undrawn name)
    exact ⟨leaves.keeps.separate, contained, leaves⟩
  obtain ⟨out, rewrites, lines, rescanned⟩ := ofDocument_rewrites Block.LeavesResult done
    ((Text.areLines_lines document).endsLine_of_last ended) executed
  have stable : ∀ segment ∈ scanned output, segment.IsStable := by
    intro segment member
    rw [rescanned] at member
    rcases List.mem_append.mp member with front | member
    · obtain ⟨line, -, rfl⟩ := List.mem_map.mp front
      trivial
    · exact rewrites.stable segment member
  obtain ⟨requests, result⟩ := run_stable stable
  rw [scanned_source, Text.lines_flatten] at result
  rw [ofDocument_eq]
  exact ⟨requests, result⟩

/-- The second pass over a log keeps the day that the first one has written. -/
theorem ofDocument_idempotent_log :
    let services := Services.constant { stdout := "Monday\n", exitCode := some 0 } {}
    let output := "# Log\n```bash\ndate\n```\n\n```RESULT\nMonday\n```\n\nEnd.\n".toList
    (ofDocument services () "# Log\n```bash\ndate\n```\n\n\nEnd.\n".toList).result = .ok output ∧
      (ofDocument services () output).requests = [] ∧
      (ofDocument services () output).result = .ok output := by
  intro services output
  let document := "# Log\n```bash\ndate\n```\n\n\nEnd.\n".toList
  have done : (ofDocument services () document).result = .ok output :=
    result_of_constant (by decide +kernel)
  have settled : ∀ block ∈ blocks document, block.IsSettled := by decide +kernel
  have results : ∀ block outcome spliced text,
      .executed block outcome spliced ∈ (ofDocument services () document).pieces →
        resultFence text ∈ spliced.artifacts →
          ∀ line ∈ Text.lines text, Fence.isClose line = false := by
    intro block outcome spliced text member written
    rw [ofDocument_eq] at member
    obtain ⟨rfl, given, -, -, rfl⟩ := run_constant member
    apply Splice.resultFence_lines (Splice.result_of_rendered written)
    cases block.language.errorStyle <;> decide
  have links : ∀ block outcome spliced address,
      .executed block outcome spliced ∈ (ofDocument services () document).pieces →
        planLink address ∈ spliced.artifacts → '\n' ∉ address := by
    intro block outcome spliced address member written
    rw [ofDocument_eq] at member
    obtain ⟨rfl, given, linked, -, rfl⟩ := run_constant member
    exact absurd (linked address (Splice.link_of_rendered written)) (by simp)
  have names : ∀ block outcome spliced name,
      .executed block outcome spliced ∈ (ofDocument services () document).pieces →
        flamegraphImage name ∈ spliced.artifacts → '\n' ∉ name := by
    intro block outcome spliced name member written
    rw [ofDocument_eq] at member
    obtain ⟨rfl, given, -, drawn, rfl⟩ := run_constant member
    exact absurd (drawn name (Splice.picture_of_rendered written)) (by simp)
  have ended : ∀ line, (Text.lines document).getLast? = some line →
      line.isBlank = true → Text.endsLine line = true := by decide +kernel
  exact ⟨done, ofDocument_idempotent done settled results links names ended services ()⟩

end Pass
end Runbook
