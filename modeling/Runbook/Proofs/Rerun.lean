import Runbook.Proofs.SecondPass

/-! A rerun leaves no trace of the run before it. Where every block that runs writes one result and
renews it with each pass, a pass over what earlier passes have left makes of it what it makes of
the document itself: the old result is found and taken away to the last blank line. -/
namespace Runbook

namespace Block

/-- The block never runs, or every pass renews its one result. -/
def IsRenewed (block : Block) : Prop :=
  block.config.run = false ∨ Text.isBlankText block.content = true ∨
    block.config.rerun = true ∧ block.config.showResult = true ∧
      (block.language.resultKind = .plainText ∨ block.language.resultKind = .structuredPlan ∧
        block.config.explain = false ∧ block.config.flamegraph = false)

instance (block : Block) : Decidable block.IsRenewed :=
  inferInstanceAs (Decidable (_ ∨ _ ∨ _ ∧ _ ∧ (_ ∨ _ ∧ _ ∧ _)))

/-- The block runs whatever follows it, and writes its result and nothing else. -/
structure Renews (block : Block) : Prop where
  runs : block.config.run = true
  filled : Text.isBlankText block.content = false
  again : block.config.rerun = true
  shown : block.config.showResult = true
  plain : block.language.resultKind = .plainText ∨ block.language.resultKind = .structuredPlan
  bare : ArtifactPlan.isVisualized block.config block.language.resultKind = false

variable {block : Block}

theorem IsRenewed.renews (renewed : block.IsRenewed) (runs : block.config.run = true)
    (filled : Text.isBlankText block.content = false) : block.Renews := by
  rcases renewed with off | empty | ⟨again, shown, plain | ⟨query, unexplained, undrawn⟩⟩
  · exact absurd (off.symm.trans runs) (by decide)
  · exact absurd (empty.symm.trans filled) (by decide)
  · exact ⟨runs, filled, again, shown, .inl plain, by simp [ArtifactPlan.isVisualized, plain]⟩
  · exact ⟨runs, filled, again, shown, .inr query,
      by simp [ArtifactPlan.isVisualized, unexplained, undrawn]⟩

namespace Renews

theorem kinds (renews : block.Renews) : block.plan.kinds = [.resultFence] := by
  have bare := renews.bare
  rcases renews.plain with plain | query
  · simp [plan, ArtifactPlan.forBlock, ArtifactPlan.kinds, renews.shown, plain]
  · simp only [ArtifactPlan.isVisualized, query, beq_self_eq_true, Bool.true_and,
      Bool.or_eq_false_iff] at bare
    simp [plan, ArtifactPlan.forBlock, ArtifactPlan.structuredPlan, ArtifactPlan.kinds,
      renews.shown, query, bare]

theorem separate (renews : block.Renews) : block.plan.inline = false := by
  rw [plan, ArtifactPlan.forBlock_inline]
  rcases renews.plain with plain | plain <;> rw [plain] <;> rfl

theorem render (renews : block.Renews) {outcome : Outcome} {answers : Answers}
    (fits : answers.Fits (Splice.visuals block.config block.language.resultKind outcome)) :
    Splice.render block.config block.language outcome block.source answers =
      { artifacts := [resultFence (outcome.framed block.language.errorStyle)] } := by
  have visible : (ArtifactPlan.forBlock block.config block.language.resultKind).hidden = false := by
    rcases renews.plain with plain | plain <;>
      simp [ArtifactPlan.forBlock, ArtifactPlan.structuredPlan, renews.shown, plain]
  have nothing : Splice.visuals block.config block.language.resultKind outcome = {} := by
    simp [Splice.visuals, renews.bare]
  have unlinked : answers.link = none := by simpa [nothing] using fits.link
  have undrawn : answers.picture = none := by simpa [nothing] using fits.picture
  rw [Splice.render, if_neg (by simp [visible])]
  rcases renews.plain with plain | plain <;>
    simp [plain, Splice.planArtifacts, renews.shown, unlinked, undrawn]

end Renews

end Block

/-- Two runs ask and leave the same. Their output may be cut into other pieces. -/
structure Run.Agrees (run other : Run σ) : Prop where
  text : run.text = other.text
  requests : run.requests = other.requests
  submitted : run.submitted = other.submitted
  failure : run.failure = other.failure
  state : run.state = other.state

namespace Run.Agrees

variable {run other third : Run σ}

theorem refl (run : Run σ) : run.Agrees run := ⟨rfl, rfl, rfl, rfl, rfl⟩

theorem trans (first : run.Agrees other) (second : other.Agrees third) : run.Agrees third :=
  ⟨first.text.trans second.text, first.requests.trans second.requests,
    first.submitted.trans second.submitted, first.failure.trans second.failure,
    first.state.trans second.state⟩

theorem prepend (agrees : run.Agrees other) {pieces others : List Piece}
    (same : pieces.flatMap Piece.output = others.flatMap Piece.output) (requests : List Request)
    (submitted : List Text) :
    (run.prepend pieces requests submitted).Agrees (other.prepend others requests submitted) where
  text := by rw [Run.text_prepend, Run.text_prepend, same, agrees.text]
  requests := congrArg (requests ++ ·) agrees.requests
  submitted := congrArg (submitted ++ ·) agrees.submitted
  failure := agrees.failure
  state := agrees.state

theorem result (agrees : run.Agrees other) : run.result = other.result := by
  rw [Run.result, Run.result, agrees.failure, agrees.text]

end Run.Agrees

/-- A block has stayed what it was, whatever stands behind it now. -/
structure Block.Stays (block twin : Block) : Prop where
  language : block.language = twin.language
  config : block.config = twin.config
  body : block.body = twin.body

namespace Block.Stays

variable {block twin : Block}

theorem content (stays : block.Stays twin) : block.content = twin.content := by
  rw [Block.content, Block.content, stays.body]

theorem source (stays : block.Stays twin) : block.source = twin.source := by
  rw [Block.source, Block.source, Block.plan, Block.plan, stays.content, stays.config,
    stays.language]

theorem request (stays : block.Stays twin) : block.request = twin.request := by
  rw [Block.request, Block.request, stays.source, stays.config, stays.language]

theorem isRenewed (stays : block.Stays twin) (renewed : twin.IsRenewed) : block.IsRenewed := by
  unfold IsRenewed at renewed ⊢
  rwa [stays.content, stays.config, stays.language]

end Block.Stays

/-- The segments of what a pass has left, beside those of its document. An artifact that was cut
belongs to its block in the document only. -/
inductive Twins : List Segment → List Segment → Prop
  | nil : Twins [] []
  | copied {line : Line} {again first : List Segment} :
      Twins again first → Twins (.copied line :: again) (.copied line :: first)
  | kept {block twin : Block} {again first : List Segment} :
      block.Stays twin → block.close = twin.close → block.decision.execute = false →
      twin.decision.execute = false → block.decision.passThrough = twin.decision.passThrough →
      Twins again first → Twins (.block block :: again) (.block twin :: first)
  | executed {block twin : Block} {again first : List Segment} :
      block.Stays twin → Text.terminated block.close = Text.terminated twin.close →
      block.decision.execute = true → twin.decision.execute = true →
      block.decision.separator.getD ['\n'] = twin.decision.separator.getD ['\n'] →
      block.decision.passThrough = [] → Twins again first →
      Twins (.block block :: (twin.decision.passThrough.map .copied ++ again))
        (.block twin :: first)

theorem Twins.ofCopied {again first : List Segment} (twins : Twins again first)
    (lines : List Line) : Twins (lines.map .copied ++ again) (lines.map .copied ++ first) := by
  induction lines with
  | nil => exact twins
  | cons line lines ih => exact .copied ih

theorem Twins.exists_twin {again first : List Segment} (twins : Twins again first) {block : Block}
    (member : .block block ∈ again) : ∃ twin, .block twin ∈ first ∧ block.Stays twin := by
  induction twins with
  | nil => simp at member
  | copied _ ih =>
    obtain ⟨twin, among, stays⟩ := ih (by simpa using member)
    exact ⟨twin, by simp [among], stays⟩
  | kept stays _ _ _ _ _ ih =>
    rcases List.mem_cons.mp member with same | member
    · cases same
      exact ⟨_, List.mem_cons_self, stays⟩
    · obtain ⟨twin, among, stays⟩ := ih member
      exact ⟨twin, by simp [among], stays⟩
  | executed stays _ _ _ _ _ _ ih =>
    rcases List.mem_cons.mp member with same | member
    · cases same
      exact ⟨_, List.mem_cons_self, stays⟩
    · obtain ⟨twin, among, stays⟩ := ih (by simpa using member)
      exact ⟨twin, by simp [among], stays⟩

/-- The lines are a result of the block, which it renews, behind the blank line that was there. -/
def Block.HasResult (block : Block) (fresh : List Line) : Prop :=
  block.Renews ∧ ∃ (separator : Line) (written : Written),
    fresh = separator :: written.lines ∧ written.kind = .resultFence ∧
      block.decision.separator.getD ['\n'] = separator ∧ separator.isBlank = true ∧
      separator.IsEnded

theorem Block.HasResult.ended {block : Block} {fresh : List Line} (left : block.HasResult fresh) :
    ∀ line ∈ fresh, Line.IsEnded line := by
  obtain ⟨-, separator, written, rfl, -, -, -, ended⟩ := left
  exact List.forall_mem_cons.mpr ⟨ended, written.ended_lines⟩

theorem Text.terminated_terminated (text : Text) :
    terminated (terminated text) = terminated text := by
  have ended : endsLine (terminated text) = true := by
    unfold terminated
    split
    · assumption
    · simp [endsLine]
  rw [terminated, if_pos ended]

/-- What a block has run into is passed on as it is, now or by the next pass. -/
theorem Rewrites.segments_passed {defaults : Defaults} {writes : Block → List Line → Prop}
    {block : OpenBlock} {following out : List Line}
    (rewrites : Rewrites defaults writes .outside (block.decision following).unread out)
    (due : (block.decision following).execute = true) :
    segments defaults .outside ((block.decision following).passThrough ++ out) =
      (block.decision following).passThrough.map .copied ++ segments defaults .outside out := by
  rcases rewrites.passed_on due with nothing | ⟨rfl, unclosed⟩
  · rw [nothing]
    rfl
  · rw [List.append_nil, segments_copied unclosed, segments_copied (by simp)]
    simp

/-- A second scan finds the twins of all segments. -/
theorem Rewrites.twins {defaults : Defaults} {state : ScanState} {lines out : List Line}
    (rewrites : Rewrites defaults Block.HasResult state lines out) :
    Twins (segments defaults state out) (segments defaults state lines) := by
  induction rewrites with
  | @done state =>
    rw [segments_nil]
    simpa using Twins.nil.ofCopied state.pending
  | outside _ ih =>
    rw [segments, segments]
    exact .copied ih
  | inResult _ ih =>
    rw [segments, segments]
    exact .copied ih
  | body unclosed _ ih =>
    rw [segments, segments, if_neg (by simp [unclosed]), if_neg (by simp [unclosed])]
    exact ih
  | @kept block line following out closes stays rewrites ih =>
    obtain ⟨still, through, again⟩ := rewrites.decision_again stays
    rw [segments, segments, if_pos closes, if_pos closes, again]
    exact .kept ⟨rfl, rfl, rfl⟩ rfl still stays through ih
  | @executed block line following fresh out closes due left rewrites ih =>
    -- The new result stands where the old one stood, so the next run drops it as this one did.
    obtain ⟨renews, separator, written, rfl, result, gap, blank, ended⟩ := left
    have lead : ∀ line, ((block.decision following).passThrough ++ out).head? = some line →
        line.isBlank = false := by
      rw [List.head?_append, rewrites.head?, ← List.head?_append]
      exact block.decision_behind due renews.separate
    let behind := separator :: written.lines ++ (block.decision following).passThrough ++ out
    have decided : block.decision behind = Decision.inspect (block.close line following).config
        (block.close line following).plan
        (separator :: (written.lines ++ ((block.decision following).passThrough ++ out))) := by
      rw [← List.append_assoc, ← List.cons_append, ← List.cons_append]
      exact Decision.forBlock_inspect renews.runs renews.filled renews.separate behind
    have execute : (block.decision behind).execute = true := by
      rw [decided, Decision.inspect_eq]
      exact Decision.verdict_rerun _ _ renews.again
    have white : ∀ line ∈ [separator], line.isBlank = true := by simpa using blank
    rw [decided] at execute
    obtain ⟨found, through, unread⟩ := Decision.inspect_result
      (show _ = [] ++ [ArtifactKind.resultFence] from renews.kinds)
      (ArtifactPlan.forBlock_kinds_apart ..) result white lead execute
    rw [List.singleton_append, ← decided] at found through unread
    rw [← decided] at execute
    rw [segments, segments, if_pos ((line.isClose_before _).trans closes), if_pos closes, unread,
      rewrites.segments_passed due]
    refine @Twins.executed (block.close _ behind) (block.close line following) _ _ ⟨rfl, rfl, rfl⟩
      ?_ execute due ?_ through ih
    · exact Text.terminated_terminated line
    · rw [gap]
      exact congrArg (Option.getD · ['\n']) found

namespace Pass

variable {again first : List Segment}

theorem run_twins (twins : Twins again first)
    (renews : ∀ block, .block block ∈ first → block.decision.execute = true → block.Renews)
    (services : Services σ) (state : σ) :
    (run services state again).Agrees (run services state first) := by
  induction twins generalizing state with
  | nil => exact .refl _
  | copied _ ih =>
    exact (ih (fun block member => renews block (by simp [member])) state).prepend rfl [] []
  | @kept block twin again first stays close idle idle' through _ ih =>
    rw [run_kept idle, run_kept idle']
    refine (ih (fun block member => renews block (by simp [member])) state).prepend ?_ [] []
    simp only [List.flatMap_singleton, Piece.output, stays.content, close, through]
  | @executed block twin again first stays close due due' separator through _ ih =>
    have later := ih fun block member => renews block (by simp [member])
    cases called : services.execute twin.request state with
    | mk answer after =>
      cases answer with
      | error failure =>
        rw [run, run, if_pos due, if_pos due', stays.request, called]
        exact .refl _
      | ok outcome =>
        rw [run_executed due (stays.request ▸ called), run_executed due' called, run_copied]
        simp only [stays.language, stays.config, stays.source, stays.request]
        let answered := services.answer
          (Splice.visuals twin.config twin.language.resultKind outcome) after
        have fits : answered.1.Fits _ := services.answer_fits _ after
        rw [(renews twin List.mem_cons_self due').render fits, Run.prepend_prepend,
          List.append_nil, List.append_nil]
        refine (later answered.2).prepend ?_ _ _
        rw [List.flatMap_append, Piece.output_copied, List.flatMap_singleton,
          List.flatMap_singleton, Piece.output_executed rfl (List.cons_ne_nil _ _),
          Piece.output_executed rfl (List.cons_ne_nil _ _), stays.content, close, separator,
          through]
        simp only [List.flatten_nil, List.append_nil, List.append_assoc]

/-- A block that renews its result writes one behind its closing fence, and it is found again
unless a line of it closes it. -/
theorem hasResult_of_executed {services : Services σ} {state : σ} {document : Text} {block : Block}
    {outcome : Outcome} {spliced : Spliced}
    (member : .executed block outcome spliced ∈ (ofDocument services state document).pieces)
    (renews : block.Renews)
    (ended : ∀ line ∈ Text.lines document, line.isBlank = true → Text.endsLine line = true)
    (unclosed : ∀ line ∈ Text.lines (outcome.framed block.language.errorStyle),
      Fence.isClose line = false) :
    spliced.annotatedBody = none ∧ ∃ fresh, block.HasResult fresh ∧
      block.close ++ Piece.artifactsText block spliced.artifacts =
        block.close.before fresh ++ fresh.flatten := by
  have closed := mem_blocks.mp (mem_blocks_of_executed member)
  rw [ofDocument_eq] at member
  obtain ⟨-, -, -, after, -, rfl⟩ := run_origin member
  have separator := scanned_separator closed (separator_ended closed ended)
  rw [renews.render (services.answer_fits _ after)]
  obtain ⟨written, result, text⟩ := Written.ofResult unclosed
  have gap : Line.isBlank (block.decision.separator.getD ['\n']) = true ∧
      Line.IsEnded (block.decision.separator.getD ['\n']) := by
    cases found : block.decision.separator with
    | none => exact ⟨by decide, Line.isEnded_newline⟩
    | some line => exact ⟨(separator line found).1, (separator line found).2.1⟩
  refine ⟨rfl, _, ⟨renews, _, written, rfl, result, rfl, gap⟩, ?_⟩
  refine Block.close_artifactsText (List.cons_ne_nil _ _) ?_
  rw [← text, List.flatten_singleton]
  rfl

/-- Passes lead from one text to another, each with surroundings of its own. They end well, and no
line that a block prints closes its result. -/
inductive Reruns : Text → Text → Prop
  | none {document : Text} : Reruns document document
  | pass {σ : Type} {services : Services σ} {state : σ} {document between output : Text} :
      Reruns document between → (ofDocument services state between).result = .ok output →
      (∀ block outcome spliced,
        .executed block outcome spliced ∈ (ofDocument services state between).pieces →
          ∀ line ∈ Text.lines (outcome.framed block.language.errorStyle),
            Fence.isClose line = false) →
      Reruns document output

theorem renews_of_due {document : Text} (renewed : ∀ block ∈ blocks document, block.IsRenewed)
    {block : Block} (member : .block block ∈ scanned document)
    (due : block.decision.execute = true) : block.Renews := by
  have settled := renewed block (mem_blocks.mpr member)
  obtain ⟨opened, line, following, rfl, -⟩ := scanned_origin document member
  obtain ⟨runs, filled⟩ := Decision.forBlock_due due
  exact settled.renews runs filled

theorem scanned_twins {services : Services σ} {state : σ} {document output : Text}
    (done : (ofDocument services state document).result = .ok output)
    (unclosed : ∀ block outcome spliced,
      .executed block outcome spliced ∈ (ofDocument services state document).pieces →
        ∀ line ∈ Text.lines (outcome.framed block.language.errorStyle), Fence.isClose line = false)
    (renewed : ∀ block ∈ blocks document, block.IsRenewed)
    (ended : ∀ line ∈ Text.lines document, line.isBlank = true → Text.endsLine line = true) :
    Twins (scanned output) (scanned document) ∧
      ∀ line ∈ Text.lines output, line.isBlank = true → Text.endsLine line = true := by
  obtain ⟨out, rewrites, lines, rescanned⟩ := ofDocument_anew done
    (fun block outcome spliced member => by
      have closed := mem_blocks.mp (mem_blocks_of_executed member)
      have due := member
      rw [ofDocument_eq] at due
      exact hasResult_of_executed member (renews_of_due renewed closed (run_origin due).2.1) ended
        (unclosed block outcome spliced member))
    fun block fresh (left : block.HasResult fresh) => left.ended
  constructor
  · rw [rescanned]
    exact rewrites.twins.ofCopied _
  · rw [lines]
    rw [← Frontmatter.split_append (Text.lines document)] at ended
    obtain ⟨front, behind⟩ := List.forall_mem_append.mp ended
    exact List.forall_mem_append.mpr ⟨front, rewrites.blank_ended behind
      fun block fresh left => left.ended⟩

/-- However many passes there have been, every block is still renewed, and the next pass does what
it would have done on the document. -/
theorem Reruns.agrees {document output : Text} (reruns : Reruns document output)
    (renewed : ∀ block ∈ blocks document, block.IsRenewed)
    (ended : ∀ line ∈ Text.lines document, line.isBlank = true → Text.endsLine line = true)
    (services : Services σ) (state : σ) :
    (ofDocument services state output).Agrees (ofDocument services state document) ∧
      (∀ block ∈ blocks output, block.IsRenewed) ∧
      ∀ line ∈ Text.lines output, line.isBlank = true → Text.endsLine line = true := by
  induction reruns with
  | none => exact ⟨.refl _, renewed, ended⟩
  | pass _ done unclosed ih =>
    obtain ⟨agrees, between, blanks⟩ := ih renewed ended
    obtain ⟨twins, later⟩ := scanned_twins done unclosed between blanks
    refine ⟨?_, ?_, later⟩
    · have again := run_twins twins (fun block => renews_of_due between) services state
      rw [← ofDocument_eq, ← ofDocument_eq] at again
      exact again.trans agrees
    · intro block member
      obtain ⟨twin, among, stays⟩ := twins.exists_twin (mem_blocks.mp member)
      exact stays.isRenewed (between twin (mem_blocks.mpr among))

/-- Where every block renews its one result, a pass over what any earlier passes have left does and
gives what it would have done and given on the document itself. So no line of an earlier result
stays, and the text does not grow however often it is run. -/
theorem ofDocument_rerun {document output : Text} (reruns : Reruns document output)
    (renewed : ∀ block ∈ blocks document, block.IsRenewed)
    (ended : ∀ line, (Text.lines document).getLast? = some line →
      line.isBlank = true → Text.endsLine line = true)
    (services : Services σ) (state : σ) :
    (ofDocument services state output).result = (ofDocument services state document).result ∧
      (ofDocument services state output).requests =
        (ofDocument services state document).requests ∧
      (ofDocument services state output).state = (ofDocument services state document).state := by
  obtain ⟨agrees, -⟩ := reruns.agrees renewed
    ((Text.areLines_lines document).endsLine_of_last ended) services state
  exact ⟨agrees.result, agrees.requests, agrees.state⟩

/-- A date is renewed twice. The result of an older run goes with the blank lines around it, and
another one behind it that the block does not own stays. -/
theorem ofDocument_rerun_date :
    let monday := Services.constant { stdout := "Monday\n", exitCode := some 0 } {}
    let tuesday := Services.constant { stdout := "Tuesday\n", exitCode := some 0 } {}
    let block := "```bash rerun\ndate\n```\n".toList
    let other := "```RESULT\nkept\n```\n\n\nEnd.".toList
    let document := block ++ "\n\n```RESULT\nSunday\n```\n\n\n".toList ++ other
    let output := block ++ "\n```RESULT\nMonday\n```\n\n".toList ++ other
    let renewed := block ++ "\n```RESULT\nTuesday\n```\n\n".toList ++ other
    (ofDocument monday () document).result = .ok output ∧
      (ofDocument tuesday () document).result = .ok renewed ∧
      (ofDocument tuesday () output).result = .ok renewed := by
  intro monday tuesday block other document output renewed
  have first : (ofDocument monday () document).result = .ok output :=
    result_of_constant (by decide +kernel)
  have second : (ofDocument tuesday () document).result = .ok renewed :=
    result_of_constant (by decide +kernel)
  have reruns : Reruns document output := by
    refine .pass .none first fun block outcome spliced member => ?_
    rw [ofDocument_eq] at member
    obtain ⟨rfl, -⟩ := run_constant member
    cases block.language.errorStyle <;> decide
  have rerun := ofDocument_rerun reruns (by decide +kernel) (by decide +kernel) tuesday ()
  exact ⟨first, second, rerun.1.trans second⟩

end Pass
end Runbook
