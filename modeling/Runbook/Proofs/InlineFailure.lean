import Runbook.Proofs.Annotations
import Runbook.Proofs.SamePlace
import Runbook.Proofs.Verdict

/-! Blocks that hold their own results and fail. The failure is noted below the source, and the
note is the first thing that goes when the block is run again: so notes do not pile up, and none
is ever run. -/
namespace Runbook

open Annotation

/-- The interpreter has failed, and left nothing to show. -/
structure Outcome.FailsSilently (outcome : Outcome) : Prop where
  failed : outcome.isSuccess = false
  silent : Text.isBlankText outcome.stdout = true

theorem Outcome.failureSummary_ne_nil (outcome : Outcome) : outcome.failureSummary ≠ [] := by
  have start : "Execution failed (status: ".toList ≠ [] := by decide
  unfold failureSummary
  simp only [List.append_assoc]
  exact List.append_ne_nil_of_left_ne_nil start _

namespace Splice

variable {config : BlockConfig} {language : Language} {outcome : Outcome} {source : Text}
  {answers : Answers}

theorem annotatedBody_failed (fails : outcome.FailsSilently) (whole : Text.IsWhole source) :
    annotatedBody outcome source = source ++ exceptionLines outcome.failureSummary := by
  have same : (if source.isEmpty then [] else Text.terminated source) = source := by
    by_cases empty : source = []
    · simp [empty]
    · rw [if_neg (by simpa using empty), whole.terminated empty]
  simp only [annotatedBody, fails.silent, fails.failed, if_true, same]
  rfl

theorem render_failed (inline : language.resultKind = .inlineAnnotated)
    (shown : config.showResult = true) (fails : outcome.FailsSilently)
    (whole : Text.IsWhole source) :
    render config language outcome source answers =
      { annotatedBody := some (source ++ exceptionLines outcome.failureSummary) } := by
  have visible : (ArtifactPlan.forBlock config language.resultKind).hidden = false := by
    simp [ArtifactPlan.forBlock, inline, shown]
  rw [render, if_neg (by simp [visible]), inline, annotatedBody_failed fails whole]

end Splice

namespace Pass

variable {services : Services σ} {state : σ} {document output : Text}

section Step

variable {before after : List Piece} {block : Block} {outcome : Outcome} {spliced : Spliced}
  (parts : (ofDocument services state document).pieces =
    before ++ .executed block outcome spliced :: after)
  (inline : block.language.resultKind = .inlineAnnotated) (shown : block.config.showResult = true)
  (fails : outcome.FailsSilently)
include parts inline shown fails

theorem annotated_of_failed (done : (ofDocument services state document).failure = none) :
    spliced.annotatedBody =
        some (strip block.content ++ exceptionLines outcome.failureSummary) ∧
      spliced.artifacts = [] := by
  obtain ⟨cut, origins⟩ := executed_parts done parts
  obtain ⟨-, _, _, -, rendered⟩ := origins _ (List.mem_append_right _ List.mem_cons_self)
  have member : .block block ∈ scanned document := by simp [cut]
  have source : block.source = strip block.content := by
    rw [Block.source, Block.plan, ArtifactPlan.forBlock_inline]
    simp [inline]
  have whole := isWhole_strip (lines_content member).2
  rw [rendered, source, Splice.render_failed inline shown fails whole]
  exact ⟨rfl, rfl⟩

theorem lines_failed (done : (ofDocument services state document).result = .ok output) :
    let body := strip block.content ++ exceptionLines outcome.failureSummary
    ∃ following, Text.lines output =
        Text.lines (before.flatMap Piece.output) ++
          (Text.lines body ++ block.close :: following) ∧
      ∀ line ∈ Text.lines body, Fence.isClose line = false := by
  intro body
  obtain ⟨unbroken, text⟩ := Run.result_eq_ok_iff.mp done
  obtain ⟨cut, -⟩ := executed_parts unbroken parts
  have member : .block block ∈ scanned document := by simp [cut]
  obtain ⟨annotated, bare⟩ := annotated_of_failed parts inline shown fails unbroken
  obtain ⟨content, ended⟩ := lines_content member
  have above : Text.IsWhole (before.flatMap Piece.output) := .flatMap (isWhole_before unbroken parts)
  have source := isWhole_strip ended
  have whole : Text.IsWhole body := source.append (Splice.isWhole_exceptionLines _)
  have written : output = before.flatMap Piece.output ++ (body ++ (block.close ++
      (Piece.artifactsText block [] ++
        (block.decision.passThrough.flatten ++ after.flatMap Piece.output)))) := by
    rw [← text, Run.text, parts, List.flatMap_append, List.flatMap_cons, Piece.output, annotated,
      bare]
    simp [body]
  have lines := congrArg Text.lines written
  rw [above.lines_append, whole.lines_append, lines_close unbroken parts] at lines
  refine ⟨_, lines, ?_⟩
  rw [source.lines_append]
  refine List.forall_mem_append.mpr ⟨fun line among => ?_, unclosed_exceptionLines _⟩
  rw [lines_strip] at among
  exact scanned_unclosed_body document member line (content ▸ (List.mem_filter.mp among).1)

/-- The block that the next scan closes there is the same, with the failure in its body. -/
theorem next_of_failed (done : (ofDocument services state document).result = .ok output)
    {again rest : List Segment} {next : Block} (cut : scanned output = again ++ .block next :: rest)
    (place : (again.flatMap Segment.source).flatten = before.flatMap Piece.output) :
    next.language = block.language ∧ next.config = block.config ∧
      next.content = strip block.content ++ exceptionLines outcome.failureSummary := by
  obtain ⟨unbroken, -⟩ := Run.result_eq_ok_iff.mp done
  obtain ⟨was, -⟩ := executed_parts unbroken parts
  obtain ⟨following, lines, unclosed⟩ := lines_failed parts inline shown fails done
  have closes := scanned_closes document (show .block block ∈ scanned document by simp [was])
  have valid := Text.areLines_lines output
  have body := scanned_at cut (by
    rw [place, ← Text.lines_flatten output, lines, List.flatten_append, Text.lines_flatten])
    (lines ▸ valid).of_append unclosed closes
  have content : next.content = _ := congrArg List.flatten body.1
  rw [Text.lines_flatten] at content
  have opening := header_of_place done parts cut place
  exact ⟨opening.1, opening.2, content⟩

end Step

/-- Passes in each of which one block of a document has run, has failed and has printed nothing,
each with surroundings of its own; and the text that the last one has left, with the block that
the scan closes there in the same place. -/
inductive Failing (document : Text) (block : Block) : List Outcome → Text → Block → Prop
  | start {before after : List Segment} (cut : scanned document = before ++ .block block :: after) :
      Failing document block [] document block
  | pass {σ : Type} {services : Services σ} {state : σ} {between output : Text}
      {outcomes : List Outcome} {outcome : Outcome} {met next : Block} {spliced : Spliced}
      {before after : List Piece} {again rest : List Segment} :
      Failing document block outcomes between met →
      (ofDocument services state between).result = .ok output →
      (ofDocument services state between).pieces =
        before ++ .executed met outcome spliced :: after →
      outcome.FailsSilently → scanned output = again ++ .block next :: rest →
      (again.flatMap Segment.source).flatten = before.flatMap Piece.output →
      Failing document block (outcomes ++ [outcome]) output next

/-- What such passes keep of the block. -/
structure Failing.Keeps (block : Block) (outcomes : List Outcome) (output : Text) (met : Block) :
    Prop where
  scan : .block met ∈ scanned output
  language : met.language = block.language
  config : met.config = block.config
  source : strip met.content = strip block.content
  filled : Text.isBlankText met.content = false
  noted : ∀ earlier outcome, outcomes = earlier ++ [outcome] →
    met.content = strip block.content ++ exceptionLines outcome.failureSummary

theorem Failing.keeps {block met : Block} {outcomes : List Outcome}
    (failing : Failing document block outcomes output met)
    (inline : block.language.resultKind = .inlineAnnotated)
    (shown : block.config.showResult = true)
    (filled : Text.isBlankText block.content = false) :
    Failing.Keeps block outcomes output met := by
  induction failing with
  | start cut => exact ⟨by simp [cut], rfl, rfl, rfl, filled, by simp⟩
  | @pass σ services state between output outcomes outcome met next spliced before after again rest
      _ done parts fails cut place ih =>
    obtain ⟨language, config, content⟩ := next_of_failed parts (ih.language ▸ inline)
      (ih.config ▸ shown) fails done cut place
    rw [ih.source] at content
    have whole : Text.IsWhole (strip block.content) := by
      rw [← ih.source]
      exact isWhole_strip (lines_content ih.scan).2
    refine ⟨by simp [cut], language.trans ih.language, config.trans ih.config, ?_, ?_, ?_⟩
    · rw [content, strip_append whole, strip_strip, strip_exceptionLines, List.append_nil]
    · rw [content]
      exact not_isBlankText_append _ outcome.failureSummary_ne_nil
    · intro earlier last shape
      obtain rfl : outcome = last := List.singleton_inj.mp (List.append_inj' shape rfl).2
      exact content

/-- Where a pass leaves what stands above such a block as it was, the next one comes to the block
again. -/
theorem Failing.exists_pass {block met : Block} {outcomes : List Outcome} {later : Text}
    {outcome : Outcome} {spliced : Spliced} {before after : List Piece}
    (failing : Failing document block outcomes output met)
    (done : (ofDocument services state output).result = .ok later)
    (parts : (ofDocument services state output).pieces =
      before ++ .executed met outcome spliced :: after)
    (inline : met.language.resultKind = .inlineAnnotated) (shown : met.config.showResult = true)
    (fails : outcome.FailsSilently)
    (unmoved : before.flatMap Piece.output = (before.flatMap Piece.source).flatten) :
    ∃ next, Failing document block (outcomes ++ [outcome]) later next := by
  obtain ⟨unbroken, -⟩ := Run.result_eq_ok_iff.mp done
  obtain ⟨was, -⟩ := executed_parts unbroken parts
  obtain ⟨following, lines, unclosed⟩ := lines_failed parts inline shown fails done
  have closes := scanned_closes output (show .block met ∈ scanned output by simp [was])
  have source : (before.map Piece.segment).flatMap Segment.source = before.flatMap Piece.source := by
    rw [List.flatMap_map, show (fun piece => (Piece.segment piece).source) = Piece.source from
      funext Piece.source_segment]
  have above : Text.lines (before.flatMap Piece.output) =
      (before.map Piece.segment).flatMap Segment.source := by
    rw [unmoved, ← source, Text.lines_flatten_ended (ended_above was).1]
  rw [above] at lines
  obtain ⟨again, next, rest, cut, place⟩ := scanned_again was lines unclosed closes
  exact ⟨next, .pass failing done parts fails cut (by rw [place, unmoved, source])⟩

/-- A block that holds its own results and fails is stable. However often it has failed without
printing anything, its body is its source and below it the last failure, which is told for what it
is: with `rerun` unset the next pass leaves the block alone. With `rerun` set every pass runs it,
and what the interpreter gets is the source that it got the first time. As long as a pass leaves
what stands above the block as it was, the next one comes to the block again. -/
theorem ofDocument_failing {block met : Block} {outcomes : List Outcome}
    (failing : Failing document block outcomes output met)
    (inline : block.language.resultKind = .inlineAnnotated) (runs : block.config.run = true)
    (shown : block.config.showResult = true)
    (filled : Text.isBlankText block.content = false) :
    met.config = block.config ∧ met.request.content = strip block.content ∧
      (block.config.rerun = true → met.decision.execute = true) ∧
      (∀ earlier outcome, outcomes = earlier ++ [outcome] →
        met.content = strip block.content ++ exceptionLines outcome.failureSummary ∧
          isAnnotated met.content = true ∧
          (block.config.rerun = false → met.decision.execute = false)) ∧
      ∀ {σ : Type} {services : Services σ} {state : σ} {later : Text} {outcome : Outcome}
        {spliced : Spliced} {before after : List Piece},
        (ofDocument services state output).result = .ok later →
        (ofDocument services state output).pieces =
          before ++ .executed met outcome spliced :: after →
        outcome.FailsSilently →
          spliced.annotatedBody = some
            (strip block.content ++ exceptionLines outcome.failureSummary) ∧
          (before.flatMap Piece.output = (before.flatMap Piece.source).flatten →
            ∃ next, Failing document block (outcomes ++ [outcome]) later next) := by
  obtain ⟨scan, language, config, source, black, noted⟩ := failing.keeps inline shown filled
  have inside : met.plan.inline = true := by
    rw [Block.plan, ArtifactPlan.forBlock_inline, language, inline]
    rfl
  have due := scanned_execute_iff scan
  have whole : Text.IsWhole (strip block.content) := by
    rw [← source]
    exact isWhole_strip (lines_content scan).2
  refine ⟨config, ?_, fun again => ?_, fun earlier outcome shape => ?_, ?_⟩
  · rw [Block.request, Block.source, if_pos inside, source]
  · refine due.mpr ⟨config ▸ runs, black, ?_⟩
    rw [config]
    split
    · exact again
    · exact .inl again
  · have content := noted earlier outcome shape
    have annotated : isAnnotated met.content = true := by
      rw [content]
      exact isAnnotated_append whole outcome.failureSummary_ne_nil
    refine ⟨content, annotated, fun once => Bool.eq_false_iff.mpr fun executes => ?_⟩
    obtain ⟨-, -, again⟩ := due.mp executes
    rw [if_pos ⟨inside, annotated⟩, config, once] at again
    contradiction
  · intro σ services state later outcome spliced before after done parts fails
    obtain ⟨unbroken, -⟩ := Run.result_eq_ok_iff.mp done
    obtain ⟨written, -⟩ :=
      annotated_of_failed parts (language ▸ inline) (config ▸ shown) fails unbroken
    rw [source] at written
    exact ⟨written, failing.exists_pass done parts (language ▸ inline) (config ▸ shown) fails⟩

/-- A note of an older failure gives way to one in two lines, in which a carriage return is left, and
that one to a third. -/
theorem ofDocument_failing_twice :
    let first : Outcome := { stdout := " \n", stderr := "oops\r\n\rdeep\n", exitCode := some 1 }
    let second : Outcome := { stdout := [], exitCode := none }
    let opened : OpenBlock := {
      language := .ruby
      config := {
        language := "ruby", run := true, rerun := true, explain := false, flamegraph := false
        showResult := true } }
    let block := { opened with body := ["# ~> old\n".toList, "raise\n".toList] }.close "```\n" []
    let met := { opened with body := ["raise\n".toList,
      "# ~> Execution failed (status: 1). Stderr: oops\n".toList, "# ~> \rdeep\n".toList] }.close
        "```\n" []
    let last := { opened with body := ["raise\n".toList,
      "# ~> Execution failed (status: terminated).\n".toList] }.close "```\n" []
    let document := "```ruby rerun\n# ~> old\nraise\n```\n".toList
    let between := "```ruby rerun\n".toList ++ met.content ++ "```\n".toList
    let output := "```ruby rerun\n".toList ++ last.content ++ "```\n".toList
    Failing document block [first] between met ∧
      met.request.content = "raise\n".toList ∧ met.decision.execute = true ∧
      Failing document block [first, second] output last ∧
      last.request.content = "raise\n".toList ∧ last.decision.execute = true := by
  intro first second opened block met last document between output
  let header : Line := "```ruby rerun\n"
  have start : Failing document block [] document block :=
    .start (show scanned document = [.copied header] ++ .block block :: [] by decide +kernel)
  have once : Failing document block [first] between met := by
    have parts : (ofDocument (Services.constant first {}) () document).pieces = [.copied header] ++
        .executed block first { annotatedBody := some met.content } :: [] := by
      decide +kernel
    have cut : scanned between = [.copied header] ++ .block met :: [] := by decide +kernel
    exact .pass start (result_of_constant (by decide +kernel)) parts ⟨by decide, by decide⟩ cut rfl
  have twice : Failing document block [first, second] output last := by
    have parts : (ofDocument (Services.constant second {}) () between).pieces =
        [.copied header] ++ .executed met second { annotatedBody := some last.content } :: [] := by
      decide +kernel
    have cut : scanned output = [.copied header] ++ .block last :: [] := by decide +kernel
    exact .pass once (result_of_constant (by decide +kernel)) parts ⟨by decide, by decide⟩ cut rfl
  obtain ⟨-, request, due, -⟩ := ofDocument_failing once rfl rfl rfl (by decide)
  obtain ⟨-, again, still, -⟩ := ofDocument_failing twice rfl rfl rfl (by decide)
  have source : strip block.content = "raise\n".toList := by decide +kernel
  rw [source] at request again
  exact ⟨once, request, due rfl, twice, again, still rfl⟩

end Pass
end Runbook
