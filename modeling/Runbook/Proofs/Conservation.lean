import Runbook.Proofs.Lookahead
import Runbook.Proofs.Pieces

/-! No line of a document is lost, doubled or moved. A document and what a pass makes of it are
cut into the same pieces: lines that stay as they are, and closed blocks, after which nothing
but blank lines and whole artifacts of the block's own kinds can go. -/
namespace Runbook

/-- Lines read after a block without the surplus: of the blank lines at the beginning, all but
the first. -/
def withoutSurplus (read : List Line) : List Line :=
  (read.takeWhile Line.isBlank).take 1 ++ read.dropWhile Line.isBlank

/-- What a block that has run writes between its closing fence and a cut artifact. The blank
line that was read is used again. -/
def renewed (read : List Line) (artifacts : List Text) : Text :=
  let separator := (read.takeWhile Line.isBlank).head?
  if artifacts = [] then separator.getD [] else separator.getD ['\n'] ++ artifacts.flatten

/-- How the lines of a piece and its text in the output belong together. -/
inductive Piece.Conserves : Piece → List Line → Text → Prop
  | copied {line : Line} : Conserves (.copied line) [line] line
  | kept {block : Block} :
      Conserves (.kept block) (block.body ++ block.close :: block.read)
        (block.body.flatten ++ block.close ++ (withoutSurplus block.read).flatten)
  /-- A newline is added to a closing fence that lacks it, and only before an artifact. -/
  | executed {block : Block} {outcome : Outcome} {spliced : Spliced} {stale cut : List Line}
      {body gap : Text} :
      block.read = stale ++ cut → Remains block.plan.kinds stale →
      (cut = [] ∨ block.decision.unread = [] ∧ ∃ kind ∈ block.plan.kinds, kind.IsCut cut) →
      (block.plan.inline = false → body = block.body.flatten) →
      gap = (if spliced.artifacts = [] ∨ Text.endsLine block.close = true then [] else ['\n']) →
      Conserves (.executed block outcome spliced) (block.body ++ block.close :: block.read)
        (body ++ block.close ++ gap ++ renewed block.read spliced.artifacts ++ cut.flatten)

theorem OpenBlock.close_division (block : OpenBlock) (line : Line) (following : List Line) :
    ∃ blanks kept cut, (block.close line following).read = blanks ++ kept ++ cut ∧
      Decision.Division (block.close line following).plan following (block.decision following)
        blanks kept cut := by
  obtain ⟨blanks, kept, cut, division⟩ := Decision.forBlock_division block.config
    (.forBlock block.config block.language.resultKind) block.body.flatten following
  have read := block.close_read_append line following
  have total : blanks ++ kept ++ cut ++ (block.decision following).unread = following :=
    division.total
  exact ⟨blanks, kept, cut, List.append_cancel_right (read.trans total.symm), division⟩

namespace Decision.Division

variable {plan : ArtifactPlan} {following blanks kept cut : List Line} {decision : Decision}

theorem takeWhile_read (division : Division plan following decision blanks kept cut) :
    (blanks ++ kept ++ cut).takeWhile Line.isBlank = blanks := by
  rw [List.append_assoc, List.takeWhile_append_of_pos division.white]
  cases shape : kept ++ cut with
  | nil => simp
  | cons line more => simp [division.lead line (by simp [shape])]

theorem dropWhile_read (division : Division plan following decision blanks kept cut) :
    (blanks ++ kept ++ cut).dropWhile Line.isBlank = kept ++ cut := by
  rw [List.append_assoc, List.dropWhile_append_of_pos division.white]
  cases shape : kept ++ cut with
  | nil => simp
  | cons line more => simp [division.lead line (by simp [shape])]

theorem passThrough_of_stays
    (division : Division plan following decision blanks kept cut)
    (stays : decision.execute = false) :
    decision.passThrough = withoutSurplus (blanks ++ kept ++ cut) := by
  rw [division.passThrough, if_neg (by simp [stays]), withoutSurplus, division.takeWhile_read,
    division.dropWhile_read, List.append_assoc]
  cases blanks <;> rfl

theorem passThrough_sublist (division : Division plan following decision blanks kept cut) :
    (decision.passThrough ++ decision.unread).Sublist following := by
  have through : decision.passThrough.Sublist (blanks ++ kept ++ cut) := by
    rw [division.passThrough]
    split
    · exact List.sublist_append_right _ _
    · refine .append (.append ?_ (.refl _)) (.refl _)
      cases blanks <;> simp
  rw [← division.total]
  exact through.append (.refl _)

end Decision.Division

theorem OpenBlock.separator_mem_read (block : OpenBlock) (line : Line) (following : List Line) :
    ∀ separator, (block.close line following).decision.separator = some separator →
      separator ∈ (block.close line following).read := by
  intro separator found
  obtain ⟨blanks, kept, cut, read, division⟩ := block.close_division line following
  have first := List.mem_of_head? (division.separator.symm.trans found)
  simp [read, first]

theorem OpenBlock.passThrough_sublist (block : OpenBlock) (line : Line) (following : List Line) :
    (block.close line following).decision.passThrough.Sublist
      (block.close line following).read := by
  obtain ⟨blanks, kept, cut, read, division⟩ := block.close_division line following
  have total : blanks ++ kept ++ cut ++ (block.decision following).unread = following :=
    division.total
  have whole : ((block.decision following).passThrough ++ (block.decision following).unread).Sublist
      (blanks ++ kept ++ cut ++ (block.decision following).unread) := by
    rw [total]
    exact division.passThrough_sublist
  rw [read]
  exact (List.append_sublist_append_right _).mp whole

/-- A block that is due and holds no results of its own leaves no blank line behind what it has
read. -/
theorem OpenBlock.decision_behind (block : OpenBlock) {following : List Line}
    (due : (block.decision following).execute = true)
    (separate : (ArtifactPlan.forBlock block.config block.language.resultKind).inline = false) :
    ∀ line, ((block.decision following).passThrough ++ (block.decision following).unread).head? =
      some line → line.isBlank = false := by
  obtain ⟨runs, filled⟩ := Decision.forBlock_due due
  have inspected : block.decision following = Decision.inspect block.config _ following :=
    Decision.forBlock_inspect runs filled separate following
  rw [inspected] at due ⊢
  exact Decision.inspect_behind due

theorem Piece.artifactsText_eq {block : Block} (artifacts : List Text)
    (separator : block.decision.separator = (block.read.takeWhile Line.isBlank).head?) :
    artifactsText block artifacts =
      (if artifacts = [] ∨ Text.endsLine block.close = true then [] else ['\n']) ++
        renewed block.read artifacts := by
  unfold artifactsText renewed
  rw [separator]
  by_cases empty : artifacts = []
  · simp [empty]
  · simp [empty, List.append_assoc]

theorem Piece.Origin.conserves {services : Services σ} {piece : Piece}
    (origin : piece.Origin services)
    (closed : ∀ block, piece.segment = .block block → ∃ (opened : OpenBlock) (line : Line)
      (following : List Line), block = opened.close line following ∧ Fence.isClose line = true) :
    piece.Conserves piece.source piece.output := by
  cases piece with
  | copied line => exact .copied
  | kept block =>
    obtain ⟨opened, line, following, rfl, -⟩ := closed block rfl
    obtain ⟨blanks, kept, cut, read, division⟩ := opened.close_division line following
    have stays := division.passThrough_of_stays origin
    rw [← read] at stays
    simp only [Piece.output, Piece.source]
    rw [show (opened.close line following).decision.passThrough = _ from stays]
    exact .kept
  | executed block outcome spliced =>
    obtain ⟨opened, line, following, rfl, -⟩ := closed block rfl
    obtain ⟨blanks, kept, cut, read, division⟩ := opened.close_division line following
    obtain ⟨due, before, after, called, rendered⟩ := origin
    have separator : (opened.close line following).decision.separator =
        ((opened.close line following).read.takeWhile Line.isBlank).head? := by
      rw [read, division.takeWhile_read]
      exact division.separator
    have behind : (opened.close line following).decision.passThrough = cut := by
      rw [show (opened.close line following).decision.passThrough = _ from division.passThrough]
      exact if_pos due
    simp only [Piece.output, Piece.source]
    rw [behind, Piece.artifactsText_eq _ separator, ← List.append_assoc]
    refine .executed read (.append (.ofBlanks division.white) division.remains) division.ended
      ?_ rfl
    intro separate
    rw [rendered, Splice.render_annotatedBody separate]
    rfl

namespace Pass

variable {services : Services σ} {state : σ} {document output : Text}

theorem separator_ended {block : Block} (member : .block block ∈ scanned document)
    (ended : ∀ line ∈ Text.lines document, line.isBlank = true → Text.endsLine line = true) :
    ∀ line, block.decision.separator = some line → Text.endsLine line = true := by
  intro line found
  obtain ⟨before, after, parts⟩ := List.append_of_mem member
  obtain ⟨opened, close, following, rfl, -⟩ := scanned_origin document member
  obtain ⟨blanks, kept, cut, -, division⟩ := opened.close_division close following
  have read := opened.separator_mem_read close following line found
  refine ended line ?_ (division.white line ?_)
  · rw [scanned_lines parts]
    simp [read]
  · exact List.mem_of_head? (division.separator.symm.trans found)

/-- If it carries its newline, it is a line of its own, and so is the closing fence before it. -/
theorem scanned_separator {block : Block} (member : .block block ∈ scanned document)
    (ended : ∀ line, block.decision.separator = some line → Text.endsLine line = true) :
    ∀ line, block.decision.separator = some line →
      line.isBlank = true ∧ line.IsEnded ∧ Text.endsLine block.close = true := by
  intro line found
  obtain ⟨before, after, parts⟩ := List.append_of_mem member
  have valid := (Text.areLines_lines document)
  rw [scanned_lines parts] at valid
  obtain ⟨opened, close, following, rfl, -⟩ := scanned_origin document member
  obtain ⟨blanks, kept, cut, -, division⟩ := opened.close_division close following
  have read := opened.separator_mem_read close following line found
  refine ⟨division.white line ?_, valid.isEnded (by simp [read]) (ended line found), ?_⟩
  · exact List.mem_of_head? (division.separator.symm.trans found)
  · exact (valid.of_append.of_append.ended_of_followed
      (List.append_ne_nil_of_left_ne_nil (List.ne_nil_of_mem read) _)).endsLine

theorem scanned_inspect {block : Block} (member : .block block ∈ scanned document)
    (due : block.decision.execute = true) (separate : block.plan.inline = false) :
    block.decision =
      Decision.inspect block.config block.plan (block.read ++ block.decision.unread) := by
  obtain ⟨opened, close, following, rfl, -⟩ := scanned_origin document member
  obtain ⟨runs, filled⟩ := Decision.forBlock_due due
  have behind : (opened.close close following).read ++
      (opened.close close following).decision.unread = following :=
    opened.close_read_append close following
  rw [behind]
  exact Decision.forBlock_inspect runs filled separate following

/-- Where the scan comes to lines of which the first closing fence is known, it closes a block with
those before it. -/
theorem scanned_at {segments more : List Segment} {block : Block} {body following : List Line}
    {fence : Line} (parts : scanned document = segments ++ .block block :: more)
    (place : document =
      (segments.flatMap Segment.source).flatten ++ (body ++ fence :: following).flatten)
    (valid : Text.AreLines (body ++ fence :: following))
    (unclosed : ∀ line ∈ body, Fence.isClose line = false) (closes : Fence.isClose fence = true) :
    block.body = body ∧ block.close = fence ∧ block.read ++ block.decision.unread = following := by
  have member : .block block ∈ scanned document := by simp [parts]
  have whole := Text.areLines_lines document
  have text := congrArg List.flatten (scanned_lines parts)
  rw [scanned_lines parts] at whole
  rw [Text.lines_flatten, List.flatten_append, place] at text
  apply ArtifactKind.first_close_inj (scanned_unclosed_body document member)
    (scanned_closes document member) unclosed closes
  rw [← whole.of_append.lines_flatten, ← List.append_cancel_left text, valid.lines_flatten]

/-- A pass that ends well cuts the document and its output into the same pieces. What was
scanned outside blocks stays, and each closed block keeps all that is not its to replace. -/
theorem ofDocument_conserves (done : (ofDocument services state document).result = .ok output) :
    let pieces := (ofDocument services state document).pieces
    pieces.map Piece.segment = scanned document ∧
      pieces.flatMap Piece.source = Text.lines document ∧
      pieces.flatMap Piece.output = output ∧
      ∀ piece ∈ pieces, piece.Conserves piece.source piece.output := by
  obtain ⟨unbroken, text⟩ := Run.result_eq_ok_iff.mp done
  rw [ofDocument_eq] at unbroken text ⊢
  have segments := run_segments unbroken
  refine ⟨segments, ?_, text, ?_⟩
  · have sources := congrArg (List.flatMap Segment.source) segments
    simp only [List.flatMap_map, Piece.source_segment, scanned_source] at sources
    exact sources
  · intro piece member
    obtain ⟨cut, origin⟩ := run_origin member
    apply origin.conserves
    intro block closed
    rw [closed] at cut
    exact scanned_origin document cut

/-- Between the blank lines and the prose, only the old result is replaced. -/
theorem ofDocument_conserves_rerun :
    let services := Services.constant { stdout := "new\n", exitCode := some 0 } {}
    let run := ofDocument services ()
      "# Log\n```bash rerun\ndate\n```\n\n\n```RESULT\nold\n```\n\nEnd.\n".toList
    run.result = .ok "# Log\n```bash rerun\ndate\n```\n\n```RESULT\nnew\n```\n\nEnd.\n".toList ∧
      ∀ piece ∈ run.pieces, piece.Conserves piece.source piece.output := by
  intro services run
  have done : run.result =
      .ok "# Log\n```bash rerun\ndate\n```\n\n```RESULT\nnew\n```\n\nEnd.\n".toList :=
    result_of_constant (by decide +kernel)
  exact ⟨done, (ofDocument_conserves done).2.2.2⟩

end Pass
end Runbook
