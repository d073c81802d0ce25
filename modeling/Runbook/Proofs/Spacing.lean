import Runbook.Proofs.Conservation
import Runbook.Proofs.Written

/-! How new artifacts are set off from the text around them. Each is a paragraph: one blank line
follows it, and no blank line belongs to its body. The blank line before the first one is the
document's, if there is one, and a last line that lacks its newline is none. -/
namespace Runbook

namespace Text

variable {c d : Char} {text : Text}

theorem isWhole_terminated (text : Text) : IsWhole (Text.terminated text) := by
  have valid := areLines_lines text
  have cut := valid.lines_terminated
  rw [lines_flatten] at cut
  unfold IsWhole
  rw [cut]
  split
  · simpa using Line.isEnded_newline
  · intro line member
    obtain ⟨original, source, rfl⟩ := List.mem_map.mp member
    exact valid.terminated source

theorem isWhole_append_newline (text : Text) : IsWhole (text ++ ['\n']) := by
  have whole := isWhole_terminated text
  unfold terminated at whole
  split at whole
  · exact whole.append (.ofLine Line.isEnded_newline)
  · exact whole

/-- The text begins and ends with lines that are not blank, a single blank line at its end
aside. -/
def IsParagraph (text : Text) : Prop :=
  ∃ body, lines text = body ++ [['\n']] ∧ body ≠ [] ∧
    (∀ line, body.head? = some line → line.isBlank = false) ∧
    ∀ line, body.getLast? = some line → line.isBlank = false

/-- A sign that is not white space keeps a line from being blank: the first line if the text begins
with it. -/
theorem lines_begin (sign : isBlank c = false) (text : Text) :
    ∃ first more, lines (c :: text) = first :: more ∧ first.isBlank = false := by
  have differs : c ≠ '\n' := by
    rintro rfl
    exact absurd sign (by decide)
  have black (line : Line) : Line.isBlank (c :: line) = false := by
    simp [Line.isBlank, isBlankText, sign]
  rw [lines, if_neg differs]
  cases lines text with
  | nil => exact ⟨[c], [], rfl, black []⟩
  | cons line more => exact ⟨c :: line, more, rfl, black line⟩

theorem lines_end (sign : isBlank c = false) (text : Text) :
    ∃ before last, lines (text ++ [c, '\n']) = before ++ [last] ∧ last.isBlank = false := by
  have differs : c ≠ '\n' := by
    rintro rfl
    exact absurd sign (by decide)
  induction text with
  | nil =>
    exact ⟨[], [c, '\n'], by simp [lines, differs], by simp [Line.isBlank, isBlankText, sign]⟩
  | cons d text ih =>
    obtain ⟨before, last, cut, black⟩ := ih
    rw [List.cons_append, lines, cut]
    split
    · exact ⟨[d] :: before, last, rfl, black⟩
    · cases before with
      | nil =>
        refine ⟨[], d :: last, rfl, ?_⟩
        rw [Line.isBlank, isBlankText, List.all_cons, show last.all isBlank = false from black,
          Bool.and_false]
      | cons line before => exact ⟨(d :: line) :: before, last, rfl, black⟩

/-- A text is a paragraph if it begins with a sign and has one at the end of its last line but
one. What stands between them does not matter. -/
theorem IsParagraph.ofSigns (begins : text.head? = some c) (ends : [d, '\n', '\n'] <:+ text)
    (start : isBlank c = false) (finish : isBlank d = false) : IsParagraph text := by
  obtain ⟨body, rfl⟩ := ends
  rw [show [d, '\n', '\n'] = [d, '\n'] ++ ['\n'] from rfl, ← List.append_assoc] at begins ⊢
  have whole : IsWhole (body ++ [d, '\n']) := by
    have newline := isWhole_append_newline (body ++ [d])
    rwa [List.append_assoc] at newline
  obtain ⟨rest, lead⟩ : ∃ rest, body ++ [d, '\n'] = c :: rest := by
    apply List.head?_eq_some_iff.mp
    rw [List.head?_append] at begins
    cases body <;> simpa using begins
  obtain ⟨first, more, cut, black⟩ := lines_begin start rest
  obtain ⟨before, last, cut', black'⟩ := lines_end finish body
  refine ⟨lines (body ++ [d, '\n']), ?_, ?_, ?_, ?_⟩
  · rw [whole.lines_append]
    rfl
  · rw [lead, cut]
    exact List.cons_ne_nil _ _
  · rw [lead, cut]
    rintro _ ⟨⟩
    exact black
  · rw [cut', List.getLast?_concat]
    rintro _ ⟨⟩
    exact black'

theorem flatten_flatMap_lines (texts : List Text) :
    (texts.flatMap lines).flatten = texts.flatten := by
  induction texts with
  | nil => rfl
  | cons text texts ih =>
    rw [List.flatMap_cons, List.flatten_append, lines_flatten, ih, List.flatten_cons]

theorem IsParagraph.whole (paragraph : IsParagraph text) : IsWhole text := by
  obtain ⟨body, cut, -⟩ := paragraph
  have valid := areLines_lines text
  unfold IsWhole
  rw [cut] at valid ⊢
  exact List.forall_mem_append.mpr ⟨valid.ended_of_append (by simp),
    by simpa using Line.isEnded_newline⟩

end Text

namespace Splice

variable {config : BlockConfig} {language : Language} {outcome : Outcome} {answers : Answers}
  {source artifact : Text}

/-- Every artifact is a paragraph, whatever stands in it. -/
theorem render_paragraph
    (member : artifact ∈ (render config language outcome source answers).artifacts) :
    Text.IsParagraph artifact := by
  have bracket (text : Text) : [')', '\n', '\n'] <:+ text ++ ")\n\n".toList :=
    ⟨text, congrArg _ (by decide)⟩
  rcases render_forms _ _ _ member with rfl | ⟨address, -, rfl⟩ | ⟨name, -, rfl⟩ | ⟨name, -, rfl⟩
  · refine .ofSigns (c := '\x60') (d := '\x60') rfl ?_ (by decide) (by decide)
    have fence : ['\x60', '\n', '\n'] <:+ Fence.marker ++ "\n\n".toList := by decide
    rw [resultFence, List.append_assoc]
    exact fence.trans (List.suffix_append _ _)
  · exact .ofSigns (c := '*') (d := ')') rfl (bracket _) (by decide) (by decide)
  · exact .ofSigns (c := '!') (d := ')') rfl (bracket (_ ++ '(' :: _)) (by decide) (by decide)
  · exact .ofSigns (c := '!') (d := ')') rfl (bracket _) (by decide) (by decide)

theorem isWhole_exceptionLines (diagnostic : Text) :
    Text.IsWhole <| Annotation.exceptionLines diagnostic := by
  apply Text.IsWhole.flatten
  intro line member
  obtain ⟨row, -, rfl⟩ := List.mem_map.mp member
  exact Text.isWhole_append_newline _

theorem isWhole_annotatedBody (outcome : Outcome) (source : Text) :
    Text.IsWhole (annotatedBody outcome source) := by
  unfold annotatedBody
  refine .append ?_ ?_
  · generalize (if Text.isBlankText outcome.stdout then source else outcome.stdout) = body
    split
    · exact .nil
    · exact Text.isWhole_terminated _
  · split
    · exact .nil
    · exact isWhole_exceptionLines _

theorem isWhole_body {body : Text}
    (annotated : (render config language outcome source answers).annotatedBody = some body) :
    Text.IsWhole body := by
  unfold render at annotated
  split at annotated
  · contradiction
  · split at annotated
    · contradiction
    · obtain rfl := Option.some.inj annotated
      exact isWhole_annotatedBody outcome source
    · contradiction
    · contradiction

end Splice

theorem Piece.Origin.whole_output {services : Services σ} {piece : Piece}
    (origin : piece.Origin services)
    (closed : ∀ block, piece.segment = .block block → ∃ (opened : OpenBlock) (line : Line)
      (following : List Line), block = opened.close line following ∧ Fence.isClose line = true)
    (ended : ∀ line ∈ piece.source, Line.IsEnded line) : Text.IsWhole piece.output := by
  have lines (part : List Line) (within : part ⊆ piece.source) : Text.IsWhole part.flatten :=
    .flatten fun line member => .ofLine (ended line (within member))
  cases piece with
  | copied line => exact .ofLine (ended line (by simp [source]))
  | kept block =>
    obtain ⟨opened, line, following, rfl, -⟩ := closed block rfl
    have through := (opened.passThrough_sublist line following).subset
    refine .append (.append (lines _ ?_) (.ofLine (ended _ (by simp [source])))) (lines _ ?_)
    · exact fun line member => by simp [source, member]
    · exact fun line member => by simp [source, through member]
  | executed block outcome spliced =>
    obtain ⟨opened, line, following, rfl, -⟩ := closed block rfl
    have separator := opened.separator_mem_read line following
    have through := (opened.passThrough_sublist line following).subset
    obtain ⟨due, before, after, called, rendered⟩ := origin
    refine .append (.append (.append ?_ (.ofLine (ended _ (by simp [source])))) ?_) (lines _ ?_)
    · cases annotated : spliced.annotatedBody with
      | none => exact lines _ fun line member => by simp [source, member]
      | some body =>
        rw [rendered] at annotated
        exact Splice.isWhole_body annotated
    · have gap : ∀ line, (opened.close line following).decision.separator = some line →
          Text.IsWhole line := fun line found =>
        .ofLine (ended line (by simp [source, separator line found]))
      have artifacts : Text.IsWhole spliced.artifacts.flatten := by
        refine .flatten fun artifact member => ?_
        rw [rendered] at member
        exact (Splice.render_paragraph member).whole
      have newline : Text.IsWhole ['\n'] := .ofLine Line.isEnded_newline
      have blank (other : Text) (whole : Text.IsWhole other) :
          Text.IsWhole ((opened.close line following).decision.separator.getD other) := by
        cases found : (opened.close line following).decision.separator with
        | none => exact whole
        | some line => exact gap line found
      unfold artifactsText
      split
      · exact blank [] .nil
      · refine .append (.append ?_ (blank _ newline)) artifacts
        split
        · exact .nil
        · exact newline
    · exact fun line member => by simp [source, through member]

/-- The lines of a text hold the artifacts as paragraphs of their own. One blank line stands between
the closing fence and the first artifact, and none behind the one that ends the last. -/
structure SetOff (text above : Text) (close : Line) (artifacts : List Text) (below : Text) :
    Prop where
  lines : ∃ separator : Line, separator.isBlank = true ∧ Text.lines text =
    Text.lines above ++ Text.terminated close :: separator ::
      (artifacts.flatMap Text.lines ++ Text.lines below)
  paragraphs : ∀ artifact ∈ artifacts, Text.IsParagraph artifact
  behind : ∀ line, (Text.lines below).head? = some line → line.isBlank = false

namespace Pass

variable {services : Services σ} {state : σ} {document output : Text} {before after : List Piece}
  {block : Block} {outcome : Outcome} {spliced : Spliced}

/-- What stands behind the artifacts of a block begins with the next line that the block has not
used up. -/
theorem head_behind (done : (ofDocument services state document).failure = none)
    (parts : (ofDocument services state document).pieces =
      before ++ .executed block outcome spliced :: after) :
    (Text.lines (block.decision.passThrough.flatten ++ after.flatMap Piece.output)).head? =
      (block.decision.passThrough ++ block.decision.unread).head? := by
  obtain ⟨cut, -⟩ := executed_parts done parts
  have member : .block block ∈ scanned document := by simp [cut]
  obtain ⟨opened, close, following, same, -⟩ := scanned_origin document member
  have valid : Text.AreLines (block.decision.passThrough ++ block.decision.unread) := by
    have lines := Text.areLines_lines document
    rw [scanned_lines cut] at lines
    refine lines.of_append.of_append.tail.sublist (.append_right ?_ _)
    rw [same]
    exact opened.passThrough_sublist close following
  have behind := scanned_behind document cut
  cases through : block.decision.passThrough with
  | nil =>
    rw [through] at valid
    exact lines_head_of_segments valid behind
  | cons first others =>
    rw [through, List.cons_append] at valid
    rw [List.flatten_cons, List.append_assoc]
    cases rows : others ++ block.decision.unread with
    | nil =>
      obtain ⟨rfl, unread⟩ := List.append_eq_nil_iff.mp rows
      have nothing : after = [] := by simpa [unread, segments_nil, ScanState.pending] using behind
      rw [rows] at valid
      have alone := valid.lines_flatten
      rw [List.flatten_singleton] at alone
      simp [nothing, alone]
    | cons next more =>
      rw [rows] at valid
      rw [Text.lines_ended_append (valid.ended_of_followed (List.cons_ne_nil next more))]
      rfl

theorem lead_behind (done : (ofDocument services state document).failure = none)
    (parts : (ofDocument services state document).pieces =
      before ++ .executed block outcome spliced :: after)
    (separate : block.plan.inline = false) :
    ∀ line, (Text.lines (block.decision.passThrough.flatten ++
      after.flatMap Piece.output)).head? = some line → line.isBlank = false := by
  rw [head_behind done parts]
  obtain ⟨cut, origins⟩ := executed_parts done parts
  have member : .block block ∈ scanned document := by simp [cut]
  obtain ⟨opened, close, following, rfl, -⟩ := scanned_origin document member
  obtain ⟨due, -⟩ := origins _ (List.mem_append_right _ List.mem_cons_self)
  exact opened.decision_behind due separate

theorem isWhole_before (done : (ofDocument services state document).failure = none)
    (parts : (ofDocument services state document).pieces =
      before ++ .executed block outcome spliced :: after) :
    ∀ piece ∈ before, Text.IsWhole piece.output := by
  obtain ⟨cut, origins⟩ := executed_parts done parts
  intro piece among
  have segment : piece.segment ∈ before.map Piece.segment := List.mem_map_of_mem among
  refine (origins piece (List.mem_append_left _ among)).whole_output ?_ ?_
  · intro block closed
    apply scanned_origin document
    rw [cut, ← closed]
    exact List.mem_append_left _ segment
  · intro line within
    rw [← piece.source_segment] at within
    exact (ended_above cut).1 line (List.mem_flatMap.mpr ⟨_, segment, within⟩)

theorem lines_content (member : .block block ∈ scanned document) :
    Text.lines block.content = block.body ∧ Text.IsWhole block.content := by
  obtain ⟨before, after, cut⟩ := List.append_of_mem member
  have ended := (ended_above cut).2
  have lines := Text.lines_flatten_ended ended
  refine ⟨lines, fun line among => ended line ?_⟩
  rwa [← lines]

theorem isWhole_above (done : (ofDocument services state document).failure = none)
    (parts : (ofDocument services state document).pieces =
      before ++ .executed block outcome spliced :: after) :
    Text.IsWhole (before.flatMap Piece.output ++ block.content) := by
  obtain ⟨cut, -⟩ := executed_parts done parts
  have scan : .block block ∈ scanned document := by simp [cut]
  exact .append (.flatMap (isWhole_before done parts)) (lines_content scan).2

theorem separate_of_artifacts (origin : (Piece.executed block outcome spliced).Origin services)
    (wrote : spliced.artifacts ≠ []) : block.plan.inline = false := by
  obtain ⟨-, _, _, -, rendered⟩ := origin
  apply Bool.eq_false_iff.mpr
  intro inline
  rw [rendered] at wrote
  exact wrote (Splice.render_artifacts_inline inline ..)

theorem text_executed (done : (ofDocument services state document).result = .ok output)
    (parts : (ofDocument services state document).pieces =
      before ++ .executed block outcome spliced :: after)
    (wrote : spliced.artifacts ≠ []) :
    output = before.flatMap Piece.output ++ block.content ++ (Text.terminated block.close ++
      (block.decision.separator.getD ['\n'] ++ (spliced.artifacts.flatten ++
        (block.decision.passThrough.flatten ++ after.flatMap Piece.output)))) := by
  obtain ⟨unbroken, text⟩ := Run.result_eq_ok_iff.mp done
  obtain ⟨-, origins⟩ := executed_parts unbroken parts
  have origin := origins _ (List.mem_append_right _ List.mem_cons_self)
  have separate := separate_of_artifacts origin wrote
  obtain ⟨-, _, _, -, rendered⟩ := origin
  have body : spliced.annotatedBody = none := by
    rw [rendered]
    exact Splice.render_annotatedBody separate ..
  rw [← text, Run.text, parts, List.flatMap_append, List.flatMap_cons,
    Piece.output_executed body wrote]
  simp only [List.append_assoc]

/-- A block's artifacts are set off from what stands around them unless the blank line before them
is the last of the document and lacks its newline: then the first of them goes on that line. -/
theorem ofDocument_setOff_iff (done : (ofDocument services state document).result = .ok output)
    (parts : (ofDocument services state document).pieces =
      before ++ .executed block outcome spliced :: after)
    (wrote : spliced.artifacts ≠ []) :
    SetOff output (before.flatMap Piece.output ++ block.content) block.close spliced.artifacts
        (block.decision.passThrough.flatten ++ after.flatMap Piece.output) ↔
      ∀ line, block.decision.separator = some line → Text.endsLine line = true := by
  obtain ⟨unbroken, -⟩ := Run.result_eq_ok_iff.mp done
  have text := text_executed done parts wrote
  obtain ⟨cut, origins⟩ := executed_parts unbroken parts
  have origin := origins _ (List.mem_append_right _ List.mem_cons_self)
  have paragraphs : ∀ artifact ∈ spliced.artifacts, Text.IsParagraph artifact := by
    obtain ⟨-, _, _, -, rendered⟩ := origin
    intro artifact member
    rw [rendered] at member
    exact Splice.render_paragraph member
  constructor
  · rintro ⟨⟨separator, blank, lines⟩, -, -⟩ line found
    -- Both texts have the same parts, so the line that separates is the one that was read.
    have whole := congrArg List.flatten lines
    rw [Text.lines_flatten, text, found] at whole
    simp only [List.flatten_append, List.flatten_cons, Text.lines_flatten, List.append_assoc,
      Text.flatten_flatMap_lines, List.append_cancel_left_eq] at whole
    obtain rfl : line = separator := List.append_cancel_right whole
    have valid := Text.areLines_lines output
    rw [lines] at valid
    refine (valid.of_append.tail.ended_of_followed ?_).endsLine
    obtain ⟨artifact, more, shape⟩ := List.exists_cons_of_ne_nil wrote
    obtain ⟨body, rows, -⟩ := paragraphs artifact (by simp [shape])
    simp [shape, rows]
  · intro ended
    have valid := Text.areLines_lines document
    rw [scanned_lines cut] at valid
    have separator : Line.isBlank (block.decision.separator.getD ['\n']) = true ∧
        Line.IsEnded (block.decision.separator.getD ['\n']) := by
      cases found : block.decision.separator with
      | none => exact ⟨by decide, Line.isEnded_newline⟩
      | some line =>
        have member : .block block ∈ scanned document := by simp [cut]
        obtain ⟨blank, whole, -⟩ := scanned_separator member ended line found
        exact ⟨blank, whole⟩
    have whole : ∀ artifact ∈ spliced.artifacts, Text.IsWhole artifact :=
      fun artifact member => (paragraphs artifact member).whole
    refine ⟨⟨_, separator.1, ?_⟩, paragraphs,
      lead_behind unbroken parts (separate_of_artifacts origin wrote)⟩
    rw [text, (isWhole_above unbroken parts).lines_append,
      Text.lines_ended_append (valid.terminated (by simp)), Text.lines_ended_append separator.2,
      (Text.IsWhole.flatten whole).lines_append, Text.IsWhole.lines_flatten whole]

/-- A result and a link behind a closing fence that ends the document without a newline. -/
theorem ofDocument_setOff_unended_fence :
    let services := Services.constant { stdout := "[]\n", exitCode := some 0 } { link := some "/1" }
    let opened : OpenBlock := {
      language := .psql
      config := {
        language := "psql", run := true, rerun := false, explain := true, flamegraph := false
        showResult := true }
      body := ["SELECT 1;\n".toList] }
    let artifacts := ["```RESULT\n[]\n```\n\n".toList,
      "**Dalibo Visualization:** [View Query Plan](/1)\n\n".toList]
    let document := "```psql explain\nSELECT 1;\n```".toList
    let output := document ++ "\n\n".toList ++ artifacts.flatten
    (ofDocument services () document).pieces = [.copied "```psql explain\n".toList,
        .executed (opened.close "```".toList []) { stdout := "[]\n", exitCode := some 0 }
          { artifacts }] ∧
      (ofDocument services () document).result = .ok output ∧
      SetOff output "```psql explain\nSELECT 1;\n".toList "```".toList artifacts [] := by
  intro services opened artifacts document output
  have pieces : (ofDocument services () document).pieces = [.copied "```psql explain\n".toList] ++
      .executed (opened.close "```".toList []) { stdout := "[]\n", exitCode := some 0 }
        { artifacts } :: [] := by
    decide +kernel
  have done : (ofDocument services () document).result = .ok output :=
    result_of_constant (by decide +kernel)
  have ended : ∀ line, (opened.close "```".toList []).decision.separator = some line →
      Text.endsLine line = true := by
    decide +kernel
  exact ⟨pieces, done, (ofDocument_setOff_iff done pieces (by decide)).mpr ended⟩

/-- White space without a newline at the end of a document stands before the result on one line. -/
theorem ofDocument_not_setOff :
    let outcome : Outcome := { stdout := "1\n", exitCode := some 0 }
    let opened : OpenBlock := {
      language := .bash
      config := {
        language := "bash", run := true, rerun := false, explain := false, flamegraph := false
        showResult := true }
      body := ["echo 1\n".toList] }
    let artifacts := ["```RESULT\n1\n```\n\n".toList]
    let run := ofDocument (Services.constant outcome {}) () "```bash\necho 1\n```\n  ".toList
    run.failure = none ∧ run.pieces = [.copied "```bash\n".toList,
        .executed (opened.close "```\n".toList ["  ".toList]) outcome { artifacts }] ∧
      run.text = "```bash\necho 1\n```\n  ```RESULT\n1\n```\n\n".toList ∧
      ¬ SetOff run.text "```bash\necho 1\n".toList "```\n".toList artifacts [] := by
  intro outcome opened artifacts run
  refine ⟨by decide +kernel, by decide +kernel, by decide +kernel, ?_⟩
  rintro ⟨⟨separator, blank, lines⟩, -, -⟩
  have written : Text.lines run.text = Text.lines "```bash\necho 1\n".toList ++ "```\n".toList ::
      "  ```RESULT\n".toList :: ["1\n".toList, "```\n".toList, "\n".toList] := by
    decide +kernel
  rw [written] at lines
  obtain ⟨-, behind⟩ := List.cons.inj (List.append_cancel_left lines)
  obtain ⟨rfl, -⟩ := List.cons.inj behind
  exact absurd blank (by decide)

end Pass
end Runbook
