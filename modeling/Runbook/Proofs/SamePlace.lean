import Runbook.Proofs.Effects
import Runbook.Proofs.Spacing

/-! Where the next pass finds a block. A pass leaves the frontmatter and what opens a block as they
are; so where it leaves the lines above a block as well, the next scan comes to the block again, and
what a scan closes in a place was opened there by the same line as before. -/
namespace Runbook

theorem segments_inBlock {body : List Line} {fence : Line}
    (unclosed : ∀ line ∈ body, Fence.isClose line = false) (closes : Fence.isClose fence = true)
    (defaults : Defaults) (opened : OpenBlock) (following : List Line) :
    ∃ rest, segments defaults (.inBlock opened) (body ++ fence :: following) =
      .block (OpenBlock.close { opened with body := opened.body ++ body } fence following) ::
        rest := by
  induction body generalizing opened with
  | nil =>
    rw [List.nil_append, segments, if_pos closes, List.append_nil]
    exact ⟨_, rfl⟩
  | cons line body ih =>
    obtain ⟨first, others⟩ := List.forall_mem_cons.mp unclosed
    obtain ⟨rest, cut⟩ := ih others (opened.add line)
    rw [List.cons_append, segments, if_neg (by simp [first]), cut]
    simp [OpenBlock.add]

namespace Pass

variable {services : Services σ} {state : σ} {document output : Text}

theorem ofDocument_defaults (done : (ofDocument services state document).result = .ok output) :
    (Frontmatter.split (Text.lines output)).defaults =
      (Frontmatter.split (Text.lines document)).defaults := by
  obtain ⟨unbroken, text⟩ := Run.result_eq_ok_iff.mp done
  let front := Frontmatter.split (Text.lines document)
  have parts : front.lines ++ front.rest = Text.lines document := Frontmatter.split_append _
  have valid : Text.AreLines (front.lines ++ front.rest) := parts ▸ Text.areLines_lines document
  let later := (run services state (segments front.defaults .outside front.rest)).pieces
  have made : later.map Piece.segment = segments front.defaults .outside front.rest :=
    run_segments unbroken
  have heads := lines_head_of_segments valid.of_append made
  have written : front.lines.flatten ++ later.flatMap Piece.output = output := by
    rw [← text, ofDocument, Run.text_prepend, Piece.output_copied]
    rfl
  have cut : Text.lines output = front.lines ++ Text.lines (later.flatMap Piece.output) := by
    rw [← written]
    by_cases ends : front.rest = []
    · rw [ends, List.append_nil] at valid
      rw [ends] at made
      have nothing : later = [] := by simpa [segments, ScanState.pending] using made
      simp [nothing, valid.lines_flatten, Text.lines]
    · exact Text.lines_flatten_append (valid.ended_of_append ends) _
  rw [cut, Frontmatter.split_frame heads]
  rfl

theorem source_own {segments others : List Segment}
    (own : segments.map Segment.own = others.map Segment.own) :
    segments.flatMap Segment.source = others.flatMap Segment.source := by
  have source (segment : Segment) : segment.own.source = segment.source := by
    cases segment <;> rfl
  have unowned (all : List Segment) :
      (all.map Segment.own).flatMap Segment.source = all.flatMap Segment.source := by
    rw [List.flatMap_map, show (fun segment => (Segment.own segment).source) = Segment.source from
      funext source]
  rw [← unowned segments, own, unowned]

/-- Where the lines above a block are as they were, and others follow that hold a closing fence, the
scan comes to the block again. -/
theorem scanned_again {before after : List Segment} {block : Block} {body following : List Line}
    {fence : Line} (parts : scanned document = before ++ .block block :: after)
    (lines : Text.lines output = before.flatMap Segment.source ++ (body ++ fence :: following))
    (unclosed : ∀ line ∈ body, Fence.isClose line = false)
    (closes : Fence.isClose fence = true) :
    ∃ again next rest, scanned output = again ++ .block next :: rest ∧
      again.flatMap Segment.source = before.flatMap Segment.source := by
  obtain ⟨earlier, header, n, behind, opened, rfl, reached, past, opens, -, -⟩ :=
    scanned_opening parts
  have whole := Frontmatter.split_append (Text.lines document)
  have unread := ScanState.after_unread (Frontmatter.split (Text.lines document)).defaults n
    .outside (Frontmatter.split (Text.lines document)).rest
  generalize opening : Frontmatter.split (Text.lines document) = front at *
  rw [reached] at unread
  obtain ⟨read, cut⟩ := unread
  dsimp only at cut
  rw [← cut] at reached
  have above : earlier.flatMap Segment.source = front.lines ++ read := by
    rw [← whole, ← cut, ← List.append_assoc] at past
    exact List.append_cancel_right past
  let later := header :: (body ++ fence :: following)
  have anew : Text.lines output = front.lines ++ (read ++ later) := by
    rw [lines, List.flatMap_append, above]
    simp [Segment.source, later]
  have heads : (read ++ later).head? = front.rest.head? := by
    rw [← cut, List.head?_append, List.head?_append]
    rfl
  have same : Frontmatter.split (Text.lines output) = { front with rest := read ++ later } := by
    rw [anew, ← opening]
    exact Frontmatter.split_frame (opening ▸ heads)
  obtain ⟨first, second, own, was, is⟩ :=
    ScanState.after_frame reached (show later.head? = _ from rfl)
  have passed : second.flatMap Segment.source = read := by
    have source := segments_source front.defaults .outside (read ++ header :: behind)
    rw [was, List.flatMap_append, segments_source] at source
    rw [source_own own]
    exact List.append_cancel_right source
  obtain ⟨rest, block⟩ := segments_inBlock unclosed closes front.defaults opened following
  let next := OpenBlock.close { opened with body := opened.body ++ body } fence following
  refine ⟨front.lines.map .copied ++ second ++ [.copied header], next, rest, ?_, ?_⟩
  · rw [scanned, same]
    show _ ++ segments front.defaults .outside (read ++ later) = _
    rw [is, segments, opens, block]
    simp [next]
  · simp only [List.flatMap_append, source_copied, passed, above]

section Executed

variable {before after : List Piece} {block : Block} {outcome : Outcome} {spliced : Spliced}

theorem bare_of_read_nil (member : .block block ∈ scanned document) (read : block.read = []) :
    block.decision.separator = none ∧ block.decision.passThrough = [] := by
  obtain ⟨opened, close, following, rfl, -⟩ := scanned_origin document member
  constructor
  · apply Option.eq_none_iff_forall_ne_some.mpr
    intro line found
    have among := opened.separator_mem_read close following line found
    simp [read] at among
  · exact List.sublist_nil.mp (read ▸ opened.passThrough_sublist close following)

theorem lines_close (done : (ofDocument services state document).failure = none)
    (parts : (ofDocument services state document).pieces =
      before ++ .executed block outcome spliced :: after) :
    let behind := Piece.artifactsText block [] ++
      (block.decision.passThrough.flatten ++ after.flatMap Piece.output)
    Text.lines (block.close ++ behind) = block.close :: Text.lines behind := by
  intro behind
  obtain ⟨cut, -⟩ := executed_parts done parts
  have member : .block block ∈ scanned document := by simp [cut]
  have valid := Text.areLines_lines document
  rw [scanned_lines cut] at valid
  have rest := valid.of_append.of_append
  by_cases followed : block.read ++ block.decision.unread = []
  · obtain ⟨read, unread⟩ := List.append_eq_nil_iff.mp followed
    obtain ⟨separator, through⟩ := bare_of_read_nil member read
    have nothing : after = [] := by
      simpa [unread, segments_nil, ScanState.pending] using scanned_behind document cut
    have empty : behind = [] := by
      simp [behind, Piece.artifactsText, separator, through, nothing]
    rw [followed] at rest
    have alone := rest.lines_flatten
    rw [List.flatten_singleton] at alone
    rw [empty, List.append_nil, alone, Text.lines]
  · exact Text.lines_ended_append (rest.ended_of_followed followed) behind

/-- What a later scan closes at the place of a block was opened by the same line. -/
theorem header_of_place (done : (ofDocument services state document).result = .ok output)
    (parts : (ofDocument services state document).pieces =
      before ++ .executed block outcome spliced :: after)
    {again rest : List Segment} {next : Block} (cut : scanned output = again ++ .block next :: rest)
    (place : (again.flatMap Segment.source).flatten = before.flatMap Piece.output) :
    next.language = block.language ∧ next.config = block.config := by
  obtain ⟨unbroken, -⟩ := Run.result_eq_ok_iff.mp done
  obtain ⟨was, -⟩ := executed_parts unbroken parts
  obtain ⟨earlier, header, -, -, opened, shape, -, -, opens, language, config⟩ :=
    scanned_opening was
  obtain ⟨earlier', header', -, -, opened', rfl, -, -, opens', language', config'⟩ :=
    scanned_opening cut
  obtain ⟨pieces, last, rfl, -, single⟩ := List.map_eq_append_iff.mp shape
  obtain rfl : last = [header].map .copied := Piece.eq_copied single
  -- Both lines end the same text, so they are one line.
  have first : Text.lines ((pieces ++ [header].map Piece.copied).flatMap Piece.output) =
      Text.lines (pieces.flatMap Piece.output) ++ [header] := by
    have valid := Text.areLines_lines document
    rw [scanned_lines was, shape, List.flatMap_append, List.append_assoc] at valid
    have ended : header.IsEnded := valid.of_append.ended_of_followed (by simp)
    have above : Text.IsWhole (pieces.flatMap Piece.output) :=
      .flatMap fun piece among => isWhole_before unbroken parts piece (by simp [among])
    have line := Text.lines_ended_append ended []
    rw [List.flatMap_append, Piece.output_copied, List.flatten_singleton, above.lines_append]
    rw [List.append_nil] at line
    rw [line, Text.lines]
  have second :
      Text.lines (((earlier' ++ [Segment.copied header']).flatMap Segment.source).flatten) =
        earlier'.flatMap Segment.source ++ [header'] := by
    rw [Text.lines_flatten_ended (ended_above cut).1, List.flatMap_append]
    rfl
  rw [place, first] at second
  obtain rfl : header = header' := List.singleton_inj.mp (List.append_inj' second rfl).2
  rw [ofDocument_defaults done, opens] at opens'
  obtain rfl : opened = opened' := ScanState.inBlock.inj opens'
  exact ⟨language'.symm.trans language, config'.symm.trans config⟩

end Executed

end Pass
end Runbook
