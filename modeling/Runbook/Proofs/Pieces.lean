import Runbook.Pass
import Runbook.Proofs.Lines

/-! The pieces that a run leaves, segment by segment. Segments hold every line of the document
once and in order, and a run that no failure stops makes one piece of each. -/
namespace Runbook

/-- The lines of a block that is still open. They are copied or run later. -/
def ScanState.pending : ScanState → List Line
  | .inBlock block => block.body
  | _ => []

/-- The lines of the document that a segment is made of. -/
def Segment.source : Segment → List Line
  | .copied line => [line]
  | .block closed => closed.body ++ closed.close :: closed.read

/-- A closed block has read exactly what it does not leave unread. -/
theorem OpenBlock.close_read_append (block : OpenBlock) (line : Line) (following : List Line) :
    (block.close line following).read ++ (block.decision following).unread = following := by
  obtain ⟨read, cut⟩ := Decision.forBlock_unread block.config
    (.forBlock block.config block.language.resultKind) block.body.flatten following
  have whole : read ++ (block.decision following).unread = following := cut
  have length : following.length - (block.decision following).unread.length = read.length := by
    rw [← congrArg List.length whole, List.length_append]
    omega
  have taken : following.take read.length = read := by
    rw [← congrArg (List.take read.length) whole, List.take_left]
  rw [OpenBlock.close, length, taken, whole]

theorem ScanState.pending_afterOutside (defaults : Defaults) (line : Line) :
    (ScanState.afterOutside defaults line).pending = [] := by
  unfold ScanState.afterOutside
  split
  · rfl
  · split
    · rename_i block found
      obtain ⟨header, -, opened⟩ := Option.bind_eq_some_iff.mp found
      simp only [OpenBlock.ofHeader?, Option.map_eq_some_iff] at opened
      obtain ⟨language, -, rfl⟩ := opened
      rfl
    · rfl

theorem segments_nil (defaults : Defaults) (state : ScanState) :
    segments defaults state [] = state.pending.map .copied := by
  cases state <;> simp [segments, ScanState.pending]

theorem segments_source (defaults : Defaults) (state : ScanState) (lines : List Line) :
    (segments defaults state lines).flatMap Segment.source = state.pending ++ lines := by
  fun_induction segments defaults state lines with
  | case1 block =>
    simp only [ScanState.pending, List.append_nil]
    induction block.body with
    | nil => rfl
    | cons line body ih => simpa [Segment.source] using ih
  | case2 state other => cases state <;> simp_all [ScanState.pending]
  | case3 line following ih =>
    rw [List.flatMap_cons, ih, ScanState.pending_afterOutside]
    rfl
  | case4 line following ih =>
    rw [List.flatMap_cons]
    split <;> simp_all [ScanState.pending, Segment.source]
  | case5 block line following closes ih =>
    rw [List.flatMap_cons, ih]
    simp only [Segment.source, ScanState.pending, List.nil_append, List.append_assoc,
      List.cons_append]
    rw [block.close_read_append line following]
    rfl
  | case6 block line following unclosed ih =>
    rw [ih]
    simp [ScanState.pending, OpenBlock.add]

/-- A block among the segments was open once, and a closing fence came. -/
theorem segments_origin (defaults : Defaults) (state : ScanState) (lines : List Line)
    {block : Block} (member : .block block ∈ segments defaults state lines) :
    ∃ (opened : OpenBlock) (line : Line) (following : List Line),
      block = opened.close line following ∧ Fence.isClose line = true := by
  fun_induction segments defaults state lines with
  | case1 block => simp at member
  | case2 state other => simp at member
  | case3 line following ih => exact ih (by simpa using member)
  | case4 line following ih => exact ih (by simpa using member)
  | case5 opened line following closes ih =>
    rcases List.mem_cons.mp member with same | member
    · exact ⟨opened, line, following, by simpa using same, closes⟩
    · exact ih member
  | case6 block line following unclosed ih => exact ih member

theorem segments_unclosed_body (defaults : Defaults) (state : ScanState) (lines : List Line)
    (unclosed : ∀ line ∈ state.pending, Fence.isClose line = false) {block : Block}
    (member : .block block ∈ segments defaults state lines) :
    ∀ line ∈ block.body, Fence.isClose line = false := by
  fun_induction segments defaults state lines with
  | case1 block => simp at member
  | case2 state other => simp at member
  | case3 line following ih =>
    exact ih (by simp [ScanState.pending_afterOutside]) (by simpa using member)
  | case4 line following ih =>
    refine ih ?_ (by simpa using member)
    split <;> simp [ScanState.pending]
  | case5 opened line following closes ih =>
    rcases List.mem_cons.mp member with same | member
    · obtain rfl := Segment.block.inj same
      exact unclosed
    · exact ih (by simp [ScanState.pending]) member
  | case6 opened line following stillOpen ih =>
    refine ih ?_ member
    exact List.forall_mem_append.mpr ⟨unclosed, by simpa using stillOpen⟩

theorem segments_behind (defaults : Defaults) (state : ScanState) (lines : List Line)
    {before after : List Segment} {closed : Block}
    (parts : segments defaults state lines = before ++ .block closed :: after) :
    after = segments defaults .outside closed.decision.unread := by
  fun_induction segments defaults state lines generalizing before with
  | case1 opened =>
    have member : .block closed ∈ opened.body.map Segment.copied := by simp [parts]
    simp at member
  | case2 state other => simp at parts
  | case3 line following ih =>
    cases before with
    | nil => simp at parts
    | cons segment before => exact ih (List.cons.inj parts).2
  | case4 line following ih =>
    cases before with
    | nil => simp at parts
    | cons segment before => exact ih (List.cons.inj parts).2
  | case5 opened line following closes ih =>
    cases before with
    | nil =>
      obtain ⟨same, rfl⟩ := List.cons.inj parts
      rw [← Segment.block.inj same]
      rfl
    | cons segment before => exact ih (List.cons.inj parts).2
  | case6 opened line following _ ih => exact ih parts

theorem Frontmatter.split_append (lines : List Line) :
    (split lines).lines ++ (split lines).rest = lines := by
  cases lines with
  | nil => rfl
  | cons first following =>
    have whole := List.takeWhile_append_dropWhile
      (p := fun line => !isDelimiter line) (l := following)
    unfold split
    dsimp only
    split
    · split
      · rename_i nothing
        rw [nothing, List.append_nil] at whole
        simp [whole]
      · rename_i close rest shape
        rw [shape] at whole
        simp [whole]
    · rfl

/-- Surroundings that answer every request alike. -/
def Services.constant (outcome : Outcome) (answers : Answers) : Services Unit where
  execute _ state := (.ok outcome, state)
  submit _ state := (answers.link, state)
  save _ state := (answers.picture, state)

/-- The segment that a piece was made of. -/
def Piece.segment : Piece → Segment
  | .copied line => .copied line
  | .kept block | .executed block _ _ => .block block

theorem Piece.source_segment (piece : Piece) : piece.segment.source = piece.source := by
  cases piece <;> rfl

/-- How the surroundings have made a piece out of its segment. -/
def Piece.Origin (services : Services σ) : Piece → Prop
  | .copied _ => True
  | .kept block => block.decision.execute = false
  | .executed block outcome spliced => block.decision.execute = true ∧
      ∃ before after, services.execute block.request before = (.ok outcome, after) ∧
        spliced = Splice.render block.config block.language outcome block.source
          (services.answer (Splice.visuals block.config block.language.resultKind outcome) after).1

/-- The piece that is made of a segment when nothing runs. -/
def Segment.standing : Segment → Piece
  | .copied line => .copied line
  | .block closed => .kept closed

theorem Run.result_eq_ok_iff {run : Run σ} {output : Text} :
    run.result = .ok output ↔ run.failure = none ∧ run.text = output := by
  unfold Run.result
  split
  · rename_i failure stopped
    simp [stopped]
  · rename_i done
    simp [done]

@[simp] theorem Run.text_prepend (pieces : List Piece) (requests : List Request)
    (submitted : List Text) (run : Run σ) :
    (run.prepend pieces requests submitted).text = pieces.flatMap Piece.output ++ run.text :=
  List.flatMap_append

@[simp] theorem Run.prepend_prepend (pieces others : List Piece) (requests asked : List Request)
    (submitted shown : List Text) (run : Run σ) :
    (run.prepend others asked shown).prepend pieces requests submitted =
      run.prepend (pieces ++ others) (requests ++ asked) (submitted ++ shown) := by
  simp [Run.prepend]

theorem Piece.output_copied (lines : List Line) :
    (lines.map Piece.copied).flatMap Piece.output = lines.flatten := by
  induction lines with
  | nil => rfl
  | cons line lines ih => rw [List.map_cons, List.flatMap_cons, ih, List.flatten_cons, Piece.output]

theorem Piece.eq_copied {pieces : List Piece} {lines : List Line}
    (made : pieces.map segment = lines.map .copied) : pieces = lines.map .copied := by
  induction lines generalizing pieces with
  | nil => exact List.map_eq_nil_iff.mp made
  | cons line lines ih =>
    obtain ⟨piece, more, rfl, first, others⟩ := List.map_eq_cons_iff.mp made
    rw [ih others]
    cases piece <;> simp_all [segment]

/-- What a block leaves that has written artifacts and keeps its body. -/
theorem Piece.output_executed {block : Block} {outcome : Outcome} {spliced : Spliced}
    (body : spliced.annotatedBody = none) (wrote : spliced.artifacts ≠ []) :
    (Piece.executed block outcome spliced).output =
      block.content ++ (Text.terminated block.close ++ (block.decision.separator.getD ['\n'] ++
        (spliced.artifacts.flatten ++ block.decision.passThrough.flatten))) := by
  rw [Piece.output, body, Piece.artifactsText, if_neg (by simpa using wrote), Text.terminated]
  split <;> simp

namespace Pass

variable {services : Services σ} {state : σ}

theorem run_kept {block : Block} {more : List Segment} (idle : block.decision.execute = false) :
    run services state (.block block :: more) =
      (run services state more).prepend [.kept block] [] [] := by
  rw [run, if_neg (by simp [idle])]

theorem run_failed {block : Block} {more : List Segment} {failure : Failure} {after : σ}
    (due : block.decision.execute = true)
    (called : services.execute block.request state = (.error failure, after)) :
    (run services state (.block block :: more)).failure = some failure := by
  rw [run, if_pos due, called]

theorem run_executed {block : Block} {more : List Segment} {outcome : Outcome} {after : σ}
    (due : block.decision.execute = true)
    (called : services.execute block.request state = (.ok outcome, after)) :
    let visuals := Splice.visuals block.config block.language.resultKind outcome
    let answered := services.answer visuals after
    run services state (.block block :: more) =
      (run services answered.2 more).prepend
        [.executed block outcome
          (Splice.render block.config block.language outcome block.source answered.1)]
        [block.request] visuals.submit.toList := by
  rw [run, if_pos due, called]

theorem run_origin {todo : List Segment} {piece : Piece}
    (member : piece ∈ (run services state todo).pieces) :
    piece.segment ∈ todo ∧ piece.Origin services := by
  fun_induction run services state todo with
  | case1 => simp at member
  | case2 state line more ih =>
    rcases List.mem_cons.mp member with rfl | member
    · exact ⟨List.mem_cons_self, trivial⟩
    · exact (ih member).imp_left (List.mem_cons_of_mem _)
  | case3 => simp at member
  | case4 state block more due outcome after called visuals answers later answered spliced ih =>
    rcases List.mem_cons.mp member with rfl | member
    · refine ⟨List.mem_cons_self, due, state, after, called, ?_⟩
      rw [answered]
    · exact (ih member).imp_left (List.mem_cons_of_mem _)
  | case5 state block more idle ih =>
    rcases List.mem_cons.mp member with rfl | member
    · exact ⟨List.mem_cons_self, Bool.eq_false_iff.mpr idle⟩
    · exact (ih member).imp_left (List.mem_cons_of_mem _)

theorem run_constant {outcome result : Outcome} {answers : Answers} {todo : List Segment}
    {block : Block} {spliced : Spliced}
    (member : .executed block result spliced ∈
      (run (Services.constant outcome answers) () todo).pieces) :
    result = outcome ∧ ∃ given : Answers,
      (∀ address, given.link = some address → answers.link = some address) ∧
      (∀ name, given.picture = some name → answers.picture = some name) ∧
      spliced = Splice.render block.config block.language outcome block.source given := by
  obtain ⟨-, -, before, after, called, rendered⟩ := run_origin member
  cases called
  refine ⟨rfl, _, ?_, ?_, rendered⟩
  · intro address given
    cases submit : (Splice.visuals block.config block.language.resultKind outcome).submit with
    | none => simp [Services.answer, Services.ask, submit] at given
    | some plan => simpa [Services.answer, Services.ask, Services.constant, submit] using given
  · intro name given
    cases draw : (Splice.visuals block.config block.language.resultKind outcome).draw with
    | none => simp [Services.answer, Services.ask, draw] at given
    | some picture => simpa [Services.answer, Services.ask, Services.constant, draw] using given

theorem run_requests {todo : List Segment} {request : Request}
    (member : request ∈ (run services state todo).requests) :
    ∃ block, .block block ∈ todo ∧ request = block.request := by
  induction todo generalizing state with
  | nil => simp [run] at member
  | cons segment more ih =>
    have later (found : ∃ block, .block block ∈ more ∧ request = block.request) :
        ∃ block, .block block ∈ segment :: more ∧ request = block.request := by
      obtain ⟨block, among, same⟩ := found
      exact ⟨block, List.mem_cons_of_mem _ among, same⟩
    cases segment with
    | copied line => exact later (ih member)
    | block closed =>
      cases due : closed.decision.execute with
      | true =>
        cases called : services.execute closed.request state with
        | mk answer after =>
          cases answer with
          | error failure =>
            rw [run, if_pos due, called] at member
            exact ⟨closed, by simp, List.mem_singleton.mp member⟩
          | ok outcome =>
            rw [run_executed due called] at member
            rcases List.mem_cons.mp member with same | member
            · exact ⟨closed, by simp, same⟩
            · exact later (ih member)
      | false =>
        rw [run_kept due] at member
        exact later (ih member)

/-- Only an execution that fails stops a run. -/
theorem run_completes
    (answers : ∀ request before, ∃ outcome after,
      services.execute request before = (.ok outcome, after))
    (todo : List Segment) : (run services state todo).failure = none := by
  induction todo generalizing state with
  | nil => rfl
  | cons segment more ih =>
    cases segment with
    | copied line => exact ih
    | block closed =>
      cases due : closed.decision.execute with
      | true =>
        obtain ⟨outcome, after, called⟩ := answers closed.request state
        rw [run_executed due called]
        exact ih
      | false =>
        rw [run_kept due]
        exact ih

theorem run_segments {todo : List Segment} (done : (run services state todo).failure = none) :
    (run services state todo).pieces.map Piece.segment = todo := by
  fun_induction run services state todo with
  | case1 => rfl
  | case2 state line more ih => exact congrArg (.copied line :: ·) (ih done)
  | case3 => simp at done
  | case4 state block more due outcome after called visuals answers later answered spliced ih =>
    exact congrArg (.block block :: ·) (ih done)
  | case5 state block more idle ih => exact congrArg (.block block :: ·) (ih done)

theorem run_idle {todo : List Segment}
    (idle : ∀ block, .block block ∈ todo → block.decision.execute = false) :
    run services state todo = { pieces := todo.map Segment.standing, state } := by
  fun_induction run services state todo with
  | case1 => rfl
  | case2 state line more ih =>
    rw [ih fun block member => idle block (by simp [member])]
    rfl
  | case3 state block more due =>
    rw [idle block (by simp)] at due
    contradiction
  | case4 state block more due =>
    rw [idle block (by simp)] at due
    contradiction
  | case5 state block more _ ih =>
    rw [ih fun other member => idle other (by simp [member])]
    rfl

def scanned (document : Text) : List Segment :=
  let front := Frontmatter.split (Text.lines document)
  front.lines.map .copied ++ segments front.defaults .outside front.rest

/-- The blocks that a document closes, in order. -/
def blocks (document : Text) : List Block :=
  (scanned document).filterMap fun segment => match segment with
    | .copied _ => none
    | .block closed => some closed

theorem mem_blocks {document : Text} {block : Block} :
    block ∈ blocks document ↔ .block block ∈ scanned document := by
  simp only [blocks, List.mem_filterMap]
  constructor
  · rintro ⟨segment, member, same⟩
    cases segment with
    | copied => contradiction
    | block closed => exact Option.some.inj same ▸ member
  · exact fun member => ⟨_, member, rfl⟩

theorem run_copied (lines : List Line) (todo : List Segment) :
    run services state (lines.map .copied ++ todo) =
      (run services state todo).prepend (lines.map .copied) [] [] := by
  induction lines with
  | nil => rfl
  | cons line lines ih =>
    rw [List.map_cons, List.cons_append, run, ih]
    rfl

theorem ofDocument_eq (services : Services σ) (state : σ) (document : Text) :
    ofDocument services state document = run services state (scanned document) :=
  (run_copied _ _).symm

theorem result_of_constant {outcome : Outcome} {answers : Answers} {document output : Text}
    (text : (ofDocument (Services.constant outcome answers) () document).text = output) :
    (ofDocument (Services.constant outcome answers) () document).result = .ok output := by
  refine Run.result_eq_ok_iff.mpr ⟨?_, text⟩
  rw [ofDocument_eq]
  exact run_completes (fun request before => ⟨_, _, rfl⟩) _

theorem mem_blocks_of_executed {document : Text} {block : Block} {outcome : Outcome}
    {spliced : Spliced}
    (member : .executed block outcome spliced ∈ (ofDocument services state document).pieces) :
    block ∈ blocks document := by
  rw [ofDocument_eq] at member
  exact mem_blocks.mpr (run_origin member).1

theorem source_copied (lines : List Line) :
    (lines.map Segment.copied).flatMap Segment.source = lines := by
  induction lines with
  | nil => rfl
  | cons line lines ih => simpa [Segment.source] using ih

theorem scanned_source (document : Text) :
    (scanned document).flatMap Segment.source = Text.lines document := by
  rw [scanned, List.flatMap_append, source_copied, segments_source]
  exact Frontmatter.split_append _

theorem scanned_origin (document : Text) {block : Block}
    (member : .block block ∈ scanned document) :
    ∃ (opened : OpenBlock) (line : Line) (following : List Line),
      block = opened.close line following ∧ Fence.isClose line = true := by
  rcases List.mem_append.mp member with front | member
  · simp at front
  · exact segments_origin _ _ _ member

theorem scanned_closes (document : Text) {block : Block}
    (member : .block block ∈ scanned document) : Fence.isClose block.close = true := by
  obtain ⟨opened, line, following, rfl, closes⟩ := scanned_origin document member
  exact closes

theorem scanned_unclosed_body (document : Text) {block : Block}
    (member : .block block ∈ scanned document) :
    ∀ line ∈ block.body, Fence.isClose line = false := by
  rcases List.mem_append.mp member with front | member
  · simp at front
  · exact segments_unclosed_body _ _ _ (by simp [ScanState.pending]) member

theorem scanned_behind (document : Text) {before after : List Segment} {closed : Block}
    (parts : scanned document = before ++ .block closed :: after) :
    after = segments (Frontmatter.split (Text.lines document)).defaults .outside
      closed.decision.unread := by
  rw [scanned] at parts
  rcases List.append_eq_append_iff.mp parts with ⟨middle, -, behind⟩ | ⟨middle, front, behind⟩
  · exact segments_behind _ _ _ behind
  · cases middle with
    | nil =>
      have start : [] ++ .block closed :: after = segments _ _ _ := behind
      exact segments_behind _ _ _ start.symm
    | cons segment middle =>
      obtain ⟨rfl, -⟩ := List.cons.inj behind
      have copied : .block closed ∈
          (Frontmatter.split (Text.lines document)).lines.map Segment.copied := by simp [front]
      simp at copied

/-- The lines before a closed block, those of the block, and all that follow it. -/
theorem scanned_lines {document : Text} {before after : List Segment} {closed : Block}
    (parts : scanned document = before ++ .block closed :: after) :
    Text.lines document = before.flatMap Segment.source ++
      (closed.body ++ closed.close :: (closed.read ++ closed.decision.unread)) := by
  rw [← scanned_source document, parts, List.flatMap_append, List.flatMap_cons,
    scanned_behind document parts, segments_source]
  simp [Segment.source, ScanState.pending]

theorem ended_above {document : Text} {before after : List Segment} {closed : Block}
    (parts : scanned document = before ++ .block closed :: after) :
    (∀ line ∈ before.flatMap Segment.source, Line.IsEnded line) ∧
      ∀ line ∈ closed.body, Line.IsEnded line := by
  have valid := Text.areLines_lines document
  rw [scanned_lines parts] at valid
  exact ⟨valid.ended_of_append (by simp),
    valid.of_append.ended_of_append (List.cons_ne_nil _ _)⟩

/-- Outside any block the output begins with the first line, whatever is made of the others. -/
theorem lines_head_of_segments {pieces : List Piece} {defaults : Defaults} {lines : List Line}
    (valid : Text.AreLines lines)
    (made : pieces.map Piece.segment = segments defaults .outside lines) :
    (Text.lines (pieces.flatMap Piece.output)).head? = lines.head? := by
  cases valid with
  | nil =>
    rw [segments_nil] at made
    obtain rfl : pieces = [] := List.map_eq_nil_iff.mp made
    rfl
  | @last line nonempty single =>
    rw [segments, segments_nil, ScanState.pending_afterOutside] at made
    obtain ⟨piece, pieces, rfl, copied, alone⟩ := List.map_eq_cons_iff.mp made
    obtain rfl : pieces = [] := List.map_eq_nil_iff.mp alone
    obtain rfl : piece = .copied line := by cases piece <;> simp_all [Piece.segment]
    simp [Piece.output, Text.lines_unended nonempty single]
  | @cons line more ended _ =>
    rw [segments] at made
    obtain ⟨piece, pieces, rfl, copied, -⟩ := List.map_eq_cons_iff.mp made
    obtain rfl : piece = .copied line := by cases piece <;> simp_all [Piece.segment]
    rw [List.flatMap_cons, Piece.output, Text.lines_ended_append ended]
    rfl

/-- The segments around a piece that was executed, and how every piece came to be. -/
theorem executed_parts {document : Text} {before after : List Piece} {block : Block}
    {outcome : Outcome} {spliced : Spliced}
    (done : (ofDocument services state document).failure = none)
    (parts : (ofDocument services state document).pieces =
      before ++ .executed block outcome spliced :: after) :
    scanned document = before.map Piece.segment ++ .block block :: after.map Piece.segment ∧
      ∀ piece ∈ before ++ .executed block outcome spliced :: after, piece.Origin services := by
  rw [ofDocument_eq] at done parts
  constructor
  · rw [← run_segments done, parts, List.map_append, List.map_cons]
    rfl
  · intro piece member
    rw [← parts] at member
    exact (run_origin member).2

end Pass
end Runbook
