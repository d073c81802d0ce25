import Runbook.Proofs.Rewriting

/-! A pass goes through its document from the front. Where it comes to a line outside any block,
nothing behind that line has had a part in what was run and written before it: the document can
be cut off there, and the pass over the rest goes on from where the first one has ended. -/
namespace Runbook

namespace ScanState

/-- Where one line leads, and the lines that are left to read then. -/
def next (defaults : Defaults) (line : Line) (following : List Line) :
    ScanState → ScanState × List Line
  | .outside => (.afterOutside defaults line, following)
  | .inResult => (if Fence.isClose line then .outside else .inResult, following)
  | .inBlock block =>
    if Fence.isClose line then (.outside, (block.decision following).unread)
    else (.inBlock (block.add line), following)

/-- What has become of one line. A line of a block that is still open is not settled yet. -/
def settled (line : Line) (following : List Line) : ScanState → List Segment
  | .outside | .inResult => [.copied line]
  | .inBlock block => if Fence.isClose line then [.block (block.close line following)] else []

/-- The scanner after a number of rounds, each of which begins with a line. -/
def after (defaults : Defaults) : Nat → ScanState × List Line → ScanState × List Line
  | 0, place => place
  | _ + 1, (state, []) => (state, [])
  | n + 1, (state, line :: following) => after defaults n (state.next defaults line following)

theorem next_unread (defaults : Defaults) (line : Line) (following : List Line)
    (state : ScanState) : (state.next defaults line following).2 <:+ following := by
  cases state with
  | outside => exact List.suffix_refl _
  | inResult => exact List.suffix_refl _
  | inBlock block =>
    unfold next
    dsimp only
    split
    · exact Decision.forBlock_unread ..
    · exact List.suffix_refl _

theorem after_unread (defaults : Defaults) (n : Nat) (state : ScanState) (lines : List Line) :
    (after defaults n (state, lines)).2 <:+ lines := by
  induction n generalizing state lines with
  | zero => exact List.suffix_refl _
  | succ n ih =>
    cases lines with
    | nil => exact List.suffix_refl _
    | cons line following =>
      have later := ih (state.next defaults line following).1 (state.next defaults line following).2
      exact (later.trans (next_unread ..)).trans (List.suffix_cons ..)

end ScanState

theorem segments_next (defaults : Defaults) (state : ScanState) (line : Line)
    (following : List Line) :
    segments defaults state (line :: following) =
      state.settled line following ++ segments defaults (state.next defaults line following).1
        (state.next defaults line following).2 := by
  cases state with
  | outside => simp [segments, ScanState.settled, ScanState.next]
  | inResult => simp [segments, ScanState.settled, ScanState.next]
  | inBlock block =>
    rw [segments, ScanState.settled, ScanState.next]
    split <;> rfl

/-- A block without the lines that it leaves to others. -/
def Block.own (block : Block) : Block :=
  { block with decision := { block.decision with unread := [] } }

def Segment.own : Segment → Segment
  | .copied line => .copied line
  | .block closed => .block closed.own

variable {defaults : Defaults} {state reached : ScanState} {line : Line}
  {read left rest later : List Line}

theorem OpenBlock.close_frame (block : OpenBlock) (line : Line)
    (stops : (block.decision (read ++ rest)).unread = rest) (same : later.head? = rest.head?) :
    (block.decision (read ++ later)).unread = later ∧
      (block.close line (read ++ later)).own = (block.close line (read ++ rest)).own := by
  have framed : block.decision (read ++ later) =
      { block.decision (read ++ rest) with unread := later } :=
    Decision.forBlock_frame stops same
  have unread : (block.decision (read ++ later)).unread = later := by rw [framed]
  refine ⟨unread, ?_⟩
  unfold close
  rw [unread, stops, framed]
  simp [Block.own]

namespace ScanState

/-- What a round settles hangs on nothing beyond the first line that it leaves to read. -/
theorem next_frame (stops : state.next defaults line (read ++ rest) = (reached, left ++ rest))
    (same : later.head? = rest.head?) :
    state.next defaults line (read ++ later) = (reached, left ++ later) ∧
      (state.settled line (read ++ later)).map Segment.own =
        (state.settled line (read ++ rest)).map Segment.own := by
  have whole (unread : read ++ rest = left ++ rest) : left = read :=
    (List.append_cancel_right unread).symm
  cases state with
  | outside =>
    obtain ⟨rfl, unread⟩ := Prod.mk.inj stops
    rw [whole unread]
    exact ⟨rfl, rfl⟩
  | inResult =>
    obtain ⟨rfl, unread⟩ := Prod.mk.inj stops
    rw [whole unread]
    exact ⟨rfl, rfl⟩
  | inBlock block =>
    simp only [next, settled] at stops ⊢
    split at stops
    · rename_i closes
      obtain ⟨rfl, unread⟩ := Prod.mk.inj stops
      obtain ⟨front, cut⟩ := unread ▸ Decision.forBlock_unread block.config
        (.forBlock block.config block.language.resultKind) block.body.flatten (read ++ rest)
      have taken : read = front ++ left :=
        (List.append_cancel_right ((List.append_assoc ..).trans cut)).symm
      have heads : (left ++ later).head? = (left ++ rest).head? := by
        simp only [List.head?_append, same]
      rw [taken, List.append_assoc] at unread
      obtain ⟨unread', own⟩ := block.close_frame line unread heads
      simp only [if_pos closes, taken, List.append_assoc, unread', List.map_cons, List.map_nil,
        Segment.own, own, and_self]
    · rename_i unclosed
      obtain ⟨rfl, unread⟩ := Prod.mk.inj stops
      rw [whole unread]
      simp [unclosed]

/-- Up to the place that a scan has reached, nothing beyond the first line there counts. -/
theorem after_frame {n : Nat} (stops : after defaults n (state, read ++ rest) = (reached, rest))
    (same : later.head? = rest.head?) :
    ∃ front front' : List Segment, front'.map Segment.own = front.map Segment.own ∧
      segments defaults state (read ++ rest) = front ++ segments defaults reached rest ∧
      segments defaults state (read ++ later) = front' ++ segments defaults reached later := by
  induction n generalizing state read with
  | zero =>
    obtain ⟨rfl, unread⟩ := Prod.mk.inj stops
    obtain rfl : read = [] := by simpa using unread
    exact ⟨[], [], rfl, rfl, rfl⟩
  | succ n ih =>
    cases read with
    | nil =>
      cases rest with
      | nil =>
        obtain rfl : later = [] := List.head?_eq_none_iff.mp same
        obtain ⟨rfl, -⟩ := Prod.mk.inj stops
        exact ⟨[], [], rfl, rfl, rfl⟩
      | cons line following =>
        -- A round passes a line, so the scan cannot be where it was.
        have shorter := (after_unread defaults n (state.next defaults line following).1
          (state.next defaults line following).2).trans (next_unread ..)
        have still : after defaults n (state.next defaults line following) =
          (reached, line :: following) := stops
        rw [still] at shorter
        have lengths := shorter.length_le
        simp only [List.length_cons] at lengths
        omega
    | cons line read =>
      have onward : after defaults n (state.next defaults line (read ++ rest)) = (reached, rest) :=
        stops
      cases place : state.next defaults line (read ++ rest) with
      | mk next unread =>
        rw [place] at onward
        obtain ⟨left, rfl⟩ := onward ▸ after_unread defaults n next unread
        obtain ⟨framed, settled⟩ := next_frame place same
        obtain ⟨front, front', own, first, second⟩ := ih onward
        refine ⟨state.settled line (read ++ rest) ++ front,
          state.settled line (read ++ later) ++ front', ?_, ?_, ?_⟩
        · rw [List.map_append, List.map_append, settled, own]
        · rw [List.cons_append, segments_next, place, first, List.append_assoc]
        · rw [List.cons_append, segments_next, framed, second, List.append_assoc]

end ScanState

namespace Run

/-- Two runs have asked for the same, ended alike and left the same text. -/
structure Alike (run other : Run σ) : Prop where
  text : run.text = other.text
  requests : run.requests = other.requests
  submitted : run.submitted = other.submitted
  failure : run.failure = other.failure
  state : run.state = other.state

namespace Alike

variable {run other third : Run σ}

theorem refl (run : Run σ) : run.Alike run := ⟨rfl, rfl, rfl, rfl, rfl⟩

theorem symm (alike : run.Alike other) : other.Alike run :=
  ⟨alike.text.symm, alike.requests.symm, alike.submitted.symm, alike.failure.symm,
    alike.state.symm⟩

theorem trans (first : run.Alike other) (second : other.Alike third) : run.Alike third :=
  ⟨first.text.trans second.text, first.requests.trans second.requests,
    first.submitted.trans second.submitted, first.failure.trans second.failure,
    first.state.trans second.state⟩

theorem prepend {pieces others : List Piece} {requests : List Request} {submitted : List Text}
    (same : pieces.flatMap Piece.output = others.flatMap Piece.output) (alike : run.Alike other) :
    (run.prepend pieces requests submitted).Alike (other.prepend others requests submitted) where
  text := by rw [text_prepend, text_prepend, same, alike.text]
  requests := congrArg (requests ++ ·) alike.requests
  submitted := congrArg (submitted ++ ·) alike.submitted
  failure := alike.failure
  state := alike.state

end Alike

end Run

namespace Pass

variable {services : Services σ} {start : σ}

theorem run_own (services : Services σ) (start : σ) (todo : List Segment) :
    (run services start (todo.map Segment.own)).Alike (run services start todo) := by
  induction todo generalizing start with
  | nil => exact .refl _
  | cons segment more ih =>
    cases segment with
    | copied line =>
      rw [List.map_cons, Segment.own, run, run]
      exact (ih start).prepend rfl
    | block block =>
      rw [List.map_cons, Segment.own]
      cases due : block.decision.execute with
      | false =>
        have due' : block.own.decision.execute = false := due
        rw [run_kept due, run_kept due']
        exact (ih start).prepend rfl
      | true =>
        have due' : block.own.decision.execute = true := due
        cases called : services.execute block.request start with
        | mk answer after =>
        have called' : services.execute block.own.request start = (answer, after) := called
        cases answer with
        | error failure =>
          rw [run, if_pos due', called', run, if_pos due, called]
          exact .refl _
        | ok outcome =>
          rw [run_executed due called, run_executed due' called']
          exact (ih _).prepend rfl

theorem run_alike {todo others : List Segment}
    (same : todo.map Segment.own = others.map Segment.own) (start : σ) :
    (run services start todo).Alike (run services start others) :=
  (run_own services start todo).symm.trans (same ▸ run_own services start others)

theorem run_append {first : List Segment} (done : (run services start first).failure = none)
    (second : List Segment) :
    run services start (first ++ second) =
      (run services (run services start first).state second).prepend
        (run services start first).pieces (run services start first).requests
        (run services start first).submitted := by
  induction first generalizing start with
  | nil => rfl
  | cons segment more ih =>
    cases segment with
    | copied line =>
      have behind : run services start (more ++ second) = _ := ih done
      rw [List.cons_append, run, behind, Run.prepend_prepend]
      rfl
    | block block =>
      rw [List.cons_append]
      cases due : block.decision.execute with
      | false =>
        rw [run_kept due] at done ⊢
        rw [run_kept due, ih done, Run.prepend_prepend]
        rfl
      | true =>
        cases called : services.execute block.request start with
        | mk answer after =>
        cases answer with
        | error failure =>
          rw [run_failed due called] at done
          contradiction
        | ok outcome =>
          rw [run_executed due called] at done ⊢
          rw [run_executed due called, ih done, Run.prepend_prepend]
          rfl

theorem run_append_of_failed {first : List Segment} {failure : Failure}
    (failed : (run services start first).failure = some failure) (second : List Segment) :
    run services start (first ++ second) = run services start first := by
  induction first generalizing start with
  | nil => cases failed
  | cons segment more ih =>
    cases segment with
    | copied line => rw [List.cons_append, run, run, ih failed]
    | block block =>
      rw [List.cons_append]
      cases due : block.decision.execute with
      | false =>
        rw [run_kept due] at failed ⊢
        rw [run_kept due, ih failed]
      | true =>
        cases called : services.execute block.request start with
        | mk answer after =>
        cases answer with
        | error failure => rw [run, if_pos due, called, run, if_pos due, called]
        | ok outcome =>
          rw [run_executed due called] at failed ⊢
          rw [run_executed due called, ih failed]

variable {before after : Text}

/-- The segments of a document that is cut off behind a line outside any block, beside those of
the whole document. -/
theorem scanned_cut (ended : line.IsEnded) {n : Nat}
    (reached : ScanState.after (Frontmatter.split (Text.lines (before ++ line ++ after))).defaults n
      (.outside, (Frontmatter.split (Text.lines (before ++ line ++ after))).rest) =
        (.outside, line :: Text.lines after))
    (neutral : line.IsNeutral
      (Frontmatter.split (Text.lines (before ++ line ++ after))).defaults) :
    let defaults := (Frontmatter.split (Text.lines (before ++ line ++ after))).defaults
    (Frontmatter.split (Text.lines (before ++ line))).defaults = defaults ∧
      ∃ front : List Segment, front.map Segment.own = (scanned (before ++ line)).map Segment.own ∧
        scanned (before ++ line ++ after) =
          front ++ segments defaults .outside (Text.lines after) := by
  have valid := Text.areLines_lines (before ++ line ++ after)
  have parts := Frontmatter.split_append (Text.lines (before ++ line ++ after))
  have unread := ScanState.after_unread
    (Frontmatter.split (Text.lines (before ++ line ++ after))).defaults n .outside
    (Frontmatter.split (Text.lines (before ++ line ++ after))).rest
  unfold scanned
  generalize opening : Frontmatter.split (Text.lines (before ++ line ++ after)) = front at *
  intro defaults
  rw [reached] at unread
  obtain ⟨read, behind⟩ := unread
  dsimp only at behind
  rw [← behind] at reached
  rw [← parts, ← behind, ← List.append_assoc] at valid
  -- The lines up to the border are those of the text before it.
  have starts := valid.ended_of_append (by simp)
  have text : (front.lines ++ read).flatten = before := by
    have whole : (front.lines ++ front.rest).flatten = before ++ line ++ after := by
      rw [parts, Text.lines_flatten]
    rw [← behind, ← List.append_assoc, List.flatten_append, List.flatten_cons, Text.lines_flatten,
      ← List.append_assoc] at whole
    exact List.append_cancel_right (List.append_cancel_right whole)
  have cut : Text.lines (before ++ line) = front.lines ++ (read ++ [line]) := by
    have single := Text.lines_flatten_append starts line
    have alone := Text.lines_ended_append ended []
    rw [List.append_nil] at alone
    rw [text, alone] at single
    rw [single, List.append_assoc]
    rfl
  have heads : (read ++ [line]).head? = (Frontmatter.split
      (Text.lines (before ++ line ++ after))).rest.head? := by
    rw [opening, ← behind]
    simp only [List.head?_append, List.head?_cons]
  have same : Frontmatter.split (Text.lines (before ++ line)) =
      { front with rest := read ++ [line] } := by
    rw [cut, ← opening]
    exact Frontmatter.split_frame heads
  have border : ScanState.afterOutside defaults line = .outside := neutral
  have alone : [line].head? = (line :: Text.lines after).head? := rfl
  obtain ⟨all, kept, own, first, second⟩ := ScanState.after_frame reached alone
  rw [same]
  refine ⟨rfl, front.lines.map .copied ++ all ++ [.copied line], ?_, ?_⟩
  · show _ = List.map Segment.own (_ ++ segments defaults .outside (read ++ [line]))
    rw [second, segments, border, segments_nil]
    simp [own, ScanState.pending]
  · show _ ++ segments defaults .outside front.rest = _
    rw [← behind, first, segments, border]
    simp [defaults]

/-- The pass is local. Where its scan comes to a line outside any block and stays there, it has
done what a pass over the document up to that line does; from then on it does what a run over the
lines behind does, with the same defaults and from the state that has been reached. -/
theorem ofDocument_local (services : Services σ) (start : σ) (ended : line.IsEnded) {n : Nat}
    (reached : ScanState.after (Frontmatter.split (Text.lines (before ++ line ++ after))).defaults n
      (.outside, (Frontmatter.split (Text.lines (before ++ line ++ after))).rest) =
        (.outside, line :: Text.lines after))
    (neutral : line.IsNeutral
      (Frontmatter.split (Text.lines (before ++ line ++ after))).defaults) :
    let defaults := (Frontmatter.split (Text.lines (before ++ line ++ after))).defaults
    let whole := ofDocument services start (before ++ line ++ after)
    let first := ofDocument services start (before ++ line)
    let second := run services first.state (segments defaults .outside (Text.lines after))
    (Frontmatter.split (Text.lines (before ++ line))).defaults = defaults ∧
      (first.failure = none →
        whole.requests = first.requests ++ second.requests ∧
        whole.submitted = first.submitted ++ second.submitted ∧
        whole.failure = second.failure ∧ whole.state = second.state) ∧
      (∀ failure, first.failure = some failure →
        whole.requests = first.requests ∧ whole.submitted = first.submitted ∧
        whole.failure = some failure ∧ whole.state = first.state) ∧
      ∀ text behind, first.result = .ok text → second.result = .ok behind →
        whole.result = .ok (text ++ behind) := by
  intro defaults whole first second
  obtain ⟨same, front, own, cut⟩ := scanned_cut ended reached neutral
  have alike : (run services start front).Alike first := by
    rw [show first = _ from ofDocument_eq ..]
    exact run_alike own start
  have onward : whole = run services start (front ++ segments defaults .outside
      (Text.lines after)) := by
    rw [show whole = _ from ofDocument_eq .., cut]
  have goesOn (done : first.failure = none) : whole =
      second.prepend (run services start front).pieces (run services start front).requests
        (run services start front).submitted := by
    rw [onward, run_append (alike.failure.trans done), alike.state]
  refine ⟨same, ?_, ?_, ?_⟩
  · intro done
    rw [goesOn done, ← alike.requests, ← alike.submitted]
    exact ⟨rfl, rfl, rfl, rfl⟩
  · intro failure failed
    have stopped := alike.failure.trans failed
    rw [onward, run_append_of_failed stopped]
    exact ⟨alike.requests, alike.submitted, stopped, alike.state⟩
  · intro text behind done finished
    obtain ⟨unbroken, written⟩ := Run.result_eq_ok_iff.mp done
    obtain ⟨whole, later⟩ := Run.result_eq_ok_iff.mp finished
    rw [goesOn unbroken]
    refine Run.result_eq_ok_iff.mpr ⟨whole, ?_⟩
    have shown : (run services start front).pieces.flatMap Piece.output = text :=
      alike.text.trans written
    rw [Run.text_prepend, shown, later]

/-- An old result is looked for up to the line of prose, and the result behind that is left to the
rest of the pass. -/
theorem ofDocument_local_prose :
    let services := Services.constant { stdout := "new\n", exitCode := some 0 } {}
    let before := "---\nmarkdown-run:\n  defaults:\n    rerun: true\n---\n".toList ++
      "```bash\ndate\n```\n\n```RESULT\nold\n```\n\n".toList
    let line : Line := "Then:\n"
    let after := "```RESULT\nother\n```\n```sh\nls\n```".toList
    let defaults := (Frontmatter.split (Text.lines (before ++ line ++ after))).defaults
    line.IsEnded ∧ line.IsNeutral defaults ∧
      ScanState.after defaults 3
        (.outside, (Frontmatter.split (Text.lines (before ++ line ++ after))).rest) =
          (.outside, line :: Text.lines after) ∧
      (ofDocument services () (before ++ line ++ after)).requests =
        (ofDocument services () (before ++ line)).requests ++
          (run services () (segments defaults .outside (Text.lines after))).requests ∧
      (ofDocument services () (before ++ line ++ after)).result = .ok
        ("---\nmarkdown-run:\n  defaults:\n    rerun: true\n---\n".toList ++
          "```bash\ndate\n```\n\n```RESULT\nnew\n```\n\nThen:\n".toList ++
          "```RESULT\nother\n```\n```sh\nls\n```\n\n```RESULT\nnew\n```\n\n".toList) := by
  intro services before line after defaults
  have ended : line.IsEnded := ⟨"Then:".toList, by decide, rfl⟩
  have neutral : line.IsNeutral defaults := by
    unfold Line.IsNeutral
    decide +kernel
  have reached : ScanState.after defaults 3
      (.outside, (Frontmatter.split (Text.lines (before ++ line ++ after))).rest) =
        (.outside, line :: Text.lines after) := by
    decide +kernel
  have answers (todo : List Segment) : (run services () todo).failure = none :=
    run_completes (fun request before => ⟨_, _, rfl⟩) todo
  obtain ⟨-, goesOn, -, finished⟩ := ofDocument_local services () ended reached neutral
  have done : (ofDocument services () (before ++ line)).failure = none := by
    rw [ofDocument_eq]
    exact answers _
  refine ⟨ended, neutral, reached, (goesOn done).1, ?_⟩
  have texts := finished _ _ (Run.result_eq_ok_iff.mpr ⟨done, rfl⟩)
    (Run.result_eq_ok_iff.mpr ⟨answers _, rfl⟩)
  rw [texts]
  exact congrArg Except.ok (by decide +kernel)

end Pass
end Runbook
