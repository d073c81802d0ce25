import Runbook.Proofs.Conservation
import Runbook.Proofs.Recognition
import Runbook.Proofs.Scan

/-! What a pass makes of the lines of a document, line beside line. Outside the regions of closed
blocks the two agree, so a second scan comes to the same places in the same states. -/
namespace Runbook

/-- Other lines after the frontmatter leave it as it is, if they begin alike. -/
theorem Frontmatter.split_frame {lines later : List Line}
    (same : later.head? = (split lines).rest.head?) :
    split ((split lines).lines ++ later) = { split lines with rest := later } := by
  cases shape : (split lines).rest with
  | nil =>
    have whole := split_append lines
    rw [shape, List.head?_nil, List.head?_eq_none_iff] at same
    rw [shape] at whole
    rw [same, whole, ← shape]
  | cons next rest =>
    cases lines with
    | nil => simp [split] at shape
    | cons first following =>
      by_cases opens : isDelimiter first = true
      · cases behind : following.dropWhile fun line => !isDelimiter line with
        | nil => simp [split, opens, behind] at shape
        | cons close more =>
          have front : split (first :: following) =
              ⟨first :: (following.takeWhile fun line => !isDelimiter line) ++ [close],
                some (following.takeWhile fun line => !isDelimiter line).flatten, more⟩ := by
            simp [split, opens, behind]
          have whole := List.takeWhile_append_dropWhile
            (p := fun line => !isDelimiter line) (l := following)
          rw [behind, ← List.singleton_append, ← List.append_assoc] at whole
          have stops : ((following.takeWhile fun line => !isDelimiter line) ++ [close] ++
              more).dropWhile (fun line => !isDelimiter line) = [close] ++ more := by
            rw [whole, behind]
            rfl
          rw [front] at same ⊢
          obtain ⟨dropped, taken⟩ := span_frame stops same
          rw [whole] at taken
          simp only [split, opens, List.cons_append, dropped, taken, if_true, List.nil_append]
      · have front : split (first :: following) = ⟨[], none, first :: following⟩ := by
          simp [split, opens]
        rw [front] at same ⊢
        obtain ⟨more, rfl⟩ := List.head?_eq_some_iff.mp same
        simp [split, opens]

/-- A closing fence before fresh lines. It gets the newline that it may lack. -/
def Line.before (line : Line) (fresh : List Line) : Line :=
  if fresh = [] then line else Text.terminated line

theorem Line.areLines_before {line : Line} {rest fresh out : List Line}
    (valid : Text.AreLines (line :: rest)) (ended : ∀ line ∈ fresh, Line.IsEnded line)
    (other : Text.AreLines out) (nothing : rest = [] → out = []) :
    Text.AreLines (line.before fresh :: (fresh ++ out)) := by
  by_cases bare : fresh = []
  · subst bare
    exact (show Text.AreLines ([line] ++ rest) from valid).replace other nothing
  · rw [Line.before, if_neg bare]
    exact .cons (valid.terminated (by simp)) (.append ended other)

/-- Lines of a document beside those that a pass makes of them. What a block that has run leaves
after its closing fence is judged by `writes`. -/
inductive Rewrites (defaults : Defaults) (writes : Block → List Line → Prop) :
    ScanState → List Line → List Line → Prop
  | done {state : ScanState} : Rewrites defaults writes state [] []
  | outside {line : Line} {lines out : List Line} :
      Rewrites defaults writes (.afterOutside defaults line) lines out →
      Rewrites defaults writes .outside (line :: lines) (line :: out)
  | inResult {line : Line} {lines out : List Line} :
      Rewrites defaults writes (if Fence.isClose line then .outside else .inResult) lines out →
      Rewrites defaults writes .inResult (line :: lines) (line :: out)
  | body {block : OpenBlock} {line : Line} {lines out : List Line} : Fence.isClose line = false →
      Rewrites defaults writes (.inBlock (block.add line)) lines out →
      Rewrites defaults writes (.inBlock block) (line :: lines) (line :: out)
  | kept {block : OpenBlock} {line : Line} {following out : List Line} :
      Fence.isClose line = true → (block.decision following).execute = false →
      Rewrites defaults writes .outside (block.decision following).unread out →
      Rewrites defaults writes (.inBlock block) (line :: following)
        (line :: ((block.decision following).passThrough ++ out))
  | executed {block : OpenBlock} {line : Line} {following fresh out : List Line} :
      Fence.isClose line = true → (block.decision following).execute = true →
      writes (block.close line following) fresh →
      Rewrites defaults writes .outside (block.decision following).unread out →
      Rewrites defaults writes (.inBlock block) (line :: following)
        (line.before fresh :: (fresh ++ (block.decision following).passThrough ++ out))

/-- The lines that a block leaves after its closing fence when it has run and written these
artifacts. -/
inductive Block.Leaves (block : Block) : List Text → List Line → Prop
  | bare : (∀ line, block.decision.separator = some line → line.isBlank = true ∧ line.IsEnded) →
      Leaves block [] block.decision.separator.toList
  | artifacts {separator : Line} {written : List Written} :
      separator.isBlank = true → separator.IsEnded → written ≠ [] →
      (written.map Written.kind).Sublist block.plan.kinds →
      Leaves block (written.map Written.text) (separator :: Written.spread written)
  /-- A picture whose format does not show in its name is not found again. -/
  | unknown {separator : Line} {name : Text} :
      separator.isBlank = true → separator.IsEnded → '\n' ∉ name →
      (∀ kind ∈ block.plan.kinds, kind.opens (Written.diagramLine name) = false) →
      Leaves block [diagramImage name] [separator, Written.diagramLine name, ['\n']]

theorem Line.isClose_before (line : Line) (fresh : List Line) :
    Fence.isClose (line.before fresh) = Fence.isClose line := by
  unfold Line.before
  split
  · rfl
  · exact Fence.isClose_terminated line

theorem OpenBlock.decision_forall (block : OpenBlock) {p : Line → Prop} {following : List Line}
    (all : ∀ line ∈ following, p line) :
    (∀ line ∈ (block.decision following).passThrough, p line) ∧
      ∀ line ∈ (block.decision following).unread, p line := by
  obtain ⟨blanks, kept, cut, -, division⟩ := block.close_division [] following
  have within : ((block.decision following).passThrough ++
      (block.decision following).unread).Sublist following := division.passThrough_sublist
  exact ⟨fun line member => all line (within.subset (List.mem_append_left _ member)),
    fun line member => all line (within.subset (List.mem_append_right _ member))⟩

namespace Rewrites

variable {defaults : Defaults} {writes : Block → List Line → Prop} {state : ScanState}
  {lines out : List Line}

theorem nil (rewrites : Rewrites defaults writes state [] out) : out = [] := by
  cases rewrites with
  | done => rfl

theorem head? (rewrites : Rewrites defaults writes .outside lines out) :
    out.head? = lines.head? := by
  cases rewrites with
  | done => rfl
  | outside => rfl

theorem areLines (rewrites : Rewrites defaults writes state lines out)
    (valid : Text.AreLines lines)
    (ended : ∀ block fresh, writes block fresh → ∀ line ∈ fresh, Line.IsEnded line) :
    Text.AreLines out := by
  induction rewrites with
  | done => exact .nil
  | @outside line lines out rewrites ih =>
    have whole : Text.AreLines ([line] ++ lines) := valid
    exact whole.replace (ih valid.tail) fun ends => (ends ▸ rewrites).nil
  | @inResult line lines out rewrites ih =>
    have whole : Text.AreLines ([line] ++ lines) := valid
    exact whole.replace (ih valid.tail) fun ends => (ends ▸ rewrites).nil
  | @body block line lines out _ rewrites ih =>
    have whole : Text.AreLines ([line] ++ lines) := valid
    exact whole.replace (ih valid.tail) fun ends => (ends ▸ rewrites).nil
  | @kept block line following out _ _ rewrites ih =>
    obtain ⟨blanks, kept, cut, -, division⟩ := block.close_division line following
    have within := division.passThrough_sublist
    have behind := ih (valid.tail.of_suffix (Decision.forBlock_unread ..))
    have whole : Text.AreLines ((line :: (block.decision following).passThrough) ++
        (block.decision following).unread) := valid.sublist (within.cons_cons line)
    exact whole.replace behind fun ends => (ends ▸ rewrites).nil
  | @executed block line following fresh out _ _ leaves rewrites ih =>
    obtain ⟨blanks, kept, cut, -, division⟩ := block.close_division line following
    have within := division.passThrough_sublist
    have behind := ih (valid.tail.of_suffix (Decision.forBlock_unread ..))
    have whole : Text.AreLines (line :: ((block.decision following).passThrough ++
        (block.decision following).unread)) := valid.sublist (within.cons_cons line)
    rw [List.append_assoc]
    refine Line.areLines_before whole (ended _ _ leaves)
      (whole.tail.replace behind fun ends => (ends ▸ rewrites).nil) fun ends => ?_
    obtain ⟨through, unread⟩ := List.append_eq_nil_iff.mp ends
    rw [unread] at rewrites
    rw [through, rewrites.nil, List.append_nil]

/-- Every blank line keeps its newline, and no other blank line than those and the fresh ones comes
to be. -/
theorem blank_ended (rewrites : Rewrites defaults writes state lines out)
    (ended : ∀ line ∈ lines, line.isBlank = true → Text.endsLine line = true)
    (whole : ∀ block fresh, writes block fresh → ∀ line ∈ fresh, Line.IsEnded line) :
    ∀ line ∈ out, line.isBlank = true → Text.endsLine line = true := by
  induction rewrites with
  | done => simp
  | outside _ ih =>
    obtain ⟨first, others⟩ := List.forall_mem_cons.mp ended
    exact List.forall_mem_cons.mpr ⟨first, ih others⟩
  | inResult _ ih =>
    obtain ⟨first, others⟩ := List.forall_mem_cons.mp ended
    exact List.forall_mem_cons.mpr ⟨first, ih others⟩
  | body _ _ ih =>
    obtain ⟨first, others⟩ := List.forall_mem_cons.mp ended
    exact List.forall_mem_cons.mpr ⟨first, ih others⟩
  | @kept block line following out _ _ _ ih =>
    obtain ⟨first, others⟩ := List.forall_mem_cons.mp ended
    obtain ⟨through, unread⟩ := block.decision_forall others
    refine List.forall_mem_cons.mpr ⟨first, fun line member => ?_⟩
    exact (List.mem_append.mp member).elim (through line) (ih unread line)
  | @executed block line following fresh out closes _ wrote _ ih =>
    obtain ⟨-, others⟩ := List.forall_mem_cons.mp ended
    obtain ⟨through, unread⟩ := block.decision_forall others
    refine List.forall_mem_cons.mpr ⟨fun blank => ?_, fun line member => ?_⟩
    · rw [← line.isClose_before fresh] at closes
      rw [Line.not_isClose_of_blank blank] at closes
      contradiction
    · rcases List.mem_append.mp member with member | member
      · rcases List.mem_append.mp member with member | member
        · exact fun _ => (whole _ _ wrote line member).endsLine
        · exact through line member
      · exact ih unread line member

end Rewrites

namespace Written

theorem ended_diagramLine {name : Text} (single : '\n' ∉ name) :
    Line.IsEnded (diagramLine name) := by
  have label : '\n' ∉ "![Mermaid Diagram](".toList := by decide
  have line : '\n' ∉ "![Mermaid Diagram](".toList ++ name ++ [')'] := by
    simp only [List.mem_append, List.mem_singleton, not_or]
    exact ⟨⟨label, single⟩, by decide⟩
  unfold diagramLine
  exact ⟨_, line, (List.append_assoc _ [')'] ['\n']).symm⟩

theorem lead_diagramLine (name : Text) :
    ∃ text, (diagramLine name).stripTerminator = '!' :: text :=
  ⟨_, Line.stripTerminator_ended _ (by decide)⟩

theorem diagramLine_flatten (name : Text) :
    [diagramLine name, ['\n']].flatten = diagramImage name := by
  have tail : ")\n\n".toList = [')', '\n'] ++ ['\n'] := by decide
  unfold diagramLine diagramImage
  rw [tail]
  simp only [List.flatten_cons, List.flatten_nil, List.append_nil, List.append_assoc]

end Written

namespace Block

variable {block : Block} {fresh : List Line} {outcome : Outcome} {answers : Answers}

theorem not_opens_diagramLine {name : Text} (image : block.language.resultKind = .image)
    (hidden : ArtifactKind.image.opens (Written.diagramLine name) = false) :
    ∀ kind ∈ block.plan.kinds, kind.opens (Written.diagramLine name) = false := by
  intro kind owned
  obtain ⟨label, strip⟩ := Written.lead_diagramLine name
  have result : ArtifactKind.resultFence.opens (Written.diagramLine name) = false := by
    apply Bool.eq_false_iff.mpr
    intro opens
    obtain ⟨c, text, same, lead⟩ := ArtifactKind.opens_lead opens
    rw [strip] at same
    obtain ⟨rfl, -⟩ := List.cons.inj same
    exact absurd lead (by decide)
  have kinds : kind = .image ∨ kind = .resultFence := by
    unfold plan ArtifactPlan.forBlock ArtifactPlan.kinds at owned
    rw [image] at owned
    split at owned <;> simp at owned
    · exact .inl owned
    · exact owned
  rcases kinds with rfl | rfl
  · exact hidden
  · exact result

theorem close_artifactsText {artifacts : List Text} {lines : List Line} (nonempty : artifacts ≠ [])
    (same : artifacts.flatten = lines.flatten) :
    let fresh := block.decision.separator.getD ['\n'] :: lines
    block.close ++ Piece.artifactsText block artifacts =
      block.close.before fresh ++ fresh.flatten := by
  intro fresh
  rw [Line.before, if_neg (List.cons_ne_nil _ _), Piece.artifactsText,
    if_neg (by simpa using nonempty), same, Text.terminated]
  cases Text.endsLine block.close <;> simp [fresh]

theorem close_bare (ended : ∀ line, block.decision.separator = some line →
      Text.endsLine block.close = true) :
    block.close ++ Piece.artifactsText block [] =
      block.close.before block.decision.separator.toList ++
        block.decision.separator.toList.flatten := by
  cases found : block.decision.separator with
  | none => simp [Line.before, Piece.artifactsText, found]
  | some line => simp [Line.before, Piece.artifactsText, Text.terminated, found, ended line found]

/-- Artifacts, if there are any, stand behind the closing fence and a blank line. -/
theorem close_written {artifacts : List Text} {written : List Written}
    (texts : written.map Written.text = artifacts)
    (ended : ∀ line, block.decision.separator = some line →
      line.isBlank = true ∧ line.IsEnded ∧ Text.endsLine block.close = true) :
    ∃ blanks : List Line, (∀ line ∈ blanks, line.isBlank = true ∧ line.IsEnded) ∧
      let fresh := blanks ++ Written.spread written
      block.close ++ Piece.artifactsText block artifacts =
        block.close.before fresh ++ fresh.flatten := by
  cases written with
  | nil =>
    subst texts
    refine ⟨block.decision.separator.toList, fun line member => ?_, ?_⟩
    · obtain ⟨blank, whole, -⟩ := ended line (Option.mem_toList.mp member)
      exact ⟨blank, whole⟩
    · rw [Written.spread, List.flatMap_nil, List.append_nil]
      exact close_bare fun line found => (ended line found).2.2
  | cons first more =>
    refine ⟨[block.decision.separator.getD ['\n']], ?_, ?_⟩
    · intro line member
      rw [List.mem_singleton.mp member]
      cases found : block.decision.separator with
      | none => exact ⟨by decide, Line.isEnded_newline⟩
      | some line => exact ⟨(ended line found).1, (ended line found).2.1⟩
    · refine close_artifactsText (show artifacts ≠ [] from ?_)
        (show _ = (Written.spread (first :: more)).flatten from ?_)
      · rw [← texts]
        exact List.cons_ne_nil _ _
      · rw [Written.spread_flatten, texts]

/-- What a run leaves, newline and blank line before it, is told by its lines. -/
theorem leaves_of_render (source : Text)
    (fits : answers.Fits (Splice.visuals block.config block.language.resultKind outcome))
    (contained :
      (Splice.render block.config block.language outcome source answers).Contained)
    (ended : ∀ line, block.decision.separator = some line →
      line.isBlank = true ∧ line.IsEnded ∧ Text.endsLine block.close = true) :
    let artifacts := (Splice.render block.config block.language outcome source answers).artifacts
    ∃ fresh, block.Leaves artifacts fresh ∧
      block.close ++ Piece.artifactsText block artifacts =
        block.close.before fresh ++ fresh.flatten := by
  intro artifacts
  have separator : ∃ separator, block.decision.separator.getD ['\n'] = separator ∧
      separator.isBlank = true ∧ separator.IsEnded := by
    cases found : block.decision.separator with
    | none => exact ⟨_, rfl, by decide, Line.isEnded_newline⟩
    | some line => exact ⟨line, rfl, (ended line found).1, (ended line found).2.1⟩
  obtain ⟨separator, gap, blank, whole⟩ := separator
  have written (lines : List Line) (nonempty : artifacts ≠ [])
      (same : artifacts.flatten = lines.flatten) :
      block.close ++ Piece.artifactsText block artifacts =
        block.close.before (separator :: lines) ++ (separator :: lines).flatten := by
    rw [← gap]
    exact close_artifactsText nonempty same
  by_cases known : ∀ name, diagramImage name ∈ artifacts →
      ArtifactKind.image.opens (Written.diagramLine name) = true
  · obtain ⟨spread, texts, ordered⟩ := Splice.render_written source fits contained known
    have texts : spread.map Written.text = artifacts := texts
    by_cases bare : artifacts = []
    · rw [bare]
      refine ⟨_, .bare fun line found => ⟨(ended line found).1, (ended line found).2.1⟩, ?_⟩
      exact close_bare fun line found => (ended line found).2.2
    · have nonempty : spread ≠ [] := by
        rintro rfl
        exact bare texts.symm
      refine ⟨separator :: Written.spread spread, ?_, written _ bare ?_⟩
      · rw [← texts]
        exact .artifacts blank whole nonempty ordered
      · rw [Written.spread_flatten, texts]
  · obtain ⟨name, unlike⟩ := Classical.not_forall.mp known
    obtain ⟨member, hidden⟩ := Classical.not_imp.mp unlike
    obtain ⟨image, alone⟩ := Splice.artifacts_of_diagram member
    have alone : artifacts = [diagramImage name] := alone
    refine ⟨[separator, Written.diagramLine name, ['\n']], ?_, written _ (by simp [alone]) ?_⟩
    · rw [alone]
      exact .unknown blank whole (contained.diagram name member)
        (not_opens_diagramLine image (Bool.eq_false_iff.mpr hidden))
    · rw [alone, Written.diagramLine_flatten]
      simp

theorem Leaves.ended {artifacts : List Text} (leaves : block.Leaves artifacts fresh) :
    ∀ line ∈ fresh, Line.IsEnded line := by
  cases leaves with
  | bare separator =>
    intro line member
    exact (separator line (Option.mem_toList.mp member)).2
  | artifacts _ whole _ _ =>
    intro line member
    rcases List.mem_cons.mp member with rfl | member
    · exact whole
    · exact Written.ended_spread line member
  | unknown _ whole single _ =>
    intro line member
    simp only [List.mem_cons, List.not_mem_nil, or_false] at member
    rcases member with rfl | rfl | rfl
    · exact whole
    · exact Written.ended_diagramLine single
    · exact Line.isEnded_newline

end Block

namespace Pass

variable {services : Services σ} {state : σ} {defaults : Defaults}
  {writes : Block → List Line → Prop}

/-- A run that ends well writes the lines of its document anew, one place after the other. -/
theorem run_rewrites {scan : ScanState} {lines : List Line}
    (done : (run services state (segments defaults scan lines)).failure = none)
    (written : ∀ block outcome spliced, .executed block outcome spliced ∈
        (run services state (segments defaults scan lines)).pieces →
      spliced.annotatedBody = none ∧ ∃ fresh, writes block fresh ∧
        block.close ++ Piece.artifactsText block spliced.artifacts =
          block.close.before fresh ++ fresh.flatten) :
    ∃ out, Rewrites defaults writes scan lines out ∧
      (run services state (segments defaults scan lines)).text =
        (scan.pending ++ out).flatten := by
  fun_induction segments defaults scan lines generalizing state with
  | case1 block =>
    have copied : run services state (block.body.map .copied) =
        (run services state []).prepend (block.body.map .copied) [] [] := by
      simpa using run_copied block.body []
    refine ⟨[], .done, ?_⟩
    rw [copied, Run.text_prepend, Piece.output_copied]
    simp [run, Run.text, ScanState.pending]
  | case2 scan other =>
    refine ⟨[], .done, ?_⟩
    cases scan with
    | inBlock block => exact absurd rfl (other block)
    | outside => rfl
    | inResult => rfl
  | case3 line following ih =>
    obtain ⟨out, rewrites, text⟩ := ih done fun block outcome spliced member =>
      written block outcome spliced (List.mem_cons_of_mem _ member)
    rw [ScanState.pending_afterOutside] at text
    refine ⟨line :: out, .outside rewrites, ?_⟩
    rw [run, Run.text_prepend, text]
    simp [Piece.output, ScanState.pending]
  | case4 line following ih =>
    simp only [dite_eq_ite] at ih
    obtain ⟨out, rewrites, text⟩ := ih done fun block outcome spliced member =>
      written block outcome spliced (List.mem_cons_of_mem _ member)
    have idle : (if Fence.isClose line then ScanState.outside else .inResult).pending = [] := by
      split <;> rfl
    rw [idle] at text
    refine ⟨line :: out, .inResult rewrites, ?_⟩
    rw [run, Run.text_prepend, text]
    simp [Piece.output, ScanState.pending]
  | case5 block line following closes ih =>
    cases due : (block.decision following).execute with
    | true =>
      cases called : services.execute (block.close line following).request state with
      | mk answer after =>
        cases answer with
        | error failure =>
          rw [run_failed due called] at done
          contradiction
        | ok outcome =>
          rw [run_executed due called] at done written ⊢
          obtain ⟨out, rewrites, text⟩ := ih done fun block outcome spliced member =>
            written block outcome spliced (List.mem_cons_of_mem _ member)
          obtain ⟨separate, fresh, leaves, same⟩ := written _ _ _ List.mem_cons_self
          refine ⟨_, .executed closes due leaves rewrites, ?_⟩
          rw [Run.text_prepend, text, List.flatMap_singleton, Piece.output, separate,
            Option.getD_none, List.append_assoc _ _ (Piece.artifactsText _ _), same]
          simp [ScanState.pending, Block.content, OpenBlock.close]
    | false =>
      rw [run_kept due] at done written ⊢
      obtain ⟨out, rewrites, text⟩ := ih done fun block outcome spliced member =>
        written block outcome spliced (List.mem_cons_of_mem _ member)
      refine ⟨_, .kept closes due rewrites, ?_⟩
      rw [Run.text_prepend, text]
      simp [Piece.output, ScanState.pending, Block.content, OpenBlock.close]
  | case6 block line following unclosed ih =>
    obtain ⟨out, rewrites, text⟩ := ih done written
    refine ⟨line :: out, .body (Bool.eq_false_iff.mpr unclosed) rewrites, ?_⟩
    rw [text]
    simp [ScanState.pending, OpenBlock.add]

/-- A pass that ends well writes its document anew, and what it writes is scanned from the same
place. -/
theorem ofDocument_anew {document output : Text}
    (done : (ofDocument services state document).result = .ok output)
    (written : ∀ block outcome spliced,
      .executed block outcome spliced ∈ (ofDocument services state document).pieces →
        spliced.annotatedBody = none ∧ ∃ fresh, writes block fresh ∧
          block.close ++ Piece.artifactsText block spliced.artifacts =
            block.close.before fresh ++ fresh.flatten)
    (whole : ∀ block fresh, writes block fresh → ∀ line ∈ fresh, Line.IsEnded line) :
    let front := Frontmatter.split (Text.lines document)
    ∃ out, Rewrites front.defaults writes .outside front.rest out ∧
      Text.lines output = front.lines ++ out ∧
      scanned output = front.lines.map .copied ++ segments front.defaults .outside out := by
  intro front
  obtain ⟨unbroken, text⟩ := Run.result_eq_ok_iff.mp done
  obtain ⟨out, rewrites, anew⟩ := run_rewrites unbroken
    fun block outcome spliced member =>
      written block outcome spliced (List.mem_append_right _ member)
  have behind := rewrites.areLines (Text.areLines_lines document |>.of_suffix ⟨front.lines,
    Frontmatter.split_append _⟩) whole
  have valid : Text.AreLines (front.lines ++ out) := by
    have whole := Text.areLines_lines document
    rw [← Frontmatter.split_append (Text.lines document)] at whole
    exact whole.replace behind fun ends => (ends ▸ rewrites).nil
  have cut : Text.lines output = front.lines ++ out := by
    rw [← text, ofDocument, Run.text_prepend, Piece.output_copied, anew]
    rw [← List.flatten_append]
    exact valid.lines_flatten
  have again : Frontmatter.split (front.lines ++ out) = { front with rest := out } :=
    Frontmatter.split_frame rewrites.head?
  refine ⟨out, rewrites, cut, ?_⟩
  rw [scanned, cut, again]
  rfl

theorem ofDocument_rewrites {document output : Text} (wrote : Block → List Text → Prop)
    (done : (ofDocument services state document).result = .ok output)
    (ended : ∀ line ∈ Text.lines document, line.isBlank = true → Text.endsLine line = true)
    (executed : ∀ block outcome spliced,
      .executed block outcome spliced ∈ (ofDocument services state document).pieces →
        block.plan.inline = false ∧ spliced.Contained ∧ wrote block spliced.artifacts) :
    let front := Frontmatter.split (Text.lines document)
    ∃ out, Rewrites front.defaults
        (fun block fresh => ∃ artifacts, wrote block artifacts ∧ block.Leaves artifacts fresh)
        .outside front.rest out ∧
      Text.lines output = front.lines ++ out ∧
      scanned output = front.lines.map .copied ++ segments front.defaults .outside out := by
  refine ofDocument_anew done ?_ fun block fresh ⟨artifacts, _, leaves⟩ => leaves.ended
  intro block outcome spliced member
  have closed := mem_blocks.mp (mem_blocks_of_executed member)
  obtain ⟨separate, contained, owned⟩ := executed block outcome spliced member
  rw [ofDocument_eq] at member
  obtain ⟨-, -, -, after, -, rfl⟩ := run_origin member
  obtain ⟨fresh, leaves, same⟩ := Block.leaves_of_render block.source
    (services.answer_fits _ after) contained
    (scanned_separator closed (separator_ended closed ended))
  exact ⟨Splice.render_annotatedBody separate .., fresh, ⟨_, owned, leaves⟩, same⟩

end Pass
end Runbook
