import Runbook.Proofs.SecondPass

/-! Which code blocks a document has. A pass leaves the list of them as it is, so what a block
prints is never run later on. Results are written as they are, without any escape; so this holds
as long as no printed line closes its result, and as long as a block that writes none has no other
result with code in it after its own. -/
namespace Runbook

/-- A closed code block as a reader sees it: the line that opens it, what that line stands for,
and the lines inside. -/
structure CodeBlock where
  opening : Line
  language : Language
  config : BlockConfig
  content : Text
  deriving DecidableEq, Repr

/-- The code blocks among segments. The line before a block is the one that opens it. -/
def codeBlocks (opening : Line) : List Segment → List CodeBlock
  | [] => []
  | .copied line :: more => codeBlocks line more
  | .block closed :: more =>
    ⟨opening, closed.language, closed.config, closed.content⟩ :: codeBlocks opening more

/-- However far lines could be read as artifacts of the kinds, none of them opens a block. -/
def Sealed (defaults : Defaults) (kinds : List ArtifactKind) (lines : List Line) : Prop :=
  ∀ read rest, lines = read ++ rest → Remains kinds read →
    ∀ line ∈ read, Line.IsNeutral defaults line

variable {defaults : Defaults} {kinds : List ArtifactKind} {state : ScanState}
  {lines out rest : List Line}

namespace Sealed

theorem behind {read : List Line} (hidden : Sealed defaults kinds (read ++ rest))
    (remains : Remains kinds read) : Sealed defaults kinds rest := by
  rintro more last rfl further line member
  exact hidden (read ++ more) last (List.append_assoc ..).symm (remains.append further) line
    (List.mem_append_right _ member)

theorem mono {others : List ArtifactKind} (hidden : Sealed defaults others lines)
    (within : ∀ kind ∈ kinds, kind ∈ others) : Sealed defaults kinds lines :=
  fun read rest shape remains => hidden read rest shape (remains.mono within)

theorem of_unfenced (unfenced : ∀ kind ∈ kinds, kind.isFenced = false) (lines : List Line) :
    Sealed defaults kinds lines :=
  fun _ _ _ remains => remains.neutral unfenced

end Sealed

section CodeBlocks

theorem codeBlocks_outside (a b : Line) (lines : List Line) :
    codeBlocks a (segments defaults .outside lines) =
      codeBlocks b (segments defaults .outside lines) := by
  cases lines with
  | nil => rw [segments, codeBlocks, codeBlocks]; simp
  | cons line lines => rw [segments, codeBlocks, codeBlocks]

theorem codeBlocks_neutral (neutral : ∀ line ∈ lines, Line.IsNeutral defaults line)
    (opening : Line) (rest : List Line) :
    codeBlocks opening (segments defaults .outside (lines ++ rest)) =
      codeBlocks opening (segments defaults .outside rest) := by
  induction lines generalizing opening with
  | nil => rfl
  | cons line lines ih =>
    rw [List.cons_append, segments, show ScanState.afterOutside defaults line = _ from
      neutral line (by simp), codeBlocks, ih fun other member => neutral other (by simp [member])]
    exact codeBlocks_outside ..

theorem codeBlocks_unclosed (unclosed : ∀ line ∈ lines, Fence.isClose line = false)
    (state : ScanState) (opening : Line) :
    codeBlocks opening (segments defaults state lines) = [] := by
  have blockless : ∀ block, .block block ∉ segments defaults state lines :=
    segments_unclosed unclosed state
  generalize segments defaults state lines = all at blockless
  induction all generalizing opening with
  | nil => rfl
  | cons segment all ih =>
    cases segment with
    | copied line =>
      exact ih line fun block member => blockless block (List.mem_cons_of_mem _ member)
    | block closed => exact absurd List.mem_cons_self (blockless closed)

theorem codeBlocks_copied {a b : List Segment}
    (same : ∀ opening, codeBlocks opening a = codeBlocks opening b) (front : List Line)
    (opening : Line) :
    codeBlocks opening (front.map .copied ++ a) = codeBlocks opening (front.map .copied ++ b) := by
  induction front generalizing opening with
  | nil => exact same opening
  | cons line front ih => exact ih line

theorem exists_block_of_codeBlocks {a b : List Segment} {x y : Line}
    (same : codeBlocks x a = codeBlocks y b) {block : Block} (member : .block block ∈ a) :
    ∃ other, .block other ∈ b ∧ other.language = block.language ∧ other.config = block.config ∧
      other.content = block.content := by
  have found : ∃ code ∈ codeBlocks x a, code.language = block.language ∧
      code.config = block.config ∧ code.content = block.content := by
    clear same
    induction a generalizing x with
    | nil => simp at member
    | cons segment a ih =>
      cases segment with
      | copied line => exact ih (by simpa using member)
      | block closed =>
        rcases List.mem_cons.mp member with first | member
        · cases first
          exact ⟨_, List.mem_cons_self, rfl, rfl, rfl⟩
        · obtain ⟨code, among, agrees⟩ := ih member
          exact ⟨code, List.mem_cons_of_mem _ among, agrees⟩
  obtain ⟨code, among, language, config, content⟩ := found
  rw [same] at among
  rw [← language, ← config, ← content]
  clear same member language config content
  induction b generalizing y with
  | nil => simp [codeBlocks] at among
  | cons segment b ih =>
    cases segment with
    | copied line =>
      obtain ⟨other, member, agrees⟩ := ih among
      exact ⟨other, List.mem_cons_of_mem _ member, agrees⟩
    | block closed =>
      rcases List.mem_cons.mp among with rfl | among
      · exact ⟨closed, List.mem_cons_self, rfl, rfl, rfl⟩
      · obtain ⟨other, member, agrees⟩ := ih among
        exact ⟨other, List.mem_cons_of_mem _ member, agrees⟩

end CodeBlocks

namespace Rewrites

variable {writes : Block → List Line → Prop}

theorem unclosed (rewrites : Rewrites defaults writes state lines out)
    (unclosed : ∀ line ∈ lines, Fence.isClose line = false) : out = lines := by
  induction rewrites with
  | done => rfl
  | outside _ ih => rw [ih fun line member => unclosed line (by simp [member])]
  | inResult _ ih => rw [ih fun line member => unclosed line (by simp [member])]
  | body _ _ ih => rw [ih fun line member => unclosed line (by simp [member])]
  | kept closes =>
    rw [unclosed _ (by simp)] at closes
    contradiction
  | executed closes =>
    rw [unclosed _ (by simp)] at closes
    contradiction

theorem neutral_head {line : Line} (neutral : line.IsNeutral defaults)
    (rewrites : Rewrites defaults writes .outside lines (line :: out)) :
    ∃ lines', lines = line :: lines' ∧ Rewrites defaults writes .outside lines' out := by
  cases rewrites with
  | @outside _ lines' _ rewrites =>
    rw [show ScanState.afterOutside defaults line = _ from neutral] at rewrites
    exact ⟨lines', rfl, rewrites⟩

theorem neutral_prefix {read : List Line} (neutral : ∀ line ∈ read, Line.IsNeutral defaults line)
    (rewrites : Rewrites defaults writes .outside lines (read ++ rest)) :
    ∃ lines', lines = read ++ lines' ∧ Rewrites defaults writes .outside lines' rest := by
  induction read generalizing lines with
  | nil => exact ⟨lines, rfl, rewrites⟩
  | cons line read ih =>
    obtain ⟨behind, rfl, others⟩ := rewrites.neutral_head (neutral line (by simp))
    obtain ⟨lines', rfl, last⟩ := ih (fun other member => neutral other (by simp [member])) others
    exact ⟨lines', rfl, last⟩

theorem exists_close {inside : List Line} {close : Line}
    (rewrites : Rewrites defaults writes state lines (inside ++ close :: rest))
    (closes : Fence.isClose close = true) :
    ∃ before first after, lines = before ++ first :: after ∧
      (∀ line ∈ before, Fence.isClose line = false) ∧ Fence.isClose first = true := by
  rcases ArtifactKind.exists_first_close lines with found | unclosed
  · exact found
  · have same := rewrites.unclosed unclosed
    have stillOpen := unclosed close (by simp [← same])
    rw [closes] at stillOpen
    contradiction

/-- Lines up to a closing fence lead nowhere if those of the document do, which may have their
closing fence at another place. -/
theorem unclosed_prefix {inside : List Line} {close : Line}
    (rewrites : Rewrites defaults writes .outside lines (inside ++ close :: rest))
    (unclosed : ∀ line ∈ inside, Fence.isClose line = false) (closes : Fence.isClose close = true)
    (hidden : ∀ before first after, lines = before ++ first :: after →
      (∀ line ∈ before, Fence.isClose line = false) → Fence.isClose first = true →
      ∀ line ∈ before, Line.IsNeutral defaults line) :
    ∀ line ∈ inside, Line.IsNeutral defaults line := by
  -- A neutral first line stands in both texts, and `hidden` holds of what is left without it.
  induction inside generalizing lines with
  | nil => simp
  | cons line inside ih =>
    have neutral : line.IsNeutral defaults := by
      obtain ⟨before, first, after, shape, stillOpen, ends⟩ := rewrites.exists_close closes
      have heads := rewrites.head?
      have here := hidden before first after shape stillOpen ends
      cases before with
      | nil =>
        rw [shape, List.nil_append, List.head?_cons, List.cons_append, List.head?_cons] at heads
        rw [← Option.some.inj heads, unclosed line (by simp)] at ends
        contradiction
      | cons start before =>
        rw [shape, List.cons_append, List.head?_cons, List.cons_append, List.head?_cons] at heads
        exact here line (by simp [Option.some.inj heads])
    obtain ⟨lines', rfl, later⟩ := rewrites.neutral_head neutral
    refine List.forall_mem_cons.mpr ⟨neutral, ih later ?_ ?_⟩
    · exact fun other member => unclosed other (by simp [member])
    · intro before first after shape stillOpen ends other member
      have whole : line :: lines' = (line :: before) ++ first :: after := by simp [shape]
      have openHere : ∀ other ∈ line :: before, Fence.isClose other = false :=
        List.forall_mem_cons.mpr ⟨unclosed line (by simp), stillOpen⟩
      exact hidden _ first after whole openHere ends other (by simp [member])

theorem result_neutral {first close : Line} {inside : List Line}
    (owned : ArtifactKind.resultFence ∈ kinds) (opens : Fence.opensResult first = true)
    (unclosed : ∀ line ∈ inside, Fence.isClose line = false) (closes : Fence.isClose close = true)
    (rewrites : Rewrites defaults writes .outside lines ((first :: inside) ++ close :: rest))
    (hidden : Sealed defaults kinds lines) :
    ∀ line ∈ first :: inside ++ [close], Line.IsNeutral defaults line := by
  have startsOpen : Fence.isClose first = false := Line.not_isClose_of_opens
    (show ArtifactKind.resultFence.isFenced = true from rfl) opens
  have heads := rewrites.head?
  have prefixed : ∀ line ∈ first :: inside, Line.IsNeutral defaults line := by
    apply rewrites.unclosed_prefix (List.forall_mem_cons.mpr ⟨startsOpen, unclosed⟩) closes
    rintro before last after rfl stillOpen ends line member
    cases before with
    | nil => simp at member
    | cons start before =>
      obtain rfl : first = start := by simpa using heads
      have whole : ArtifactKind.resultFence.IsWhole (first :: before ++ [last]) :=
        .fenced rfl opens (fun other among => stillOpen other (by simp [among])) ends
      exact hidden _ after (by simp) (.ofArtifact owned whole) line (List.mem_append_left _ member)
  intro line member
  rcases List.mem_append.mp member with member | member
  · exact prefixed line member
  · rw [List.mem_singleton.mp member]
    exact Line.neutral_of_close closes

theorem remains_neutral {read : List Line} (separate : ArtifactKind.inlineResultFence ∉ kinds)
    (remains : Remains kinds read)
    (rewrites : Rewrites defaults writes .outside lines (read ++ rest))
    (hidden : Sealed defaults kinds lines) : ∀ line ∈ read, Line.IsNeutral defaults line := by
  induction remains generalizing lines with
  | nil => simp
  | @blank line more white _ ih =>
    have neutral : line.IsNeutral defaults := Line.neutral_of_blank white
    obtain ⟨lines', rfl, later⟩ := rewrites.neutral_head neutral
    have blank : Remains kinds [line] := .blank white .nil
    exact List.forall_mem_cons.mpr ⟨neutral, ih later (hidden.behind blank)⟩
  | @artifact kind whole more owned shape _ ih =>
    rw [List.append_assoc] at rewrites
    have here : ∀ line ∈ whole, Line.IsNeutral defaults line := by
      by_cases fenced : kind.isFenced = true
      · obtain rfl := ArtifactKind.eq_resultFence fenced fun inline => separate (inline ▸ owned)
        cases shape with
        | fenced _ opens unclosed closes =>
          rw [List.append_assoc] at rewrites
          exact rewrites.result_neutral owned opens unclosed closes hidden
        | linked linked => contradiction
      · have remains : Remains [kind] whole := .ofArtifact (by simp) shape
        exact remains.neutral (by simpa using fenced)
    obtain ⟨lines', rfl, later⟩ := rewrites.neutral_prefix here
    have others := ih later (hidden.behind (.ofArtifact owned shape))
    intro line member
    exact (List.mem_append.mp member).elim (here line) (others line)

/-- What a second pass reads beyond the artifacts of a block holds no code block. -/
theorem codeBlocks_absorbed {rim read cut cut' unread : List Line}
    (separate : ArtifactKind.inlineResultFence ∉ kinds)
    (bare : ∀ line ∈ rim, line.isBlank = true) (remains : Remains kinds read)
    (ends : cut' = [] ∨ unread = [] ∧ ∃ kind ∈ kinds, kind.IsCut cut')
    (split : rim ++ (cut ++ out) = read ++ cut' ++ unread)
    (ended : cut = [] ∨ out = [] ∧ ∀ line ∈ cut, Fence.isClose line = false)
    (rewrites : Rewrites defaults writes .outside lines out)
    (hidden : Sealed defaults kinds lines) (opening : Line) :
    codeBlocks opening (segments defaults .outside unread) =
      codeBlocks opening (segments defaults .outside out) := by
  rw [List.append_assoc] at split
  have skipped : codeBlocks opening (segments defaults .outside (cut' ++ unread)) =
      codeBlocks opening (segments defaults .outside unread) := by
    rcases ends with rfl | ⟨rfl, kind, -, broken⟩
    · rfl
    · rw [List.append_nil, codeBlocks_unclosed broken.unclosed, codeBlocks_unclosed (by simp)]
  rw [← skipped]
  rcases unread_cases bare ended split with
    ⟨beyond, rfl, rfl⟩ | ⟨left, white, tail⟩ | ⟨rfl, unclosed⟩
  · have neutral := rewrites.remains_neutral separate (remains.of_blanks bare) hidden
    rw [codeBlocks_neutral neutral]
  · have neutral : ∀ line ∈ left, Line.IsNeutral defaults line :=
      fun line member => Line.neutral_of_blank (white line member)
    rw [tail, codeBlocks_neutral neutral]
  · rw [codeBlocks_unclosed unclosed, codeBlocks_unclosed (by simp)]

/-- A second scan takes the artifacts of a block, none or some, and goes on to the same code blocks.
A result among them keeps it from reading another one. -/
theorem codeBlocks_written {block : OpenBlock} {blanks cut : List Line} {written : List Written}
    (runs : block.config.run = true) (filled : Text.isBlankText block.body.flatten = false)
    (separate : (ArtifactPlan.forBlock block.config block.language.resultKind).inline = false)
    (white : ∀ line ∈ blanks, line.isBlank = true)
    (ordered : (written.map Written.kind).Sublist
      (ArtifactPlan.forBlock block.config block.language.resultKind).kinds)
    (hidden : (∃ artifact ∈ written, artifact.kind = .resultFence) ∨
      Sealed defaults (ArtifactPlan.forBlock block.config block.language.resultKind).kinds lines)
    (ended : cut = [] ∨ out = [] ∧ ∀ line ∈ cut, Fence.isClose line = false)
    (rewrites : Rewrites defaults writes .outside lines out) (opening : Line) :
    codeBlocks opening (segments defaults .outside (block.decision
        (blanks ++ (Written.spread written ++ (cut ++ out)))).unread) =
      codeBlocks opening (segments defaults .outside out) := by
  have apart := ArtifactPlan.forBlock_kinds_apart block.config block.language.resultKind
  have absent := ArtifactPlan.forBlock_separate separate
  obtain ⟨allowed, rim, read, rest, owned, bare, remains, ends, split⟩ :=
    Decision.inspect_past_written block.config (cut ++ out) apart ordered white
  have decided : block.decision (blanks ++ (Written.spread written ++ (cut ++ out))) =
      Decision.inspect block.config _ (blanks ++ (Written.spread written ++ (cut ++ out))) :=
    Decision.forBlock_inspect runs filled separate _
  have behind : Sealed defaults allowed lines := by
    rcases hidden with ⟨artifact, member, result⟩ | hidden
    · apply Sealed.of_unfenced
      intro kind looked
      apply Bool.eq_false_iff.mpr
      intro fenced
      obtain ⟨among, sort⟩ := owned kind looked
      obtain rfl := ArtifactKind.eq_resultFence fenced fun inline => absent (inline ▸ among)
      rcases sort with linked | others
      · contradiction
      · exact absurd (others artifact member) (by rw [result]; decide)
    · exact hidden.mono fun kind looked => (owned kind looked).1
  rw [decided]
  exact codeBlocks_absorbed (fun member => absent (owned _ member).1) bare remains ends split ended
    rewrites behind opening

theorem codeBlocks_unknown (defaults : Defaults) {block : OpenBlock} {separator : Line}
    {cut : List Line} {name : Text}
    (runs : block.config.run = true) (filled : Text.isBlankText block.body.flatten = false)
    (separate : (ArtifactPlan.forBlock block.config block.language.resultKind).inline = false)
    (blank : separator.isBlank = true)
    (unlike : ∀ kind ∈ (ArtifactPlan.forBlock block.config block.language.resultKind).kinds,
      kind.opens (Written.diagramLine name) = false)
    (ended : cut = [] ∨ out = [] ∧ ∀ line ∈ cut, Fence.isClose line = false) (opening : Line) :
    codeBlocks opening (segments defaults .outside (block.decision
        ([separator] ++ (Written.diagramLine name :: ['\n'] :: (cut ++ out)))).unread) =
      codeBlocks opening (segments defaults .outside out) := by
  obtain ⟨text, strip⟩ := Written.lead_diagramLine name
  have black : (Written.diagramLine name).isBlank = false := by
    apply Bool.eq_false_iff.mpr
    intro white
    exact absurd (Line.isBlank_lead white strip) (by decide)
  have white : ∀ line ∈ [separator], line.isBlank = true := by simpa using blank
  have barrier : ∀ line, (Written.diagramLine name :: ['\n'] :: (cut ++ out)).head? = some line →
      line.isBlank = false ∧
        ∀ kind ∈ (ArtifactPlan.forBlock block.config block.language.resultKind).kinds,
          kind.opens line = false := by
    rintro _ ⟨⟩
    exact ⟨black, unlike⟩
  obtain ⟨left, bare, unread⟩ := Decision.inspect_barrier block.config white barrier
  rw [← Decision.forBlock_inspect runs filled separate] at unread
  have neutral : ∀ line ∈ left ++ [Written.diagramLine name, ['\n']],
      Line.IsNeutral defaults line := by
    intro line member
    simp only [List.mem_append, List.mem_cons, List.not_mem_nil, or_false] at member
    rcases member with member | rfl | rfl
    · exact Line.neutral_of_blank (bare line member)
    · apply Line.neutral_of_lead
      rintro c others same rfl
      rw [strip] at same
      exact absurd (List.cons.inj same).1 (by decide)
    · exact Line.neutral_of_blank (by decide)
  have rest := codeBlocks_neutral neutral opening (cut ++ out)
  rw [List.append_assoc] at rest
  rw [show (block.decision _).unread = _ from unread]
  refine rest.trans ?_
  rcases ended with rfl | ⟨rfl, unclosed⟩
  · rfl
  · rw [List.append_nil, codeBlocks_unclosed unclosed, codeBlocks_unclosed (by simp)]

theorem codeBlocks_executed {block : OpenBlock} {close : Line} {following fresh : List Line}
    {artifacts : List Text} (due : (block.decision following).execute = true)
    (separate : (block.close close following).plan.inline = false)
    (hidden : (∃ text, resultFence text ∈ artifacts) ∨
      Sealed defaults (block.close close following).plan.kinds (block.decision following).unread)
    (leaves : (block.close close following).Leaves artifacts fresh)
    (rewrites : Rewrites defaults writes .outside (block.decision following).unread out)
    (opening : Line) :
    codeBlocks opening (segments defaults .outside (block.decision
        (fresh ++ (block.decision following).passThrough ++ out)).unread) =
      codeBlocks opening (segments defaults .outside out) := by
  obtain ⟨runs, filled⟩ := Decision.forBlock_due due
  have ended := rewrites.passed_on due
  have absent := ArtifactPlan.forBlock_separate separate
  cases leaves with
  | bare whole =>
    have white : ∀ line ∈ (block.close close following).decision.separator.toList,
        line.isBlank = true :=
      fun line member => (whole line (Option.mem_toList.mp member)).1
    have ordered : (([] : List Written).map Written.kind).Sublist
        (block.close close following).plan.kinds := List.nil_sublist _
    have same := codeBlocks_written runs filled separate white ordered
      (hidden.imp_left (by simp)) ended rewrites opening
    simpa [Written.spread] using same
  | @artifacts separator written blank whole nonempty ordered =>
    have white : ∀ line ∈ [separator], line.isBlank = true := by simpa using blank
    have shown : (∃ text, resultFence text ∈ written.map Written.text) →
        ∃ artifact ∈ written, artifact.kind = .resultFence := by
      rintro ⟨text, result⟩
      obtain ⟨artifact, member, same⟩ := List.mem_map.mp result
      have among := ordered.subset (List.mem_map_of_mem member)
      exact ⟨artifact, member, ArtifactKind.eq_resultFence (Written.isFenced_of_result same)
        fun inline => absent (inline ▸ among)⟩
    have same := codeBlocks_written runs filled separate white ordered (hidden.imp_left shown) ended
      rewrites opening
    simpa using same
  | @unknown separator name blank whole single unlike =>
    have same := codeBlocks_unknown defaults runs filled separate blank unlike ended opening
    simpa using same

theorem codeBlocks_eq
    (rewrites : Rewrites defaults (fun block fresh => ∃ artifacts,
      (block.plan.inline = false ∧ ((∃ text, resultFence text ∈ artifacts) ∨
        Sealed defaults block.plan.kinds block.decision.unread)) ∧
      block.Leaves artifacts fresh) state lines out) (opening : Line) :
    codeBlocks opening (segments defaults state out) =
      codeBlocks opening (segments defaults state lines) := by
  induction rewrites generalizing opening with
  | done => rfl
  | outside _ ih =>
    rw [segments, segments, codeBlocks, codeBlocks]
    exact ih _
  | inResult _ ih =>
    rw [segments, segments, codeBlocks, codeBlocks]
    exact ih _
  | body unclosed _ ih =>
    rw [segments, segments, if_neg (by simp [unclosed]), if_neg (by simp [unclosed])]
    exact ih _
  | @kept block line following out closes stays rewrites ih =>
    obtain ⟨still, through, again⟩ := rewrites.decision_again stays
    rw [segments, segments, if_pos closes, if_pos closes, codeBlocks, codeBlocks, again, ih]
    rfl
  | @executed block line following fresh out closes due writes rewrites ih =>
    obtain ⟨artifacts, ⟨separate, hidden⟩, leaves⟩ := writes
    rw [segments, segments, if_pos ((line.isClose_before fresh).trans closes), if_pos closes,
      codeBlocks, codeBlocks, codeBlocks_executed due separate hidden leaves rewrites, ih]
    rfl

end Rewrites

namespace Pass

variable {services : Services σ} {state : σ}

/-- A pass over a document without inline results ends well, and the next one finds other code. -/
def ChangesCode (outcome : Outcome) (answers : Answers) (document : Text) : Prop :=
  let first := ofDocument (Services.constant outcome answers) () document
  first.failure = none ∧ (∀ block ∈ blocks document, block.plan.inline = false) ∧
    codeBlocks [] (scanned first.text) ≠ codeBlocks [] (scanned document)

instance (outcome : Outcome) (answers : Answers) (document : Text) :
    Decidable (ChangesCode outcome answers document) :=
  inferInstanceAs (Decidable (_ ∧ _ ∧ _))

/-- Results are written without any escape. A closing fence in what a block prints ends the result,
and the code behind it is run. Code also comes to be after a last blank line without its newline,
and by a link or a name that breaks the line; and code in a result that no block owns is lost. -/
theorem codeBlocks_not_kept :
    let prints (text : String) : Outcome := { stdout := text.toList, exitCode := some 0 }
    let echo := "```bash\necho\n```\n".toList
    let services := Services.constant (prints "```\n```bash\nrm -r .\n```\n") {}
    ChangesCode (prints "```\n```bash\nrm -r .\n```\n") {} echo ∧
      "rm -r .\n".toList ∈ (ofDocument services () (ofDocument services () echo).text).requests.map
        Request.content ∧
      ChangesCode (prints "```bash\nrm -r .\n") {} (echo ++ "  ".toList) ∧
      ChangesCode (prints "{}") { link := some "/1\n```bash\nrm -r .\n```\n".toList }
        "```psql explain\nselect 1\n```\n".toList ∧
      ChangesCode { prints "" with artifact := some "1\n```bash\nrm -r .\n```\n".toList } {}
        "```mermaid\npie\n```\n".toList ∧
      ChangesCode (prints "1") {} ("```bash rerun result=false\necho\n```\n".toList ++
        "```RESULT\n1\n```\n```RESULT\n```bash\nls\n```\n".toList) := by
  decide +kernel

/-- A pass ends well and writes nothing that is read as something else later on. A block that has
written no result has none in reach that holds code. -/
structure Guarded (services : Services σ) (state : σ) (document output : Text) : Prop where
  done : (ofDocument services state document).result = .ok output
  contained : ∀ block outcome spliced,
    .executed block outcome spliced ∈ (ofDocument services state document).pieces →
      spliced.Contained
  hidden : ∀ block outcome spliced,
    .executed block outcome spliced ∈ (ofDocument services state document).pieces →
      (∃ text, resultFence text ∈ spliced.artifacts) ∨
        Sealed (Frontmatter.split (Text.lines document)).defaults block.plan.kinds
          block.decision.unread

/-- Guarded passes lead from one text to another, each with surroundings of its own. -/
inductive Becomes : Text → Text → Prop
  | same {document : Text} : Becomes document document
  | pass {σ : Type} {services : Services σ} {state : σ} {document between output : Text} :
      Becomes document between → Guarded services state between output → Becomes document output

theorem separate_of_codeBlocks {document output : Text}
    (same : codeBlocks [] (scanned output) = codeBlocks [] (scanned document))
    (separate : ∀ block ∈ blocks document, block.plan.inline = false) :
    ∀ block ∈ blocks output, block.plan.inline = false := by
  intro block member
  obtain ⟨other, closed, language, config, -⟩ :=
    exists_block_of_codeBlocks same (mem_blocks.mp member)
  have outside := separate other (mem_blocks.mpr closed)
  rw [Block.plan, language, config] at outside
  exact outside

theorem Guarded.codeBlocks_eq {document output : Text}
    (guarded : Guarded services state document output)
    (separate : ∀ block ∈ blocks document, block.plan.inline = false)
    (ended : ∀ line ∈ Text.lines document, line.isBlank = true → Text.endsLine line = true) :
    codeBlocks [] (scanned output) = codeBlocks [] (scanned document) ∧
      ∀ line ∈ Text.lines output, line.isBlank = true → Text.endsLine line = true := by
  obtain ⟨out, rewrites, lines, rescanned⟩ := ofDocument_rewrites
    (fun block artifacts => block.plan.inline = false ∧
      ((∃ text, resultFence text ∈ artifacts) ∨
        Sealed (Frontmatter.split (Text.lines document)).defaults block.plan.kinds
          block.decision.unread))
    guarded.done ended fun block outcome spliced member => by
      have outside := separate block (mem_blocks_of_executed member)
      exact ⟨outside, guarded.contained _ _ _ member, outside, guarded.hidden _ _ _ member⟩
  constructor
  · rw [rescanned]
    exact codeBlocks_copied rewrites.codeBlocks_eq _ _
  · rw [lines]
    have whole := Frontmatter.split_append (Text.lines document)
    rw [← whole] at ended
    obtain ⟨front, behind⟩ := List.forall_mem_append.mp ended
    exact List.forall_mem_append.mpr ⟨front, rewrites.blank_ended behind
      fun block fresh ⟨artifacts, _, leaves⟩ => leaves.ended⟩

/-- However many guarded passes there are, they leave the code blocks as they are. -/
theorem Becomes.codeBlocks_eq {document output : Text} (becomes : Becomes document output)
    (separate : ∀ block ∈ blocks document, block.plan.inline = false)
    (ended : ∀ line ∈ Text.lines document, line.isBlank = true → Text.endsLine line = true) :
    codeBlocks [] (scanned output) = codeBlocks [] (scanned document) ∧
      ∀ line ∈ Text.lines output, line.isBlank = true → Text.endsLine line = true := by
  induction becomes with
  | same => exact ⟨rfl, ended⟩
  | pass _ guarded ih =>
    obtain ⟨same, between⟩ := ih separate ended
    obtain ⟨again, last⟩ := guarded.codeBlocks_eq (separate_of_codeBlocks same separate) between
    exact ⟨again.trans same, last⟩

/-- What a block prints never becomes code. However many passes there have been, the next one closes
the code blocks of the document, and it hands nothing to an interpreter that did not stand in the
document as a block. -/
theorem ofDocument_codeBlocks {document output : Text} (becomes : Becomes document output)
    (separate : ∀ block ∈ blocks document, block.plan.inline = false)
    (ended : ∀ line, (Text.lines document).getLast? = some line →
      line.isBlank = true → Text.endsLine line = true)
    (services : Services σ) (state : σ) :
    codeBlocks [] (scanned output) = codeBlocks [] (scanned document) ∧
      ∀ request ∈ (ofDocument services state output).requests,
        ∃ block ∈ blocks document, request.content = block.content := by
  obtain ⟨same, -⟩ := becomes.codeBlocks_eq separate
    ((Text.areLines_lines document).endsLine_of_last ended)
  refine ⟨same, ?_⟩
  intro request member
  rw [ofDocument_eq] at member
  obtain ⟨block, among, rfl⟩ := run_requests member
  obtain ⟨other, closed, -, -, content⟩ := exists_block_of_codeBlocks same among
  have separate := separate_of_codeBlocks same separate block (mem_blocks.mpr among)
  refine ⟨other, mem_blocks.mpr closed, ?_⟩
  rw [Block.request, Block.source, if_neg (by simp [separate]), content]

/-- A usage text that shows a command stays a text, since its result has no other closing fence
than its own. -/
theorem ofDocument_codeBlocks_usage :
    let services := Services.constant
      { stdout := "Usage:\n```bash\nrm -r .\n".toList, exitCode := some 0 } {}
    let document := "```bash rerun\ntool --help\n```\n\nEnd.\n".toList
    let output :=
      "```bash rerun\ntool --help\n```\n\n```RESULT\nUsage:\n```bash\nrm -r .\n```\n\nEnd.\n".toList
    (ofDocument services () document).result = .ok output ∧
      codeBlocks [] (scanned output) = codeBlocks [] (scanned document) ∧
      ∀ request ∈ (ofDocument services () output).requests,
        ∃ block ∈ blocks document, request.content = block.content := by
  intro services document output
  have done : (ofDocument services () document).result = .ok output :=
    result_of_constant (by decide +kernel)
  have plain : ∀ block ∈ blocks document, block.plan.inline = false ∧
      block.config.showResult = true ∧ block.language.resultKind = .plainText := by
    decide +kernel
  have guarded : Guarded services () document output := by
    refine ⟨done, ?_, ?_⟩
    all_goals intro block outcome spliced member
    all_goals have shown := (plain block (mem_blocks_of_executed member)).2
    all_goals rw [ofDocument_eq] at member
    all_goals obtain ⟨rfl, given, linked, drawn, rfl⟩ := run_constant member
    · apply Splice.render_contained
      · cases block.language.errorStyle <;> decide
      · exact fun address found => absurd (linked address found) (by simp)
      · exact fun name found => absurd (drawn name found) (by simp)
      · simp
    · exact .inl ⟨_, Splice.render_result shown.1 (.inl shown.2) ..⟩
  have ended : ∀ line, (Text.lines document).getLast? = some line →
      line.isBlank = true → Text.endsLine line = true := by decide +kernel
  exact ⟨done, ofDocument_codeBlocks (.pass .same guarded)
    (fun block member => (plain block member).1) ended services ()⟩

end Pass
end Runbook
