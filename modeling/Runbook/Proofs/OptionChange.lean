import Runbook.Proofs.QueryArtifacts
import Runbook.Proofs.Spacing

/-! A query between two passes whose options change: what the second pass writes, and what of the
first one stays behind it. -/
namespace Runbook

/-- The artifacts behind a query that it owns are those that it has just written: one link, to where
its plan was shown, no rows if they are hidden, and none of its kinds twice. -/
structure IsFresh (config : BlockConfig) (artifacts : List Text) (address : Text)
    (found : List (ArtifactKind × Text)) : Prop where
  link : found.filter (fun entry => entry.1 = .planLink) = [(.planLink, planLink address)]
  hidden : config.showResult = false → ∀ entry ∈ found, entry.1 ≠ .resultFence
  single : ∀ kind ∈ (ArtifactPlan.forBlock config .structuredPlan).kinds,
    (found.filter fun entry => entry.1 = kind).length ≤ 1
  owned : (found.filter fun entry =>
    entry.1 ∈ (ArtifactPlan.forBlock config .structuredPlan).kinds).map Prod.snd = artifacts

def HasPicture (artifacts : List Text) : Prop :=
  ∃ text ∈ artifacts, ∃ line, (Text.lines text).head? = some line ∧
    ArtifactKind.flamegraph.opens line = true

theorem ArtifactPlan.mem_kinds_explain {config : BlockConfig} (explain : config.explain = true) :
    ArtifactKind.planLink ∈ (forBlock config .structuredPlan).kinds ∧
      ArtifactKind.resultFence ∈ (forBlock config .structuredPlan).kinds ∧
      (ArtifactKind.flamegraph ∈ (forBlock config .structuredPlan).kinds ↔
        config.flamegraph = true) := by
  rw [kinds_explain explain]
  cases config.showResult <;> cases config.flamegraph <;> decide

namespace QueryParts

variable {config before : BlockConfig} {artifacts : List Text} {rows links pictures : List Written}

theorem ordered_own (parts : QueryParts config artifacts rows links pictures)
    (explain : config.explain = true) :
    ((rows ++ links ++ pictures).map Written.kind).Sublist
      (ArtifactPlan.forBlock config .structuredPlan).kinds := by
  have own := parts.ordered explain (by cases config.showResult <;> rfl)
  by_cases drawn : config.flamegraph = true
  · rwa [if_pos drawn] at own
  · have none : pictures = [] := by
      apply List.eq_nil_iff_forall_not_mem.mpr
      intro picture member
      exact drawn (parts.kind_picture member).2
    rwa [if_neg drawn, ← none] at own

theorem entries_link (parts : QueryParts config artifacts rows links pictures) {address : Text}
    (shown : links.map Written.text = [planLink address]) :
    ((rows ++ links ++ pictures).map Written.entry).filter (fun entry => entry.1 = .planLink) =
      [(.planLink, planLink address)] := by
  have others (written : List Written) (apart : ∀ artifact ∈ written, artifact.kind ≠ .planLink) :
      (written.map Written.entry).filter (fun entry => entry.1 = .planLink) = [] := by
    rw [List.filter_eq_nil_iff]
    intro entry member
    obtain ⟨artifact, among, rfl⟩ := List.mem_map.mp member
    simp [Written.entry, apart artifact among]
  obtain ⟨link, more, rfl, text, none⟩ := List.map_eq_cons_iff.mp shown
  obtain rfl : more = [] := List.map_eq_nil_iff.mp none
  have kind := parts.kind_link List.mem_cons_self
  rw [List.map_append, List.map_append, List.filter_append, List.filter_append,
    others rows fun artifact member => by simp [parts.kind_row member],
    others pictures fun artifact member => by simp [(parts.kind_picture member).1]]
  simp [Written.entry, kind, text]

theorem entries_owned (parts : QueryParts config artifacts rows links pictures)
    (explain : config.explain = true) :
    ((rows ++ links ++ pictures).map Written.entry).filter
        (fun entry => entry.1 ∈ (ArtifactPlan.forBlock config .structuredPlan).kinds) =
      (rows ++ links ++ pictures).map Written.entry := by
  rw [List.filter_eq_self]
  intro entry member
  obtain ⟨artifact, among, rfl⟩ := List.mem_map.mp member
  exact decide_eq_true ((parts.ordered_own explain).subset (List.mem_map_of_mem among))

theorem kind_ne_result (parts : QueryParts config artifacts rows links pictures)
    (hidden : config.showResult = false) :
    ∀ artifact ∈ rows ++ links ++ pictures, artifact.kind ≠ .resultFence := by
  have shown := parts.shown
  rw [if_neg (by simp [hidden])] at shown
  obtain rfl : rows = [] := List.map_eq_nil_iff.mp shown
  intro artifact member
  rcases List.mem_append.mp member with link | picture
  · rw [parts.kind_link link]
    decide
  · rw [(parts.kind_picture picture).1]
    decide

/-- All that a query owns is fresh if and only if it owns nothing behind what it has just
written. -/
theorem isFresh_iff (parts : QueryParts config artifacts rows links pictures)
    (explain : config.explain = true) {address : Text}
    (shown : links.map Written.text = [planLink address])
    (stale : List (ArtifactKind × Text)) :
    IsFresh config artifacts address
        ((rows ++ links ++ pictures).map Written.entry ++ stale) ↔
      ∀ entry ∈ stale, entry.1 ∉ (ArtifactPlan.forBlock config .structuredPlan).kinds := by
  have own := parts.ordered_own explain
  obtain ⟨linked, fenced, -⟩ := ArtifactPlan.mem_kinds_explain explain
  have whole := parts.entries_owned explain
  have texts : ((rows ++ links ++ pictures).map Written.entry).map Prod.snd = artifacts := by
    rw [List.map_map, ← parts.texts]
    rfl
  constructor
  · intro fresh entry member owned
    have all := fresh.owned
    rw [List.filter_append, List.map_append, whole, texts, List.append_right_eq_self,
      List.map_eq_nil_iff, List.filter_eq_nil_iff] at all
    exact all entry member (by simpa using owned)
  · intro free
    have none (kind : ArtifactKind)
        (owned : kind ∈ (ArtifactPlan.forBlock config .structuredPlan).kinds) :
        stale.filter (fun entry => entry.1 = kind) = [] := by
      rw [List.filter_eq_nil_iff]
      intro entry member same
      have same : entry.1 = kind := by simpa using same
      exact free entry member (same ▸ owned)
    have rest : stale.filter (fun entry =>
        entry.1 ∈ (ArtifactPlan.forBlock config .structuredPlan).kinds) = [] := by
      rw [List.filter_eq_nil_iff]
      simpa using free
    refine ⟨?_, fun bare entry member result => ?_, fun kind owned => ?_, ?_⟩
    · rw [List.filter_append, none _ linked, List.append_nil, parts.entries_link shown]
    · rcases List.mem_append.mp member with member | member
      · obtain ⟨artifact, among, rfl⟩ := List.mem_map.mp member
        exact parts.kind_ne_result bare artifact among result
      · exact free entry member (result ▸ fenced)
    · have once := List.nodup_iff_count.mp
        ((ArtifactPlan.forBlock_kinds_nodup config .structuredPlan).sublist own) kind
      rw [List.filter_append, none kind owned, List.append_nil, List.filter_map, List.length_map,
        ← List.countP_eq_length_filter]
      rw [List.count, List.countP_map] at once
      exact once
    · rw [List.filter_append, rest, List.append_nil, whole, texts]

theorem hasPicture_iff (parts : QueryParts before artifacts rows links pictures) :
    HasPicture artifacts ↔ pictures ≠ [] := by
  constructor
  · rintro ⟨text, member, line, first, opens⟩ rfl
    rw [← parts.texts, List.append_nil] at member
    obtain ⟨artifact, among, rfl⟩ := List.mem_map.mp member
    obtain ⟨head, more, lines, own⟩ := artifact.lines_head
    rw [artifact.lines_text, lines, List.head?_cons, Option.some.injEq] at first
    have apart : artifact.kind.Apart .flamegraph := by
      rcases List.mem_append.mp among with among | among
      · rw [parts.kind_row among]
        decide
      · rw [parts.kind_link among]
        decide
    rw [← first, apart.opens own] at opens
    contradiction
  · intro nonempty
    obtain ⟨picture, more, rfl⟩ := List.exists_cons_of_ne_nil nonempty
    obtain ⟨head, others, lines, opens⟩ := picture.lines_head
    refine ⟨picture.text, ?_, head, ?_, (parts.kind_picture List.mem_cons_self).1 ▸ opens⟩
    · rw [← parts.texts]
      exact List.mem_map_of_mem (by simp)
    · rw [picture.lines_text, lines]
      rfl

theorem free_links_iff (parts : QueryParts before artifacts rows links pictures)
    (explain : config.explain = true) :
    (∀ artifact ∈ links, artifact.kind ∉ (ArtifactPlan.forBlock config .structuredPlan).kinds) ↔
      before.explain = false := by
  have none : links = [] ↔ before.explain = false := by
    rw [← List.map_eq_nil_iff (f := Written.kind), parts.linked]
    cases before.explain <;> simp
  rw [← none, List.eq_nil_iff_forall_not_mem]
  refine forall_congr' fun artifact => ⟨fun free member => free member ?_, fun none member => ?_⟩
  · rw [parts.kind_link member]
    exact (ArtifactPlan.mem_kinds_explain explain).1
  · exact absurd member none

theorem free_pictures_iff (parts : QueryParts before artifacts rows links pictures)
    (explain : config.explain = true) :
    (∀ artifact ∈ pictures, artifact.kind ∉ (ArtifactPlan.forBlock config .structuredPlan).kinds) ↔
      config.flamegraph = false ∨ ¬ HasPicture artifacts := by
  have drawn := (ArtifactPlan.mem_kinds_explain explain).2.2
  rw [parts.hasPicture_iff]
  constructor
  · intro free
    by_cases draws : config.flamegraph = true
    · refine .inr fun nonempty => ?_
      obtain ⟨picture, more, rfl⟩ := List.exists_cons_of_ne_nil nonempty
      have member : picture ∈ picture :: more := List.mem_cons_self
      have outside := free picture member
      rw [(parts.kind_picture member).1, drawn] at outside
      exact outside draws
    · exact .inl (Bool.eq_false_iff.mpr draws)
  · rintro (idle | none) picture member
    · rw [(parts.kind_picture member).1, drawn, idle]
      decide
    · exact absurd (List.ne_nil_of_mem member) none

/-- The options under which a query leaves nothing that it owns. Under the others it hides its rows,
looks for its link first and comes upon rows. -/
theorem free_left_iff (parts : QueryParts before artifacts rows links pictures)
    (explain : config.explain = true) :
    (∀ artifact ∈ left config before links pictures,
        artifact.kind ∉ (ArtifactPlan.forBlock config .structuredPlan).kinds) ↔
      config.showResult = true ∨ before.showResult = false ∨
        before.explain = false ∧ (config.flamegraph = false ∨ ¬ HasPicture artifacts) := by
  by_cases misled : (before.showResult && !config.showResult) = true
  · rw [left, if_pos misled, List.forall_mem_append, parts.free_links_iff explain,
      parts.free_pictures_iff explain]
    simp only [Bool.and_eq_true, Bool.not_eq_true'] at misled
    simp [misled]
  · rw [left, if_neg misled]
    refine iff_of_true ?_ ?_
    · by_cases draws : config.flamegraph = true
      · simp [draws]
      · rw [if_neg draws, parts.free_pictures_iff explain]
        exact .inl (Bool.eq_false_iff.mpr draws)
    · cases shown : config.showResult
      · exact .inr (.inl (by simpa [shown] using misled))
      · exact .inl rfl

end QueryParts

namespace Pass

variable {services : Services σ} {state : σ} {document output : Text} {before after : List Piece}
  {block : Block} {outcome : Outcome} {spliced : Spliced}

theorem lines_executed (done : (ofDocument services state document).failure = none)
    (parts : (ofDocument services state document).pieces =
      before ++ .executed block outcome spliced :: after)
    (separate : block.plan.inline = false)
    (ended : ∀ line, block.decision.separator = some line → Text.endsLine line = true)
    (through : block.decision.passThrough = []) {written : List Written}
    (texts : written.map Written.text = spliced.artifacts) :
    ∃ blanks, (∀ line ∈ blanks, line.isBlank = true ∧ line.IsEnded) ∧
      let fresh := blanks ++ Written.spread written
      let lines := block.body ++ block.close.before fresh ::
        (fresh ++ Text.lines (after.flatMap Piece.output))
      Text.AreLines lines ∧ lines.flatten =
        (Piece.executed block outcome spliced).output ++ after.flatMap Piece.output := by
  obtain ⟨cut, origins⟩ := executed_parts done parts
  have member : .block block ∈ scanned document := by simp [cut]
  obtain ⟨-, _, _, -, rendered⟩ := origins _ (List.mem_append_right _ List.mem_cons_self)
  have body : spliced.annotatedBody = none := by
    rw [rendered]
    exact Splice.render_annotatedBody separate ..
  obtain ⟨blanks, white, same⟩ := Block.close_written texts (scanned_separator member ended)
  refine ⟨blanks, white, ?_, ?_⟩
  · have valid := Text.areLines_lines document
    rw [scanned_lines cut] at valid
    have lines := valid.of_append
    have fence : Text.AreLines (block.close :: block.decision.unread) :=
      lines.of_append.sublist ((List.sublist_append_right _ _).cons_cons _)
    refine .append (lines.ended_of_append (List.cons_ne_nil _ _))
      (Line.areLines_before fence ?_ (Text.areLines_lines _) fun ends => ?_)
    · exact List.forall_mem_append.mpr
        ⟨fun line blank => (white line blank).2, Written.ended_spread⟩
    · have head := head_behind done parts
      rw [through, ends] at head
      exact List.head?_eq_none_iff.mp head
  · rw [Piece.output, body, Option.getD_none, through, List.append_assoc block.content, same]
    simp [Block.content, Text.lines_flatten]

theorem query_executed (answering : services.Answering)
    (done : (ofDocument services state document).failure = none)
    (parts : (ofDocument services state document).pieces =
      before ++ .executed block outcome spliced :: after)
    (query : block.language = .psql) (plan : outcome.IsPlan)
    (bare : trail (block.read ++ block.decision.unread) = [])
    (ended : ∀ line, block.decision.separator = some line → Text.endsLine line = true) :
    ∃ rows links pictures blanks, QueryParts block.config spliced.artifacts rows links pictures ∧
      (∀ line ∈ blanks, line.isBlank = true ∧ line.IsEnded) ∧
      let fresh := blanks ++ Written.spread (rows ++ links ++ pictures)
      let behind := Text.lines (after.flatMap Piece.output)
      let lines := block.body ++ block.close.before fresh :: (fresh ++ behind)
      Text.AreLines lines ∧ lines.flatten =
          (Piece.executed block outcome spliced).output ++ after.flatMap Piece.output ∧
        ∀ line, behind.head? = some line →
          line.isBlank = false ∧ ∀ kind ∈ queryKinds, kind.opens line = false := by
  obtain ⟨cut, origins⟩ := executed_parts done parts
  have member : .block block ∈ scanned document := by simp [cut]
  have origin := origins _ (List.mem_append_right _ List.mem_cons_self)
  have due : block.decision.execute = true := origin.1
  obtain ⟨rows, links, pictures, written, -⟩ := origin.query answering query plan
  obtain ⟨kind, separate⟩ := block.plan_query query
  have clear := (trail_eq_nil_iff _).mp bare
  have decided := scanned_inspect member due separate
  have execute := due
  rw [decided, kind] at execute
  obtain ⟨through, unread⟩ := Decision.inspect_bare execute fun line first kind owned =>
    clear line first kind (ArtifactPlan.kinds_subset _ kind owned)
  rw [← kind, ← decided] at through unread
  obtain ⟨blanks, white, valid, text⟩ :=
    lines_executed done parts separate ended through written.texts
  refine ⟨rows, links, pictures, blanks, written, white, valid, text, ?_⟩
  have head := head_behind done parts
  rw [through, List.flatten_nil, List.nil_append, List.nil_append] at head
  intro line first
  rw [head] at first
  have black := Decision.inspect_behind execute line
  rw [← kind, ← decided, through, List.nil_append] at black
  rw [unread] at first
  exact ⟨black (unread ▸ first), clear line first⟩

theorem lines_after {neutral rest : List Line}
    (done : (ofDocument services state document).failure = none)
    (parts : (ofDocument services state document).pieces =
      before ++ .executed block outcome spliced :: after)
    (unread : block.decision.unread = neutral ++ rest)
    (ended : ∀ line ∈ neutral, Line.IsEnded line)
    (leads : ∀ line ∈ neutral,
      Line.IsNeutral (Frontmatter.split (Text.lines document)).defaults line) :
    ∃ more, Text.lines (after.flatMap Piece.output) = neutral ++ more ∧
      more.head? = rest.head? := by
  obtain ⟨cut, -⟩ := executed_parts done parts
  have made := scanned_behind document cut
  rw [unread, segments_neutral leads] at made
  obtain ⟨copied, others, rfl, same, made⟩ := List.map_eq_append_iff.mp made
  have valid := Text.areLines_lines document
  rw [scanned_lines cut, unread] at valid
  refine ⟨Text.lines (others.flatMap Piece.output), ?_, ?_⟩
  · rw [List.flatMap_append, Piece.eq_copied same, Piece.output_copied,
      Text.lines_flatten_append ended]
  · exact lines_head_of_segments valid.of_append.of_append.tail.of_append.of_append made

/-- Behind a query stand its new artifacts, and behind them those that it has left. -/
theorem trail_executed (done : (ofDocument services state document).result = .ok output)
    (parts : (ofDocument services state document).pieces =
      before ++ .executed block outcome spliced :: after)
    {rows links pictures rows' links' pictures' : List Written} {config : BlockConfig}
    {artifacts : List Text}
    (fresh : QueryParts block.config spliced.artifacts rows links pictures)
    (wrote : spliced.artifacts ≠ [])
    (stale : QueryParts config artifacts rows' links' pictures')
    {left : List Written} (within : ∀ artifact ∈ left, artifact ∈ links' ++ pictures')
    (separator : ∀ line, block.decision.separator = some line →
      line.isBlank = true ∧ line.IsEnded)
    (through : block.decision.passThrough = []) {rest : List Line}
    (unread : block.decision.unread = Written.spread left ++ rest)
    (clear : ∀ line, rest.head? = some line →
      line.isBlank = false ∧ ∀ kind ∈ queryKinds, kind.opens line = false) :
    ∃ behind, output = before.flatMap Piece.output ++ block.content ++
        Text.terminated block.close ++ behind ∧
      trail (Text.lines behind) =
        (rows ++ links ++ pictures).map Written.entry ++ left.map Written.entry := by
  have text := text_executed done parts wrote
  rw [through, List.flatten_nil, List.nil_append] at text
  obtain ⟨unbroken, -⟩ := Run.result_eq_ok_iff.mp done
  have unfenced : ∀ artifact ∈ left, artifact.kind.isFenced = false := by
    intro artifact member
    rcases List.mem_append.mp (within artifact member) with among | among
    · rw [stale.kind_link among]
      rfl
    · rw [(stale.kind_picture among).1]
      rfl
  have among : ∀ artifact ∈ left, artifact ∈ rows' ++ links' ++ pictures' := by
    intro artifact member
    rw [List.append_assoc]
    exact List.mem_append_right _ (within artifact member)
  obtain ⟨more, lines, head⟩ :=
    lines_after unbroken parts unread Written.ended_spread (Written.neutral_spread unfenced)
  have gap : Line.isBlank (block.decision.separator.getD ['\n']) = true ∧
      Line.IsEnded (block.decision.separator.getD ['\n']) := by
    cases found : block.decision.separator with
    | none => exact ⟨by decide, Line.isEnded_newline⟩
    | some line => exact separator line found
  rw [← head] at clear
  have lead : ∀ line, more.head? = some line → line.isBlank = false :=
    fun line first => (clear line first).1
  refine ⟨_, text.trans (List.append_assoc ..).symm, ?_⟩
  rw [← fresh.texts, ← Written.spread_flatten, Text.lines_ended_append gap.2,
    Text.lines_flatten_append Written.ended_spread, lines, trail_blank gap.1,
    trail_spread fresh.kind_mem fresh.single (Written.lead_spread lead),
    trail_spread (fun artifact member => stale.kind_mem artifact (among artifact member))
      (fun artifact member => stale.single artifact (among artifact member)) lead,
    trail_nil clear, List.append_nil]

/-- A query is executed, its header is changed, and another pass executes it again. Behind it stand
the artifacts that were just written, and behind those the ones that were not found. So all that the
query owns is fresh, with one link, unless it now hides its rows, looks for its link first and comes
upon rows that stand before what it owns. -/
theorem ofDocument_isFresh_iff {σ τ : Type} {services : Services σ} {state : σ}
    {others : Services τ} {start : τ} {document output edited final : Text} {header changed : Line}
    {before after again rest : List Piece} {block renewed : Block} {old new : Outcome}
    {spliced fresh : Spliced}
    (answering : services.Answering) (answering' : others.Answering)
    (done : (ofDocument services state document).result = .ok output)
    (parts : (ofDocument services state document).pieces =
      before ++ .copied header :: .executed block old spliced :: after)
    (query : block.language = .psql) (plan : old.IsPlan)
    (bare : trail (block.read ++ block.decision.unread) = [])
    (ended : ∀ line, block.decision.separator = some line → Text.endsLine line = true)
    (change : edited = before.flatMap Piece.output ++ changed ++
      (Piece.executed block old spliced :: after).flatMap Piece.output)
    (done' : (ofDocument others start edited).result = .ok final)
    (parts' : (ofDocument others start edited).pieces =
      again ++ .copied changed :: .executed renewed new fresh :: rest)
    (place : (again.flatMap Piece.source).flatten = before.flatMap Piece.output)
    (query' : renewed.language = .psql) (plan' : new.IsPlan)
    (explain : renewed.config.explain = true) :
    renewed.body = block.body ∧ ∃ address behind,
      (∃ asked, (others.submit (Text.trim new.stdout) asked).1 = some address) ∧
      final = again.flatMap Piece.output ++ changed ++ renewed.content ++
        Text.terminated renewed.close ++ behind ∧
      (IsFresh renewed.config fresh.artifacts address (trail (Text.lines behind)) ↔
        renewed.config.showResult = true ∨ block.config.showResult = false ∨
          block.config.explain = false ∧
            (renewed.config.flamegraph = false ∨ ¬ HasPicture spliced.artifacts)) := by
  obtain ⟨unbroken, -⟩ := Run.result_eq_ok_iff.mp done
  obtain ⟨unbroken', -⟩ := Run.result_eq_ok_iff.mp done'
  rw [List.append_cons] at parts parts'
  obtain ⟨rows, links, pictures, blanks, stale, white, valid, text, clear⟩ :=
    query_executed answering unbroken parts query plan bare ended
  obtain ⟨cut, -⟩ := executed_parts unbroken parts
  obtain ⟨cut', origins⟩ := executed_parts unbroken' parts'
  have member : .block block ∈ scanned document := by simp [cut]
  have member' : .block renewed ∈ scanned edited := by simp [cut']
  -- The second pass closes the block where the first one has.
  have start : (((again ++ [Piece.copied changed]).map Piece.segment).flatMap
      Segment.source).flatten = before.flatMap Piece.output ++ changed := by
    simp only [List.flatMap_map, Piece.source_segment, List.flatMap_append, List.flatten_append,
      place]
    exact congrArg (_ ++ ·) (List.append_nil changed)
  obtain ⟨body, -, behind⟩ := scanned_at cut'
    (by rw [start, text, change, List.flatMap_cons]) valid
    (scanned_unclosed_body document member)
    ((Line.isClose_before ..).trans (scanned_closes document member))
  have origin := origins _ (List.mem_append_right _ List.mem_cons_self)
  obtain ⟨kind, separate⟩ := renewed.plan_query query'
  have decided := scanned_inspect member' origin.1 separate
  have due := origin.1
  rw [behind, kind, List.append_assoc] at decided
  rw [decided] at due
  obtain ⟨separator, through, unread⟩ :=
    stale.inspect explain (fun line blank => (white line blank).1) clear due
  rw [← decided] at separator through unread
  obtain ⟨rows', links', pictures', wrote, linked⟩ := origin.query answering' query' plan'
  obtain ⟨address, asked, given, shown⟩ := linked explain
  have nonempty : fresh.artifacts ≠ [] := by
    rw [← wrote.texts, List.map_append, List.map_append, shown]
    simp
  obtain ⟨beyond, written, found⟩ := trail_executed done' parts' wrote nonempty stale
    (QueryParts.left_subset renewed.config block.config links pictures)
    (fun line first => white line (List.mem_of_head? (separator.symm.trans first))) through unread
    clear
  refine ⟨body, address, beyond, ⟨asked, given⟩, ?_, ?_⟩
  · simpa [Piece.output] using written
  · rw [found, wrote.isFresh_iff explain shown, List.forall_mem_map]
    exact stale.free_left_iff explain

/-- A query that has drawn a picture is told to show its plan and to hide its rows. The rows go, and
the picture that the query does not own any more stays behind the new link. -/
theorem ofDocument_isFresh_picture :
    let outcome : Outcome := {
      stdout := "[\x7b\"Plan\":\x7b\"Node Type\":\"Result\"\x7d\x7d]\n", exitCode := some 0 }
    let services := Services.constant outcome { link := some "/plan", picture := some "q.svg" }
    let config : BlockConfig := {
      language := "psql", run := true, rerun := false, explain := true, flamegraph := false
      showResult := false }
    let header := "```psql explain result=false\n".toList
    let stale := '\n' :: (resultFence outcome.stdout ++ flamegraphImage "q.svg")
    let behind := '\n' :: (planLink "/plan" ++ flamegraphImage "q.svg")
    (ofDocument services () "```psql flamegraph\nSELECT 1;\n```\n".toList).result =
        .ok ("```psql flamegraph\nSELECT 1;\n```\n".toList ++ stale) ∧
      (ofDocument services () (header ++ "SELECT 1;\n```\n".toList ++ stale)).result =
        .ok (header ++ "SELECT 1;\n```\n".toList ++ behind) ∧
      IsFresh config [planLink "/plan"] "/plan" (trail (Text.lines behind)) := by
  intro outcome services config header stale behind
  let renewed : OpenBlock := { language := .psql, config, body := ["SELECT 1;\n".toList] }
  let opened : OpenBlock := { renewed with
    config := { config with explain := false, flamegraph := true, showResult := true } }
  have answering : services.Answering := .constant rfl (by decide) (by rintro _ ⟨⟩; decide)
  have plan : outcome.IsPlan := ⟨by decide, by decide +kernel⟩
  have done : (ofDocument services () "```psql flamegraph\nSELECT 1;\n```\n".toList).result =
      .ok ("```psql flamegraph\nSELECT 1;\n```\n".toList ++ stale) :=
    result_of_constant (by decide +kernel)
  have parts : (ofDocument services () "```psql flamegraph\nSELECT 1;\n```\n".toList).pieces =
      [] ++ .copied "```psql flamegraph\n".toList ::
        .executed (opened.close "```\n".toList []) outcome
          { artifacts := [resultFence outcome.stdout, flamegraphImage "q.svg"] } :: [] := by
    decide +kernel
  have done' : (ofDocument services () (header ++ "SELECT 1;\n```\n".toList ++ stale)).result =
      .ok (header ++ "SELECT 1;\n```\n".toList ++ behind) :=
    result_of_constant (by decide +kernel)
  have parts' : (ofDocument services () (header ++ "SELECT 1;\n```\n".toList ++ stale)).pieces =
      [] ++ .copied header ::
        .executed (renewed.close "```\n".toList (Text.lines stale)) outcome
          { artifacts := [planLink "/plan"] } ::
        (Text.lines (flamegraphImage "q.svg")).map .copied := by
    decide +kernel
  obtain ⟨-, address, found, ⟨asked, given⟩, text, fresh⟩ :=
    ofDocument_isFresh_iff answering answering done parts rfl plan (by decide +kernel)
      (by decide +kernel) (by decide +kernel) done' parts' rfl rfl plan rfl
  obtain rfl : "/plan".toList = address := Option.some.inj given
  have front : ([] : List Piece).flatMap Piece.output ++ header ++
      (renewed.close "```\n".toList (Text.lines stale)).content ++
      Text.terminated "```\n".toList = header ++ "SELECT 1;\n```\n".toList := by
    decide +kernel
  obtain rfl : behind = found := List.append_cancel_left (text.trans (congrArg (· ++ found) front))
  exact ⟨done, done', fresh.mpr (.inr (.inr ⟨rfl, .inl rfl⟩))⟩

/-- Rows that are hidden now stand before the link of the first pass, so that link stays beside the
new one. -/
theorem ofDocument_not_isFresh :
    let outcome : Outcome := {
      stdout := "[\x7b\"Plan\":\x7b\"Node Type\":\"Result\"\x7d\x7d]\n", exitCode := some 0 }
    let shown : OpenBlock := {
      language := .psql
      config := {
        language := "psql", run := true, rerun := false, explain := true, flamegraph := false
        showResult := true }
      body := ["SELECT 1;\n".toList] }
    let hidden : OpenBlock := { shown with config := { shown.config with showResult := false } }
    let first := ofDocument (Services.constant outcome { link := some "/old" }) ()
      "```psql explain\nSELECT 1;\n```\n".toList
    let stale := '\n' :: (resultFence outcome.stdout ++ planLink "/old")
    let second := ofDocument (Services.constant outcome { link := some "/new" }) ()
      ("```psql explain result=false\nSELECT 1;\n```\n".toList ++ stale)
    let behind := '\n' :: (planLink "/new" ++ planLink "/old")
    first.pieces = [.copied "```psql explain\n".toList, .executed (shown.close "```\n".toList [])
        outcome { artifacts := [resultFence outcome.stdout, planLink "/old"] }] ∧
      first.result = .ok ("```psql explain\nSELECT 1;\n```\n".toList ++ stale) ∧
      second.pieces = .copied "```psql explain result=false\n".toList ::
        .executed (hidden.close "```\n".toList (Text.lines stale)) outcome
          { artifacts := [planLink "/new"] } ::
        (Text.lines (planLink "/old")).map .copied ∧
      second.result = .ok ("```psql explain result=false\nSELECT 1;\n```\n".toList ++ behind) ∧
      ¬ IsFresh hidden.config [planLink "/new"] "/new" (trail (Text.lines behind)) := by
  intro outcome shown hidden first stale second behind
  refine ⟨by decide +kernel, result_of_constant (by decide +kernel), by decide +kernel,
    result_of_constant (by decide +kernel), fun fresh => ?_⟩
  exact absurd fresh.link (by decide +kernel)

end Pass

end Runbook
