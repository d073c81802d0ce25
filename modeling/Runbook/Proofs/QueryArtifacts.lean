import Runbook.Proofs.PlanText
import Runbook.Proofs.SecondPass

/-! The artifacts of a query: its rows, the link to its plan and a picture of it. A pass writes them
in one order. Under other options another pass looks for its own in another order, and where the
rows are to be hidden it looks for them last, though they stand first. -/
namespace Runbook

/-- The kinds of artifacts that a query can leave. -/
def queryKinds : List ArtifactKind := [.resultFence, .planLink, .flamegraph]

/-- One artifact: a result with its fences, or one line. -/
def oneArtifact (kind : ArtifactKind) (first : Line) (rest : List Line) : ArtifactBody :=
  if kind.isFenced then .fenced first rest else ⟨[first], true, rest⟩

theorem oneArtifact_rest (kind : ArtifactKind) (first : Line) (rest : List Line) :
    (oneArtifact kind first rest).rest.length ≤ rest.length := by
  unfold oneArtifact
  split
  · have dropped := (List.dropWhile_suffix (l := rest) fun line => !Fence.isClose line).length_le
    unfold ArtifactBody.fenced
    split
    · simp
    · rename_i close more shape
      rw [shape, List.length_cons] at dropped
      exact Nat.le_of_succ_le dropped
  · exact Nat.le_refl _

/-- The artifacts of a query that stand behind a closing fence, one after the other, each with the
blank lines after it. -/
def trail : List Line → List (ArtifactKind × Text)
  | [] => []
  | line :: more =>
    match queryKinds.find? fun kind => kind.opens line with
    | none => if line.isBlank then trail more else []
    | some kind =>
      let body := oneArtifact kind line more
      (kind, (body.lines ++ body.rest.takeWhile Line.isBlank).flatten) ::
        trail (body.rest.dropWhile Line.isBlank)
termination_by lines => lines.length
decreasing_by
  all_goals simp only [List.length_cons]
  · omega
  · have dropped := (List.dropWhile_suffix (l := (oneArtifact kind line more).rest)
      Line.isBlank).length_le
    have taken := oneArtifact_rest kind line more
    omega

/-- How an artifact is told in the trail of a query. -/
def Written.entry (written : Written) : ArtifactKind × Text := (written.kind, written.text)

variable {written : List Written} {rest : List Line}

theorem queryKinds_apart : queryKinds.Pairwise ArtifactKind.Apart := by decide

theorem find_opens {kinds : List ArtifactKind} (apart : kinds.Pairwise ArtifactKind.Apart)
    {kind : ArtifactKind} (owned : kind ∈ kinds) {line : Line} (opens : kind.opens line = true) :
    kinds.find? (fun kind => kind.opens line) = some kind := by
  induction kinds with
  | nil => simp at owned
  | cons other kinds ih =>
    obtain ⟨first, others⟩ := List.pairwise_cons.mp apart
    rcases List.mem_cons.mp owned with rfl | owned
    · rw [List.find?_cons, opens]
    · rw [List.find?_cons, (first kind owned).symm.opens opens]
      exact ih others owned

theorem trail_blank {line : Line} (blank : line.isBlank = true) (lines : List Line) :
    trail (line :: lines) = trail lines := by
  have nothing : queryKinds.find? (fun kind => kind.opens line) = none := by
    rw [List.find?_eq_none]
    intro kind _ opens
    rw [ArtifactKind.not_isBlank_of_opens opens] at blank
    contradiction
  rw [trail, nothing]
  simp [blank]

theorem trail_written {artifact : Written} (owned : artifact.kind ∈ queryKinds)
    (single : artifact.kind.isFenced = false → artifact.body.length = 1)
    (lead : ∀ line, rest.head? = some line → line.isBlank = false) :
    trail (artifact.lines ++ rest) = artifact.entry :: trail rest := by
  obtain ⟨first, more, body, opens⟩ := artifact.whole.head
  have one : oneArtifact artifact.kind first (more ++ ['\n'] :: rest) =
      ⟨artifact.body, true, ['\n'] :: rest⟩ := by
    by_cases fenced : artifact.kind.isFenced = true
    · have bounded := ArtifactKind.not_isLinked_of_isFenced fenced
      rw [oneArtifact, if_pos fenced, ← ArtifactKind.takeBody_of_fenced fenced, ← List.cons_append,
        ← body]
      exact ArtifactKind.takeBody_whole artifact.whole bounded _
    · have alone := single (Bool.eq_false_iff.mpr fenced)
      rw [body, List.length_cons, Nat.add_eq_right, List.length_eq_zero_iff] at alone
      subst alone
      rw [oneArtifact, if_neg fenced, body]
      rfl
  have white : ∀ line ∈ [['\n']], Line.isBlank line = true := by decide
  obtain ⟨taken, dropped⟩ := Decision.span_blanks white lead
  rw [List.singleton_append] at taken dropped
  have lines : artifact.lines ++ rest = first :: (more ++ ['\n'] :: rest) := by
    simp [Written.lines, body]
  rw [lines, trail, find_opens queryKinds_apart owned opens]
  simp only [one, taken, dropped]
  rfl

theorem trail_spread (owned : ∀ artifact ∈ written, artifact.kind ∈ queryKinds)
    (single : ∀ artifact ∈ written, artifact.kind.isFenced = false → artifact.body.length = 1)
    (lead : ∀ line, rest.head? = some line → line.isBlank = false) :
    trail (Written.spread written ++ rest) =
      written.map Written.entry ++ trail rest := by
  induction written with
  | nil => rfl
  | cons first more ih =>
    have later := ih (fun artifact member => owned artifact (by simp [member]))
      fun artifact member => single artifact (by simp [member])
    rw [Written.spread_cons, List.append_assoc,
      trail_written (owned first (by simp)) (single first (by simp)) (Written.lead_spread lead),
      later]
    rfl

theorem trail_eq_nil_iff (lines : List Line) :
    trail lines = [] ↔ ∀ line, (lines.dropWhile Line.isBlank).head? = some line →
      ∀ kind ∈ queryKinds, kind.opens line = false := by
  induction lines with
  | nil => simp [trail]
  | cons first more ih =>
    by_cases blank : first.isBlank = true
    · rw [trail_blank blank, List.dropWhile_cons_of_pos blank, ih]
    · rw [List.dropWhile_cons_of_neg blank, List.head?_cons]
      constructor
      · rintro nothing line ⟨⟩ kind owned
        apply Bool.eq_false_iff.mpr
        intro opens
        rw [trail, find_opens queryKinds_apart owned opens] at nothing
        contradiction
      · intro closed
        have nothing : queryKinds.find? (fun kind => kind.opens first) = none := by
          rw [List.find?_eq_none]
          intro kind owned
          simp [closed first rfl kind owned]
        rw [trail, nothing]
        simp [blank]

theorem trail_nil {lines : List Line} (clear : ∀ line, lines.head? = some line →
    line.isBlank = false ∧ ∀ kind ∈ queryKinds, kind.opens line = false) : trail lines = [] := by
  cases lines with
  | nil => rw [trail]
  | cons first more =>
    obtain ⟨black, closed⟩ := clear first rfl
    rw [trail_eq_nil_iff, List.dropWhile_cons_of_neg (by simp [black])]
    rintro line ⟨⟩
    exact closed

/-- A successful query has printed its plan. -/
structure Outcome.IsPlan (outcome : Outcome) : Prop where
  success : outcome.isSuccess = true
  json : (Json.parse? (Text.trim outcome.stdout)).isSome = true

/-- Every plan is given an address, and an address or a file name is one line. -/
structure Services.Answering (services : Services σ) : Prop where
  link : ∀ plan state, ∃ address, (services.submit plan state).1 = some address
  address : ∀ plan state address, (services.submit plan state).1 = some address → '\n' ∉ address
  name : ∀ picture state name, (services.save picture state).1 = some name → '\n' ∉ name

/-- The rows, the link and the picture that a query has written, as its options ask. -/
structure QueryParts (config : BlockConfig) (artifacts : List Text)
    (rows links pictures : List Written) : Prop where
  texts : (rows ++ links ++ pictures).map Written.text = artifacts
  shown : rows.map Written.kind = if config.showResult then [.resultFence] else []
  linked : links.map Written.kind = if config.explain then [.planLink] else []
  pictured : (pictures.map Written.kind).Sublist
    (if config.flamegraph then [.flamegraph] else [])
  single : ∀ artifact ∈ rows ++ links ++ pictures,
    artifact.kind.isFenced = false → artifact.body.length = 1

namespace Splice

variable {config : BlockConfig} {outcome : Outcome} {answers : Answers}

theorem visuals_plan (config : BlockConfig) (plan : outcome.IsPlan) :
    (visuals config .structuredPlan outcome).submit =
      (if config.explain then some (Text.trim outcome.stdout) else none) ∧
    ((visuals config .structuredPlan outcome).draw.isSome = true → config.flamegraph = true) := by
  unfold visuals ArtifactPlan.isVisualized
  cases explain : config.explain <;> cases flamegraph : config.flamegraph <;>
    simp [plan.success, plan.json]

theorem render_plan (success : outcome.isSuccess = true)
    (fits : answers.Fits (visuals config .structuredPlan outcome)) (source : Text) :
    (render config .psql outcome source answers).artifacts =
      planArtifacts config Language.psql.errorStyle outcome answers := by
  unfold render
  split
  · rename_i hidden
    have asked := visuals_asked config .structuredPlan outcome
    have link := fun given => (asked.1 (fits.link given)).1
    have picture := fun given => (asked.2 (fits.picture given)).1
    unfold ArtifactPlan.forBlock ArtifactPlan.structuredPlan ArtifactPlan.isVisualized at hidden
    cases shown : config.showResult <;> cases explain : config.explain <;>
      cases flamegraph : config.flamegraph <;>
      simp_all [planArtifacts, Language.resultKind]
  · rfl

theorem length_body_of_rendered {source : Text} {language : Language} {written : Written}
    (contained : (render config language outcome source answers).Contained)
    (member : written.text ∈ (render config language outcome source answers).artifacts)
    (unfenced : written.kind.isFenced = false) : written.body.length = 1 := by
  have label (sign : Text) (text : Text) (plain : '\n' ∉ sign) (single : '\n' ∉ text) :
      '\n' ∉ sign ++ text := by
    rw [List.mem_append, not_or]
    exact ⟨plain, single⟩
  rcases render_forms _ _ _ member with same | ⟨address, -, same⟩ | ⟨name, -, same⟩ |
    ⟨name, -, same⟩
  · rw [Written.isFenced_of_result same] at unfenced
    contradiction
  · refine Written.length_body (label _ _ (by decide) (contained.link address (same ▸ member))) same
  · have sign : '\n' ∉ ['('] := by decide
    refine Written.length_body (label _ _ (by decide)
      (label _ _ sign (contained.picture name (same ▸ member)))) same
  · refine Written.length_body (label _ _ (by decide) (contained.diagram name (same ▸ member))) same

theorem contained_plan {source : Text} (plan : outcome.IsPlan)
    (address : ∀ address, answers.link = some address → '\n' ∉ address)
    (name : ∀ name, answers.picture = some name → '\n' ∉ name) :
    (render config .psql outcome source answers).Contained where
  result text member := by
    refine resultFence_lines (result_of_rendered member) ?_
    rw [Outcome.framed, if_pos plan.success]
    exact Json.unclosed_of_parse plan.json
  link text member := address text (link_of_rendered member)
  picture text member := name text (picture_of_rendered member)
  diagram text member := absurd (artifacts_of_diagram member).1 (by decide)

end Splice

namespace Services.Answering

variable {services : Services σ} {visuals : Visuals} {state : σ}

theorem answer_address (answering : services.Answering) :
    ∀ address, (services.answer visuals state).1.link = some address → '\n' ∉ address := by
  intro address given
  cases submit : visuals.submit with
  | none => simp [answer, ask, submit] at given
  | some plan =>
    exact answering.address plan state address (by simpa [answer, ask, submit] using given)

theorem answer_name (answering : services.Answering) :
    ∀ name, (services.answer visuals state).1.picture = some name → '\n' ∉ name := by
  intro name saved
  cases draw : visuals.draw with
  | none => simp [answer, ask, draw] at saved
  | some picture =>
    exact answering.name picture _ name (by simpa [answer, ask, draw] using saved)

theorem constant {outcome : Outcome} {answers : Answers} {address : Text}
    (link : answers.link = some address) (single : '\n' ∉ address)
    (picture : ∀ name, answers.picture = some name → '\n' ∉ name) :
    (Services.constant outcome answers).Answering where
  link _ _ := ⟨address, link⟩
  address _ _ other given := by
    obtain rfl := Option.some.inj (link.symm.trans given)
    exact single
  name _ _ name saved := picture name saved

end Services.Answering

/-- What an executed query has written. Its link is an answer to its plan. -/
theorem Piece.Origin.query {services : Services σ} {block : Block} {outcome : Outcome}
    {spliced : Spliced} (origin : (Piece.executed block outcome spliced).Origin services)
    (answering : services.Answering) (query : block.language = .psql) (plan : outcome.IsPlan) :
    ∃ rows links pictures, QueryParts block.config spliced.artifacts rows links pictures ∧
      (block.config.explain = true → ∃ address state,
        (services.submit (Text.trim outcome.stdout) state).1 = some address ∧
          links.map Written.text = [planLink address]) := by
  obtain ⟨-, -, state, -, rendered⟩ := origin
  rw [query] at rendered
  let visuals := Splice.visuals block.config .structuredPlan outcome
  let answers := (services.answer visuals state).1
  have fits : answers.Fits visuals := services.answer_fits visuals state
  obtain ⟨submit, draw⟩ := Splice.visuals_plan block.config plan
  obtain ⟨address, given⟩ := answering.link (Text.trim outcome.stdout) state
  have link : answers.link = if block.config.explain then some address else none := by
    rw [show answers.link = (Services.ask services.submit visuals.submit state).1 from rfl,
      show visuals.submit = _ from submit]
    split
    · exact given
    · rfl
  have contained : (Splice.render block.config .psql outcome block.source answers).Contained :=
    Splice.contained_plan plan answering.answer_address answering.answer_name
  have written := Splice.render_plan plan.success fits block.source
  have parts : Spliced.Contained {
      artifacts :=
        Splice.planArtifacts block.config Language.psql.errorStyle outcome answers } := by
    rw [← written]
    exact ⟨contained.result, contained.link, contained.picture, contained.diagram⟩
  obtain ⟨rows, links, pictures, texts, shown, linked, sole, pictured⟩ :=
    Splice.planArtifacts_parts parts
  have artifacts : spliced.artifacts = _ := (congrArg Spliced.artifacts rendered).trans written
  refine ⟨rows, links, pictures, ⟨texts.trans artifacts.symm, ?_, ?_, ?_, ?_⟩, fun explain => ?_⟩
  · simpa [plan.success] using shown
  · rw [linked, link]
    split <;> rfl
  · rw [pictured]
    cases saved : answers.picture with
    | none => exact List.nil_sublist _
    | some name => simp [draw (fits.picture (by simp [saved]))]
  · intro part member
    refine Splice.length_body_of_rendered contained ?_
    rw [written, ← texts]
    exact List.mem_map_of_mem member
  · refine ⟨address, state, given, ?_⟩
    rw [sole, link, if_pos explain]
    rfl

theorem Block.plan_query (block : Block) (query : block.language = .psql) :
    block.plan = .forBlock block.config .structuredPlan ∧ block.plan.inline = false := by
  rw [Block.plan, query, ArtifactPlan.forBlock_inline]
  exact ⟨rfl, rfl⟩

namespace ArtifactPlan

variable {config : BlockConfig}

theorem kinds_subset (config : BlockConfig) :
    ∀ kind ∈ (forBlock config .structuredPlan).kinds, kind ∈ queryKinds := by
  unfold forBlock structuredPlan isVisualized
  cases config.showResult <;> cases config.explain <;> cases config.flamegraph <;> decide

theorem kinds_explain (explain : config.explain = true) :
    (forBlock config .structuredPlan).kinds =
      if config.showResult then
        [.resultFence] ++ [.planLink] ++ (if config.flamegraph then [.flamegraph] else [])
      else [.planLink] ++ (if config.flamegraph then [.flamegraph] else []) ++ [.resultFence] := by
  unfold forBlock structuredPlan isVisualized
  rw [explain]
  cases config.showResult <;> cases config.flamegraph <;> rfl

end ArtifactPlan

namespace QueryParts

variable {config before : BlockConfig} {artifacts : List Text} {rows links pictures : List Written}
  {artifact : Written}

theorem kind_row (parts : QueryParts before artifacts rows links pictures)
    (member : artifact ∈ rows) : artifact.kind = .resultFence := by
  have among : artifact.kind ∈ rows.map Written.kind := List.mem_map_of_mem member
  rw [parts.shown] at among
  split at among
  · exact List.mem_singleton.mp among
  · simp at among

theorem kind_link (parts : QueryParts before artifacts rows links pictures)
    (member : artifact ∈ links) : artifact.kind = .planLink := by
  have among : artifact.kind ∈ links.map Written.kind := List.mem_map_of_mem member
  rw [parts.linked] at among
  split at among
  · exact List.mem_singleton.mp among
  · simp at among

theorem kind_picture (parts : QueryParts before artifacts rows links pictures)
    (member : artifact ∈ pictures) :
    artifact.kind = .flamegraph ∧ before.flamegraph = true := by
  have among := parts.pictured.subset (List.mem_map_of_mem member)
  split at among
  · rename_i flamegraph
    exact ⟨List.mem_singleton.mp among, flamegraph⟩
  · simp at among

theorem kind_mem (parts : QueryParts before artifacts rows links pictures) :
    ∀ artifact ∈ rows ++ links ++ pictures, artifact.kind ∈ queryKinds := by
  intro artifact member
  rcases List.mem_append.mp member with member | member
  · rcases List.mem_append.mp member with member | member
    · rw [parts.kind_row member]
      decide
    · rw [parts.kind_link member]
      decide
  · rw [(parts.kind_picture member).1]
    decide

/-- Written under the options `before`, the rows stand first. So a query that now looks for its link
before its rows, and hides them, takes them and comes to its end there. -/
def left (config before : BlockConfig) (links pictures : List Written) : List Written :=
  if before.showResult && !config.showResult then links ++ pictures
  else if config.flamegraph then [] else pictures

theorem left_subset (config before : BlockConfig) (links pictures : List Written) :
    ∀ artifact ∈ left config before links pictures, artifact ∈ links ++ pictures := by
  intro artifact member
  unfold left at member
  split at member
  · exact member
  · split at member
    · simp at member
    · exact List.mem_append_right _ member

theorem ordered (parts : QueryParts before artifacts rows links pictures)
    (explain : config.explain = true)
    (kept : (before.showResult && !config.showResult) = false) :
    ((rows ++ links ++ (if config.flamegraph then pictures else [])).map Written.kind).Sublist
      (ArtifactPlan.forBlock config .structuredPlan).kinds := by
  have linked : (links.map Written.kind).Sublist [.planLink] := by
    rw [parts.linked]
    split <;> simp
  have pictured : ((if config.flamegraph then pictures else []).map Written.kind).Sublist
      (if config.flamegraph then [.flamegraph] else []) := by
    split
    · refine parts.pictured.trans ?_
      split <;> simp
    · exact List.nil_sublist _
  rw [ArtifactPlan.kinds_explain explain, List.map_append, List.map_append, parts.shown]
  by_cases shown : config.showResult = true
  · rw [if_pos shown]
    refine .append (.append ?_ linked) pictured
    split <;> simp
  · have bare : ¬ before.showResult = true := by simpa [shown] using kept
    rw [if_neg shown, if_neg bare, List.nil_append]
    exact (linked.append pictured).trans (List.sublist_append_left _ _)

theorem closed_beyond (parts : QueryParts before artifacts rows links pictures)
    (explain : config.explain = true) {rest : List Line}
    (clear : ∀ line, rest.head? = some line → ∀ kind ∈ queryKinds, kind.opens line = false) :
    ∀ line,
      (Written.spread (if config.flamegraph then [] else pictures) ++ rest).head? = some line →
      ∀ kind ∈ (ArtifactPlan.forBlock config .structuredPlan).kinds, kind.opens line = false := by
  intro line first kind owned
  have within := ArtifactPlan.kinds_subset config kind owned
  by_cases drawn : config.flamegraph = true
  · rw [if_pos drawn] at first
    exact clear line first kind within
  · rw [if_neg drawn] at first
    cases pictures with
    | nil => exact clear line first kind within
    | cons picture more =>
      obtain ⟨head, others, same, opens⟩ := Written.spread_head picture more rest
      rw [same, List.head?_cons, Option.some.injEq] at first
      rw [first, (parts.kind_picture List.mem_cons_self).1] at opens
      have apart : kind.Apart .flamegraph := by
        rw [ArtifactPlan.kinds_explain explain, if_neg drawn] at owned
        revert owned
        cases config.showResult <;> cases kind <;> decide
      exact apart.symm.opens opens

/-- What a query that shows its plan takes of the artifacts that were written under other options,
and what it leaves. -/
theorem inspect (parts : QueryParts before artifacts rows links pictures)
    (explain : config.explain = true) {blanks rest : List Line}
    (white : ∀ line ∈ blanks, line.isBlank = true)
    (clear : ∀ line, rest.head? = some line →
      line.isBlank = false ∧ ∀ kind ∈ queryKinds, kind.opens line = false)
    (due : (Decision.inspect config (.forBlock config .structuredPlan)
      (blanks ++ (Written.spread (rows ++ links ++ pictures) ++ rest))).execute = true) :
    let decision := Decision.inspect config (.forBlock config .structuredPlan)
      (blanks ++ (Written.spread (rows ++ links ++ pictures) ++ rest))
    decision.separator = blanks.head? ∧ decision.passThrough = [] ∧
      decision.unread = Written.spread (left config before links pictures) ++ rest := by
  intro decision
  have apart := ArtifactPlan.forBlock_kinds_apart config .structuredPlan
  have lead := fun line first => (clear line first).1
  by_cases misled : (before.showResult && !config.showResult) = true
  · -- Before the rows it looks in vain, and they are what it looks for last.
    have shown := parts.shown
    simp only [Bool.and_eq_true, Bool.not_eq_true'] at misled
    rw [if_pos misled.1] at shown
    obtain ⟨row, others, rfl, result, none⟩ := List.map_eq_cons_iff.mp shown
    obtain rfl : others = [] := List.map_eq_nil_iff.mp none
    have kinds := ArtifactPlan.kinds_explain explain
    rw [if_neg (by simp [misled.2])] at kinds
    have lines : Written.spread ([row] ++ links ++ pictures) ++ rest =
        row.lines ++ (Written.spread (links ++ pictures) ++ rest) := by
      simp [Written.spread]
    rw [lines] at due
    simp only [decision, lines, left, misled]
    exact Decision.inspect_result kinds apart result white (Written.lead_spread lead) due
  · have kept := Bool.eq_false_iff.mpr misled
    have lines : Written.spread (rows ++ links ++ pictures) ++ rest =
        Written.spread (rows ++ links ++ (if config.flamegraph then pictures else [])) ++
          (Written.spread (if config.flamegraph then [] else pictures) ++ rest) := by
      split <;> simp [Written.spread]
    rw [lines] at due
    simp only [decision, lines, left, kept]
    exact Decision.inspect_dropped apart (parts.ordered explain kept) white
      (fun line first => ⟨Written.lead_spread lead line first,
        parts.closed_beyond explain (fun line first => (clear line first).2) line first⟩) due

end QueryParts

end Runbook
