import Runbook.Proofs.Locality
import Runbook.Proofs.QueryArtifacts
import Runbook.Proofs.Spacing
import Runbook.Proofs.Verdict

/-! What becomes of the links behind a query that shows no rows. Every pass runs such a query and
drops the links that it finds, before the plan is submitted; so a link stands there afterwards
if the service has given one. -/
namespace Runbook

theorem Line.stripTerminator_append (text : Text) {c : Char} (sign : c ≠ '\n' ∧ c ≠ '\r')
    (rest : Text) : ∃ more, stripTerminator (text ++ c :: rest) = text ++ c :: more := by
  refine ⟨(rest.reverse.dropWhile fun c => c == '\n' || c == '\r').reverse, ?_⟩
  unfold stripTerminator
  rw [List.reverse_append, List.reverse_cons, List.append_assoc, List.dropWhile_append]
  split
  · rename_i nothing
    simp [List.isEmpty_iff.mp nothing, sign.1, sign.2]
  · simp

theorem Text.lines_lead {label : Text} (single : '\n' ∉ label) (nonempty : label ≠ [])
    (rest : Text) : ∃ first more, lines (label ++ rest) = (label ++ first) :: more := by
  induction label with
  | nil => contradiction
  | cons c label ih =>
    obtain ⟨differs, single⟩ : '\n' ≠ c ∧ '\n' ∉ label := by simpa using single
    rw [List.cons_append, lines, if_neg (Ne.symm differs)]
    by_cases empty : label = []
    · subst empty
      cases lines ([] ++ rest) with
      | nil => exact ⟨[], [], rfl⟩
      | cons line more => exact ⟨line, more, rfl⟩
    · obtain ⟨first, more, cut⟩ := ih single empty
      exact ⟨first, more, by rw [cut]; rfl⟩

theorem ArtifactKind.opens_planLinkLabel (rest : Text) :
    planLink.opens (planLinkLabel ++ rest) = true := by
  have label : planLinkLabel = "**Dalibo Visualization:*".toList ++ ['*'] := by decide
  obtain ⟨more, strip⟩ := Line.stripTerminator_append "**Dalibo Visualization:*".toList
    (show '*' ≠ '\n' ∧ '*' ≠ '\r' by decide) rest
  have stripped : Line.stripTerminator (planLinkLabel ++ rest) = planLinkLabel ++ more := by
    rw [label, List.append_assoc, List.append_assoc]
    exact strip
  rw [opens, stripped]
  simp

/-- A link that was given heads the trail of a query, whatever stands in its address. -/
theorem trail_planLink (address behind : Text) :
    ∃ text more, trail (Text.lines (planLink address ++ behind)) = (.planLink, text) :: more := by
  obtain ⟨rest, form⟩ :
      ∃ rest, planLink address ++ behind = ArtifactKind.planLinkLabel ++ rest := by
    unfold planLink
    simp only [List.append_assoc]
    exact ⟨_, rfl⟩
  have single : '\n' ∉ ArtifactKind.planLinkLabel := by decide
  obtain ⟨first, more, cut⟩ := Text.lines_lead single (by decide) rest
  have opens := ArtifactKind.opens_planLinkLabel first
  rw [form, cut, trail, find_opens queryKinds_apart (by decide) opens]
  exact ⟨_, _, rfl⟩

namespace Search

variable {search : Search} {kind : ArtifactKind} {kinds : List ArtifactKind}

theorem kept_take (search : Search) (kind : ArtifactKind) :
    search.kept <+: (search.take kind).kept := by
  unfold take
  split
  · exact List.prefix_refl _
  · split
    · dsimp only
      split
      · exact List.prefix_append _ _
      · exact List.prefix_refl _
    · exact List.prefix_refl _

theorem kept_skipBlank (search : Search) : search.kept <+: search.skipBlank.kept :=
  List.prefix_append _ _

theorem kept_foldl (search : Search) (kinds : List ArtifactKind) :
    search.kept <+: (kinds.foldl takeNext search).kept := by
  induction kinds generalizing search with
  | nil => exact List.prefix_refl _
  | cons kind kinds ih =>
    refine List.IsPrefix.trans ?_ (ih (search.takeNext kind))
    unfold takeNext
    split
    · exact search.kept_skipBlank.trans (kept_take _ kind)
    · exact List.prefix_refl _

end Search

namespace Decision

variable {plan : ArtifactPlan} {following : List Line}

theorem found_primary (config : BlockConfig) (stands : plan.primary.Stands following) :
    ∃ artifact, plan.primary.IsWhole artifact ∧
      artifact <+: (found config plan following).kept := by
  obtain ⟨artifact, rest, shape, whole⟩ := stands
  obtain ⟨first, more, rfl, opens⟩ := whole.head
  have complete := ArtifactKind.takeBody_complete whole rest
  have primary : (Search.take plan.primary { unread := following.dropWhile Line.isBlank }).kept =
      (plan.primary.takeBody (first :: more ++ rest)).lines := by
    rw [shape, Search.take_of_opens rfl opens]
    simp only [List.cons_append] at complete ⊢
    simp [complete]
  refine ⟨(plan.primary.takeBody (first :: more ++ rest)).lines, ?_, ?_⟩
  · rw [List.cons_append] at complete ⊢
    rcases ArtifactKind.takeBody_shape opens with ⟨-, found⟩ | ⟨cut, -⟩
    · exact found
    · simp [cut] at complete
  · have all := Search.kept_foldl
      (Search.take plan.primary { unread := following.dropWhile Line.isBlank }) plan.secondaries
    rw [← gathered_eq, primary] at all
    unfold found
    dsimp only
    split
    · exact all.trans (Search.kept_skipBlank _)
    · exact all

end Decision

namespace Pass

variable {services : Services σ} {state next : σ} {document output : Text}
  {before after : List Segment} {block : Block} {outcome : Outcome}

/-- What a pass has done when it comes to a block that runs, and then does with it. -/
theorem ofDocument_reaches (done : (ofDocument services state document).failure = none)
    (cut : scanned document = before ++ .block block :: after)
    (due : block.decision.execute = true)
    (called : services.execute block.request (run services state before).state =
      (.ok outcome, next)) :
    let visuals := Splice.visuals block.config block.language.resultKind outcome
    let answered := services.answer visuals next
    (ofDocument services state document).pieces = (run services state before).pieces ++
      .executed block outcome
        (Splice.render block.config block.language outcome block.source answered.1) ::
      (run services answered.2 after).pieces := by
  intro visuals answered
  rw [ofDocument_eq, cut] at done ⊢
  cases earlier : (run services state before).failure with
  | some failure =>
    rw [run_append_of_failed earlier, earlier] at done
    contradiction
  | none =>
    rw [run_append earlier, run_executed due called, Run.prepend_prepend]
    simp [Run.prepend, visuals, answered]

/-- A block that runs and holds no results of its own has divided the lines behind it from the
first one that is not blank. -/
theorem scanned_division (member : .block block ∈ scanned document)
    (due : block.decision.execute = true) (separate : block.plan.inline = false) :
    let following := block.read ++ block.decision.unread
    Decision.Division block.plan following block.decision (following.takeWhile Line.isBlank)
      (Decision.found block.config block.plan following).kept
      (Decision.found block.config block.plan following).trailing := by
  intro following
  have division := Decision.inspect_division block.config block.plan following
  rwa [← scanned_inspect member due separate] at division

theorem separator_of_stands {kind : ArtifactKind} (member : .block block ∈ scanned document)
    (due : block.decision.execute = true) (separate : block.plan.inline = false)
    (stands : kind.Stands (block.read ++ block.decision.unread)) :
    Line.isBlank (block.decision.separator.getD ['\n']) = true ∧
      Line.IsEnded (block.decision.separator.getD ['\n']) := by
  cases found : block.decision.separator with
  | none => exact ⟨by decide, Line.isEnded_newline⟩
  | some line =>
    have division := scanned_division member due separate
    have among := List.mem_of_head? (division.separator.symm.trans found)
    obtain ⟨before, after, cut⟩ := List.append_of_mem member
    obtain ⟨artifact, rest, shape, whole⟩ := stands
    obtain ⟨first, more, rfl, -⟩ := whole.head
    have valid := Text.areLines_lines document
    rw [scanned_lines cut] at valid
    have behind := valid.of_append.of_append.tail
    rw [← List.takeWhile_append_dropWhile (p := Line.isBlank)
      (l := block.read ++ block.decision.unread), shape] at behind
    exact ⟨division.white line among, behind.ended_of_append (by simp) line among⟩

theorem consumed_of_stands (member : .block block ∈ scanned document)
    (due : block.decision.execute = true) (separate : block.plan.inline = false)
    (stands : block.plan.primary.Stands (block.read ++ block.decision.unread)) :
    ∃ artifact, block.plan.primary.IsWhole artifact ∧
      artifact <+: block.decision.consumed.dropWhile Line.isBlank := by
  have division := scanned_division member due separate
  obtain ⟨artifact, whole, front⟩ := Decision.found_primary block.config stands
  refine ⟨artifact, whole, ?_⟩
  rw [division.consumed, if_pos due, List.dropWhile_append_of_pos division.white]
  obtain ⟨first, more, rfl, opens⟩ := whole.head
  obtain ⟨others, kept⟩ := front
  rw [← kept, List.cons_append,
    List.dropWhile_cons_of_neg (by simp [ArtifactKind.not_isBlank_of_opens opens])]
  exact ⟨others, rfl⟩

end Pass

/-- A query that shows a link and no rows looks for the link first, and always renews it. -/
theorem ArtifactPlan.forBlock_linked {config : BlockConfig} (explained : config.explain = true)
    (hidden : config.showResult = false) :
    let plan := forBlock config .structuredPlan
    plan.primary = .planLink ∧ plan.autoReplace = true ∧ plan.inline = false := by
  simp [forBlock, isVisualized, structuredPlan, explained, hidden]

theorem Splice.render_linked {config : BlockConfig} {outcome : Outcome} {answers : Answers}
    (explained : config.explain = true) (hidden : config.showResult = false)
    (success : outcome.isSuccess = true) (source : Text) :
    render config .psql outcome source answers =
      { artifacts :=
        (answers.link.map planLink).toList ++ (answers.picture.map flamegraphImage).toList } := by
  have visible : (ArtifactPlan.forBlock config .structuredPlan).hidden = false := by
    simp [ArtifactPlan.forBlock, ArtifactPlan.isVisualized, ArtifactPlan.structuredPlan, explained,
      hidden]
  rw [render, if_neg (by simpa [Language.resultKind] using visible)]
  simp [Language.resultKind, planArtifacts, hidden, success]

theorem Services.answer_link {config : BlockConfig} {outcome : Outcome} (services : Services σ)
    (explained : config.explain = true) (plan : outcome.IsPlan) (state : σ) :
    (services.answer (Splice.visuals config .structuredPlan outcome) state).1.link =
      (services.submit (Text.trim outcome.stdout) state).1 := by
  have submit := (Splice.visuals_plan config plan).1
  rw [if_pos explained] at submit
  simp only [answer, ask, submit]

namespace Pass

variable {services : Services σ} {state next : σ} {document output : Text}
  {before after : List Segment} {block : Block} {outcome : Outcome}

/-- A query that shows a link and no rows runs with every pass, and the links that stand first
behind it are dropped. What it leaves in their place is the link that the service has given, if it
has given one; then that link heads what trails the block. -/
theorem ofDocument_relinked (done : (ofDocument services state document).result = .ok output)
    (cut : scanned document = before ++ .block block :: after)
    (query : block.language = .psql) (runs : block.config.run = true)
    (filled : Text.isBlankText block.content = false) (explained : block.config.explain = true)
    (hidden : block.config.showResult = false)
    (stands : ArtifactKind.planLink.Stands (block.read ++ block.decision.unread))
    (called : services.execute block.request (run services state before).state =
      (.ok outcome, next))
    (plan : outcome.IsPlan) :
    let link := (services.submit (Text.trim outcome.stdout) next).1
    block.decision.execute = true ∧
      (∃ links, ArtifactKind.planLink.IsWhole links ∧
        links <+: block.decision.consumed.dropWhile Line.isBlank) ∧
      ∃ (picture : Option Text) (later : List Piece),
        (ofDocument services state document).pieces = (run services state before).pieces ++
          .executed block outcome { artifacts :=
            (link.map planLink).toList ++ (picture.map flamegraphImage).toList } :: later ∧
        (link.isSome = true → ∃ below text more,
          output = (run services state before).text ++ block.content ++
            (Text.terminated block.close ++ below) ∧
          trail (Text.lines below) = (.planLink, text) :: more) := by
  intro link
  obtain ⟨unbroken, -⟩ := Run.result_eq_ok_iff.mp done
  have member : .block block ∈ scanned document := by simp [cut]
  have planned : block.plan = ArtifactPlan.forBlock block.config .structuredPlan := by
    rw [Block.plan, query]
    rfl
  obtain ⟨primary, again, separate⟩ := ArtifactPlan.forBlock_linked explained hidden
  rw [← planned] at primary again separate
  have due : block.decision.execute = true := by
    refine (scanned_execute_iff member).mpr ⟨runs, filled, ?_⟩
    rw [if_neg (by simp [separate])]
    exact .inr (.inl again)
  have gap := separator_of_stands member due separate stands
  have dropped := consumed_of_stands member due separate (primary ▸ stands)
  rw [primary] at dropped
  let answers := (services.answer
    (Splice.visuals block.config block.language.resultKind outcome) next).1
  have given : answers.link = link := by
    have asked := services.answer_link explained plan next
    rwa [← show Language.psql.resultKind = .structuredPlan from rfl, ← query] at asked
  let artifacts := (link.map planLink).toList ++ (answers.picture.map flamegraphImage).toList
  have rendered : Splice.render block.config block.language outcome block.source answers =
      { artifacts } := by
    rw [query, Splice.render_linked explained hidden plan.success, given]
  have parts := ofDocument_reaches unbroken cut due called
  dsimp only at parts
  rw [rendered] at parts
  refine ⟨due, dropped, answers.picture, _, parts, fun answered => ?_⟩
  obtain ⟨address, found⟩ := Option.isSome_iff_exists.mp answered
  have first : artifacts = planLink address :: (answers.picture.map flamegraphImage).toList := by
    simp [artifacts, found]
  have text := text_executed done parts (show artifacts ≠ [] by simp [first])
  rw [first, List.flatten_cons] at text
  obtain ⟨line, more, heads⟩ := trail_planLink address
    ((answers.picture.map flamegraphImage).toList.flatten ++ (block.decision.passThrough.flatten ++
      _))
  refine ⟨_, line, more, text, ?_⟩
  rw [Text.lines_ended_append gap.2, trail_blank gap.1, List.append_assoc]
  exact heads

/-- An old link, and a new one in its place. -/
theorem ofDocument_relinked_new :
    let outcome : Outcome := {
      stdout := "[\x7b\"Plan\": \x7b\"Node Type\": \"Result\"\x7d\x7d]\n", exitCode := some 0 }
    let services := Services.constant outcome { link := some "/new" }
    let opened : OpenBlock := {
      language := .psql
      config := {
        language := "psql", run := true, rerun := false, explain := true, flamegraph := false
        showResult := false }
      body := ["SELECT 1;\n".toList] }
    let trailing := "\n**Dalibo Visualization:** [View Query Plan](/old)\n\n".toList
    let block := opened.close "```\n".toList (Text.lines trailing)
    let source := "```psql explain result=false\nSELECT 1;\n".toList
    let document := source ++ ("```\n".toList ++ trailing)
    let output := source ++
      ("```\n".toList ++ "\n**Dalibo Visualization:** [View Query Plan](/new)\n\n".toList)
    scanned document = [.copied "```psql explain result=false\n".toList] ++ .block block :: [] ∧
      outcome.IsPlan ∧ ArtifactKind.planLink.Stands (block.read ++ block.decision.unread) ∧
      (ofDocument services () document).result = .ok output ∧
      ∃ below text more, output = source ++ ("```\n".toList ++ below) ∧
        trail (Text.lines below) = (.planLink, text) :: more := by
  intro outcome services opened trailing block source document output
  have cut : scanned document =
      [.copied "```psql explain result=false\n".toList] ++ .block block :: [] := by
    decide +kernel
  have plan : outcome.IsPlan := ⟨by decide, by decide +kernel⟩
  have stands : ArtifactKind.planLink.Stands (block.read ++ block.decision.unread) :=
    ⟨["**Dalibo Visualization:** [View Query Plan](/old)\n".toList, "\n".toList], [],
      by decide +kernel, .linked rfl (by decide) (by decide)⟩
  have done : (ofDocument services () document).result = .ok output :=
    result_of_constant (by decide +kernel)
  obtain ⟨-, -, -, -, -, trails⟩ := ofDocument_relinked done cut rfl rfl (by decide) rfl rfl stands
    rfl plan
  exact ⟨cut, plan, stands, done, trails rfl⟩

/-- The same link, and a service that has none to give. -/
theorem ofDocument_not_relinked :
    let outcome : Outcome := {
      stdout := "[\x7b\"Plan\": \x7b\"Node Type\": \"Result\"\x7d\x7d]\n", exitCode := some 0 }
    let services := Services.constant outcome {}
    let opened : OpenBlock := {
      language := .psql
      config := {
        language := "psql", run := true, rerun := false, explain := true, flamegraph := false
        showResult := false }
      body := ["SELECT 1;\n".toList] }
    let trailing := "\n**Dalibo Visualization:** [View Query Plan](/old)\n\n".toList
    let block := opened.close "```\n".toList (Text.lines trailing)
    let source := "```psql explain result=false\nSELECT 1;\n".toList
    let document := source ++ ("```\n".toList ++ trailing)
    let output := source ++ ("```\n".toList ++ ['\n'])
    scanned document = [.copied "```psql explain result=false\n".toList] ++ .block block :: [] ∧
      outcome.IsPlan ∧ ArtifactKind.planLink.Stands (block.read ++ block.decision.unread) ∧
      (ofDocument services () document).result = .ok output ∧
      ¬ ∃ below text, output = source ++ ("```\n".toList ++ below) ∧
        (.planLink, text) ∈ trail (Text.lines below) := by
  intro outcome services opened trailing block source document output
  refine ⟨by decide +kernel, ⟨by decide, by decide +kernel⟩, ?_,
    result_of_constant (by decide +kernel), ?_⟩
  · exact ⟨["**Dalibo Visualization:** [View Query Plan](/old)\n".toList, "\n".toList], [],
      by decide +kernel, .linked rfl (by decide) (by decide)⟩
  · rintro ⟨below, text, split, among⟩
    obtain rfl : ['\n'] = below := List.append_cancel_left (List.append_cancel_left split)
    rw [show Text.lines ['\n'] = [['\n']] from rfl, trail_blank (by decide), trail] at among
    simp at among

end Pass
end Runbook
