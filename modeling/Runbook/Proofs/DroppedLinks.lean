import Runbook.Proofs.Verdict

/-! What the lines that a decision drops are dropped for. Every one of them belongs to a whole
artifact of some kind, or is a blank line before, between or behind the artifacts. What is taken for
a plan link begins with a label of plan links, line by line; but the short label is no link yet. -/
namespace Runbook

/-- Lines that are taken together, and the kind of artifact that they are taken for. Blank lines
outside of artifacts are taken for none. -/
structure Taken where
  kind : Option ArtifactKind
  lines : List Line
  deriving DecidableEq, Repr

/-- The lines are a whole artifact of one of the kinds, or blank. -/
def Taken.IsFor (kinds : List ArtifactKind) (taken : Taken) : Prop :=
  match taken.kind with
  | some kind => kind ∈ kinds ∧ kind.IsWhole taken.lines
  | none => ∀ line ∈ taken.lines, line.isBlank = true

namespace Search

variable {kinds owned : List ArtifactKind} {kind : ArtifactKind} {search : Search}

/-- What the search keeps in addition when it looks for one more kind. -/
def gains (search : Search) (kind : ArtifactKind) : List Taken :=
  if search.trailing.isEmpty then
    ⟨none, search.unread.takeWhile Line.isBlank⟩ ::
      match search.unread.dropWhile Line.isBlank with
      | [] => []
      | line :: more =>
        if kind.opens line && (kind.takeBody (line :: more)).complete then
          [⟨some kind, (kind.takeBody (line :: more)).lines⟩]
        else []
  else []

theorem takeNext_gains (search : Search) (kind : ArtifactKind) :
    (search.takeNext kind).kept = search.kept ++ (search.gains kind).flatMap Taken.lines := by
  unfold takeNext gains
  split
  · cases shape : search.unread.dropWhile Line.isBlank with
    | nil => simp [take, skipBlank, shape]
    | cons line more =>
      have behind : search.skipBlank.unread = line :: more := shape
      by_cases opens : kind.opens line = true
      · rw [take_of_opens behind opens]
        by_cases complete : (kind.takeBody (line :: more)).complete = true
        · simp [opens, complete, skipBlank]
        · simp [complete, skipBlank]
      · rw [take_of_not_opens (by simp [behind, opens])]
        simp [opens, skipBlank]
  · simp

theorem isFor_of_mem_gains {taken : Taken} (member : taken ∈ search.gains kind)
    (known : kind ∈ owned) : taken.IsFor owned := by
  unfold gains at member
  split at member
  · rcases List.mem_cons.mp member with rfl | member
    · exact fun line member => List.all_eq_true.mp List.all_takeWhile line member
    · split at member
      · contradiction
      · split at member
        · rename_i line more shape found
          simp only [Bool.and_eq_true] at found
          obtain rfl := List.mem_singleton.mp member
          rcases ArtifactKind.takeBody_shape found.1 with ⟨-, whole⟩ | ⟨cut, -⟩
          · exact ⟨known, whole⟩
          · rw [cut] at found
            exact absurd found.2 (by simp)
        · contradiction
  · contradiction

/-- What the search keeps in addition when it looks for all of the kinds in order. -/
def takings : List ArtifactKind → Search → List Taken
  | [], _ => []
  | kind :: kinds, search => search.gains kind ++ takings kinds (search.takeNext kind)

theorem foldl_takings (kinds : List ArtifactKind) (search : Search) :
    (kinds.foldl takeNext search).kept =
      search.kept ++ (takings kinds search).flatMap Taken.lines := by
  induction kinds generalizing search with
  | nil => simp [takings]
  | cons kind kinds ih =>
    rw [List.foldl_cons, ih, takeNext_gains, takings, List.flatMap_append, List.append_assoc]

theorem isFor_of_mem_takings {taken : Taken} (member : taken ∈ takings kinds search)
    (known : ∀ kind ∈ kinds, kind ∈ owned) : taken.IsFor owned := by
  induction kinds generalizing search with
  | nil => contradiction
  | cons kind kinds ih =>
    rcases List.mem_append.mp member with member | member
    · exact isFor_of_mem_gains member (known kind List.mem_cons_self)
    · exact ih member fun other listed => known other (List.mem_cons_of_mem _ listed)

end Search

namespace ArtifactPlan

theorem planLink_mem_kinds {config : BlockConfig} {kind : ResultKind}
    (owned : .planLink ∈ (forBlock config kind).kinds) :
    config.explain = true ∧ kind = .structuredPlan := by
  revert owned
  unfold forBlock structuredPlan isVisualized
  cases kind <;> cases config.showResult <;> cases config.explain <;> cases config.flamegraph <;>
    decide

end ArtifactPlan

theorem ArtifactKind.IsWhole.opens {kind : ArtifactKind} {lines : List Line} {line : Line}
    (whole : kind.IsWhole lines) (linked : kind.isLinked = true) (member : line ∈ lines)
    (black : line.isBlank = false) : kind.opens line = true := by
  cases whole with
  | fenced fenced => rw [not_isLinked_of_isFenced fenced] at linked; contradiction
  | image => contradiction
  | linked _ opens more =>
    rcases List.mem_cons.mp member with rfl | member
    · exact opens
    · simpa [continues, black] using more line member

namespace Decision

variable {config : BlockConfig} {plan : ArtifactPlan} {content : Text} {following : List Line}

/-- The blank lines behind the artifacts that a run replaces. -/
def behind (plan : ArtifactPlan) (following : List Line) : List Line :=
  if (gathered plan following).stale && (gathered plan following).trailing.isEmpty then
    (gathered plan following).unread.takeWhile Line.isBlank
  else []

/-- What is dropped of the lines after a block that is decided on by them. -/
def drops (config : BlockConfig) (plan : ArtifactPlan) (following : List Line) : List Taken :=
  if (judged config plan following).1 then
    ⟨none, following.takeWhile Line.isBlank⟩ ::
      Search.takings plan.kinds { unread := following.dropWhile Line.isBlank } ++
      [⟨none, behind plan following⟩]
  else [⟨none, (following.takeWhile Line.isBlank).tail⟩]

def dropped (config : BlockConfig) (plan : ArtifactPlan) (content : Text)
    (following : List Line) : List Taken :=
  if config.run && !Text.isBlankText content && !(plan.inline && Annotation.isAnnotated content)
  then drops config plan following
  else []

theorem inspect_drops (config : BlockConfig) (plan : ArtifactPlan) (following : List Line) :
    (inspect config plan following).consumed =
      (drops config plan following).flatMap Taken.lines := by
  rw [inspect_eq, ofSearch, drops]
  dsimp only
  split
  · rename_i due
    have all : (gathered plan following).kept = (Search.takings plan.kinds
        { unread := following.dropWhile Line.isBlank }).flatMap Taken.lines := by
      rw [gathered, Search.foldl_takings, List.nil_append]
    have kept : (found config plan following).kept =
        (gathered plan following).kept ++ behind plan following := by
      simp only [found, behind, due, Bool.true_and]
      split <;> simp [Search.skipBlank]
    simp [kept, all]
  · simp

theorem forBlock_dropped (config : BlockConfig) (plan : ArtifactPlan) (content : Text)
    (following : List Line) : (forBlock config plan content following).consumed =
      (dropped config plan content following).flatMap Taken.lines := by
  unfold forBlock dropped
  by_cases runs : config.run = true
  · by_cases empty : Text.isBlankText content = true
    · simp [runs, empty, untouched]
    · by_cases annotated : (plan.inline && Annotation.isAnnotated content) = true
      · simp [runs, empty, annotated, untouched]
      · simp [runs, empty, annotated, inspect_drops]
  · simp [runs, untouched]

theorem isFor_of_mem_dropped {taken : Taken}
    (member : taken ∈ dropped config plan content following) :
    taken.IsFor plan.kinds ∧
      (taken.kind ≠ none → (forBlock config plan content following).execute = true) := by
  unfold dropped at member
  split at member
  · rename_i counts
    simp only [Bool.and_eq_true, Bool.not_eq_true'] at counts
    obtain ⟨⟨runs, filled⟩, separate⟩ := counts
    have decided : forBlock config plan content following = inspect config plan following := by
      rw [forBlock, if_neg (by simp [runs]), if_neg (by simp [filled]), if_neg (by simp [separate])]
    have blanks (lines : List Line) : Taken.IsFor plan.kinds ⟨none, lines.takeWhile Line.isBlank⟩ :=
      fun line member => List.all_eq_true.mp List.all_takeWhile line member
    rw [decided, inspect_eq]
    unfold drops at member
    split at member
    · rename_i due
      refine ⟨?_, fun _ => due⟩
      rcases List.mem_append.mp member with member | member
      · rcases List.mem_cons.mp member with rfl | member
        · exact blanks following
        · exact Search.isFor_of_mem_takings member fun _ listed => listed
      · obtain rfl := List.mem_singleton.mp member
        unfold behind
        split
        · exact blanks _
        · exact fun line member => absurd member List.not_mem_nil
    · obtain rfl := List.mem_singleton.mp member
      exact ⟨fun line member => blanks following line (List.mem_of_mem_tail member), by simp⟩
  · contradiction

/-- The form of the links that the short label stands for. -/
def IsShortLink (line : Line) : Prop :=
  ∃ address rest,
    line.stripTerminator = ArtifactKind.shortPlanLinkLabel ++ '(' :: (address ++ ')' :: rest)

theorem opens_of_link {line : Line}
    (link : ArtifactKind.planLinkLabel <+: line.stripTerminator ∨ IsShortLink line) :
    ArtifactKind.planLink.opens line = true := by
  have label : ArtifactKind.planLinkLabel <+: line.stripTerminator ∨
      ArtifactKind.shortPlanLinkLabel <+: line.stripTerminator :=
    link.imp_right fun ⟨_, _, shape⟩ => ⟨_, shape.symm⟩
  simpa [ArtifactKind.opens] using label

/-- What a decision drops is whole artifacts that the block owns, and blank lines; of a block that
does not run, only blank lines. The other lines are copied or left unread. A line is dropped with a
plan link only behind a query block that runs and asks for its plan, and only if it is blank or
begins with one of the two labels. The links of both forms are told by these labels. -/
theorem forBlock_drops (config : BlockConfig) (result : ResultKind) (content : Text)
    (following : List Line) :
    let plan := ArtifactPlan.forBlock config result
    let decision := forBlock config plan content following
    decision.consumed = (dropped config plan content following).flatMap Taken.lines ∧
    (decision.execute = true →
      decision.consumed ++ decision.passThrough ++ decision.unread = following) ∧
    (∀ line, ArtifactKind.planLinkLabel <+: line.stripTerminator ∨ IsShortLink line →
      ArtifactKind.planLink.opens line = true) ∧
    ∀ taken ∈ dropped config plan content following, taken.IsFor plan.kinds ∧
      (taken.kind ≠ none → decision.execute = true) ∧
      (taken.kind = some .planLink → config.explain = true ∧ result = .structuredPlan ∧
        ∀ line ∈ taken.lines, line.isBlank = true ∨
          ArtifactKind.planLinkLabel <+: line.stripTerminator ∨
          ArtifactKind.shortPlanLinkLabel <+: line.stripTerminator) := by
  intro plan decision
  obtain ⟨blanks, kept, cut, division⟩ := forBlock_division config plan content following
  refine ⟨forBlock_dropped .., fun due => (division.executed due).1, fun _ => opens_of_link,
    fun taken member => ?_⟩
  obtain ⟨owned, due⟩ := isFor_of_mem_dropped member
  refine ⟨owned, due, fun link => ?_⟩
  rw [Taken.IsFor, link] at owned
  obtain ⟨owned, whole⟩ := owned
  obtain ⟨explain, query⟩ := ArtifactPlan.planLink_mem_kinds owned
  refine ⟨explain, query, fun line listed => ?_⟩
  by_cases white : line.isBlank = true
  · exact .inl white
  · have opens := whole.opens rfl listed (Bool.eq_false_iff.mpr white)
    simpa [ArtifactKind.opens] using Or.inr opens

/-- Behind the rows there are two links. The line that begins like a link among the rows goes with
the rows. -/
theorem forBlock_drops_links :
    let config : BlockConfig := {
      language := "psql", run := true, rerun := true, explain := true, flamegraph := false
      showResult := true }
    let rows : List Line := ["```RESULT\n".toList, "[Dalibo] drew it\n".toList, "```\n".toList]
    let links : List Line := ["**Dalibo Visualization:** [View Query Plan](/new)\n".toList,
      "\n".toList, "[Dalibo](/old)\n".toList]
    let following := ["\n".toList] ++ rows ++ ["\n".toList] ++ links ++ ["Both.\n".toList]
    let decision := forBlock config (.forBlock config .structuredPlan) "SELECT 1;\n" following
    let dropped := dropped config (.forBlock config .structuredPlan) "SELECT 1;\n" following
    decision.execute = true ∧ ⟨some .resultFence, rows⟩ ∈ dropped ∧
      ⟨some .planLink, links⟩ ∈ dropped ∧
      decision.consumed ++ decision.passThrough ++ decision.unread = following ∧
      ∀ line ∈ links, line.isBlank = true ∨
        ArtifactKind.planLinkLabel <+: line.stripTerminator ∨
        ArtifactKind.shortPlanLinkLabel <+: line.stripTerminator := by
  intro config rows links following decision dropped
  have due : decision.execute = true := by decide +kernel
  have listed : ⟨some .planLink, links⟩ ∈ dropped := by decide +kernel
  obtain ⟨-, whole, -, law⟩ := forBlock_drops config .structuredPlan "SELECT 1;\n" following
  exact ⟨due, by decide +kernel, listed, whole due, ((law _ listed).2.2 rfl).2.2⟩

/-- The definition of a link that the text refers to elsewhere is dropped for a link of its own. -/
theorem forBlock_drops_definition :
    let config : BlockConfig := {
      language := "psql", run := true, rerun := false, explain := true, flamegraph := false
      showResult := false }
    let line : Line := "[Dalibo]: https://explain.dalibo.com\n"
    ⟨some .planLink, [line]⟩ ∈ dropped config (.forBlock config .structuredPlan) "SELECT 1;\n"
        ["\n".toList, line] ∧
      line.isBlank = false ∧ ¬ ArtifactKind.planLinkLabel <+: line.stripTerminator ∧
      ¬ IsShortLink line := by
  intro config line
  refine ⟨by decide +kernel, by decide, by decide, ?_⟩
  rintro ⟨address, rest, shape⟩
  have sign := congrArg (fun text => text[8]?) shape
  have colon : line.stripTerminator[8]? = some ':' := by decide
  have bracket : (ArtifactKind.shortPlanLinkLabel ++ '(' :: (address ++ ')' :: rest))[8]? =
      some '(' := rfl
  rw [colon, bracket] at sign
  exact absurd sign (by decide)

end Decision
end Runbook
