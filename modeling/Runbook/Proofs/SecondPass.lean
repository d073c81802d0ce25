import Runbook.Proofs.Rewriting

/-! What a second pass decides on a block. Where the first one has left a block alone, so does the
second. Where it has run, the second reads what was written and then only what an artifact can
be made of. -/
namespace Runbook

namespace Search

/-- A search behind another one, whose finds it adds to its own. -/
def after (kept : List Line) (stale : Bool) (search : Search) : Search :=
  { search with kept := kept ++ search.kept, stale := stale || search.stale }

variable {kept : List Line} {stale : Bool}

theorem skipBlank_after (search : Search) :
    (search.after kept stale).skipBlank = search.skipBlank.after kept stale := by
  simp [skipBlank, after, List.append_assoc]

theorem take_after (search : Search) (kind : ArtifactKind) :
    (search.after kept stale).take kind = (search.take kind).after kept stale := by
  cases shape : search.unread with
  | nil => simp [take, after, shape]
  | cons line more =>
    by_cases opens : kind.opens line = true
    · have behind : (search.after kept stale).take kind = _ := take_of_opens shape opens
      rw [behind, take_of_opens shape opens]
      dsimp only
      split <;> simp [after, List.append_assoc]
    · simp [take, after, shape, opens]

theorem takeNext_after (search : Search) (kind : ArtifactKind) :
    (search.after kept stale).takeNext kind = (search.takeNext kind).after kept stale := by
  unfold takeNext
  by_cases whole : search.trailing.isEmpty = true
  · have whole' : (search.after kept stale).trailing.isEmpty = true := whole
    rw [if_pos whole, if_pos whole', skipBlank_after, take_after]
  · have cut : ¬ (search.after kept stale).trailing.isEmpty = true := whole
    rw [if_neg whole, if_neg cut]

/-- What was found before has no part in what is found next. -/
theorem foldl_takeNext_after (kinds : List ArtifactKind) (search : Search) :
    kinds.foldl takeNext (search.after kept stale) =
      (kinds.foldl takeNext search).after kept stale := by
  induction kinds generalizing search with
  | nil => rfl
  | cons kind kinds ih => rw [List.foldl_cons, List.foldl_cons, takeNext_after, ih]

theorem foldl_takeNext_divides (later : List ArtifactKind) {past : Search}
    (whole : past.trailing = []) :
    let last := later.foldl takeNext past
    ∃ read, Remains later read ∧ read ++ last.trailing ++ last.unread = past.unread ∧
      (last.trailing = [] ∨ last.unread = [] ∧ ∃ kind ∈ later, kind.IsCut last.trailing) := by
  intro last
  have start : past = after past.kept past.stale { unread := past.unread } := by
    cases past
    simp_all [after]
  have same : last =
      (later.foldl takeNext { unread := past.unread }).after past.kept past.stale := by
    rw [← foldl_takeNext_after, ← start]
  have accounts :=
    (Accounts.initial later past.unread).foldl fun kind (owned : kind ∈ later) => owned
  rw [same]
  exact ⟨_, accounts.kept, accounts.total, accounts.cut⟩

end Search

theorem Remains.mono {kinds others : List ArtifactKind} {lines : List Line}
    (remains : Remains kinds lines) (within : ∀ kind ∈ kinds, kind ∈ others) :
    Remains others lines := by
  induction remains with
  | nil => exact .nil
  | blank white _ ih => exact .blank white ih
  | artifact owned whole _ ih => exact .artifact (within _ owned) whole ih

theorem Remains.neutral {kinds : List ArtifactKind} {lines : List Line} {defaults : Defaults}
    (remains : Remains kinds lines) (unfenced : ∀ kind ∈ kinds, kind.isFenced = false) :
    ∀ line ∈ lines, Line.IsNeutral defaults line := by
  induction remains with
  | nil => simp
  | blank white _ ih =>
    intro line member
    rcases List.mem_cons.mp member with rfl | member
    · exact Line.neutral_of_blank white
    · exact ih line member
  | @artifact kind lines more owned whole _ ih =>
    intro line member
    rcases List.mem_append.mp member with member | member
    · cases whole with
      | fenced fenced =>
        rw [unfenced kind owned] at fenced
        contradiction
      | image opens =>
        rw [List.mem_singleton.mp member]
        exact Line.neutral_of_opens rfl opens
      | linked linked opens goesOn =>
        rcases List.mem_cons.mp member with rfl | member
        · exact Line.neutral_of_opens (unfenced kind owned) opens
        · rcases Bool.or_eq_true_iff.mp (goesOn line member) with blank | opens
          · exact Line.neutral_of_blank blank
          · exact Line.neutral_of_opens (unfenced kind owned) opens
    · exact ih line member

theorem Written.neutral_spread {defaults : Defaults} {written : List Written}
    (unfenced : ∀ artifact ∈ written, artifact.kind.isFenced = false) :
    ∀ line ∈ Written.spread written, Line.IsNeutral defaults line := by
  intro line member
  obtain ⟨artifact, among, member⟩ := List.mem_flatMap.mp member
  have blank : Line.isBlank ['\n'] = true := by decide
  have remains : Remains [artifact.kind] artifact.lines :=
    (Remains.ofArtifact List.mem_cons_self artifact.whole).append (.blank blank .nil)
  refine remains.neutral (fun kind owned => ?_) line member
  rw [List.mem_singleton.mp owned]
  exact unfenced artifact among

theorem Remains.of_blanks {kinds : List ArtifactKind} {rim lines : List Line}
    (remains : Remains kinds (rim ++ lines)) (white : ∀ line ∈ rim, line.isBlank = true) :
    Remains kinds lines := by
  induction rim with
  | nil => exact remains
  | cons line rim ih =>
    apply ih _ fun other member => white other (by simp [member])
    generalize whole : (line :: rim) ++ lines = all at remains
    cases remains with
    | nil => contradiction
    | blank _ more =>
      obtain ⟨-, rfl⟩ := List.cons.inj whole
      exact more
    | artifact owned shape more =>
      obtain ⟨first, others, rfl, opens⟩ := shape.head
      obtain ⟨rfl, -⟩ := List.cons.inj whole
      have black := ArtifactKind.not_isBlank_of_opens opens
      rw [white line (by simp)] at black
      contradiction

theorem Remains.ofContinued {kinds : List ArtifactKind} {lines : List Line}
    (continued : ∀ line ∈ lines, line.isBlank = true ∨
      ∃ kind ∈ kinds, kind.isLinked = true ∧ kind.opens line = true) : Remains kinds lines := by
  induction lines with
  | nil => exact .nil
  | cons line lines ih =>
    have later := ih fun other member => continued other (by simp [member])
    rcases continued line (by simp) with blank | ⟨kind, owned, linked, opens⟩
    · exact .blank blank later
    · have whole : kind.IsWhole [line] := .linked linked opens (by simp)
      exact .artifact owned whole later

namespace Decision

variable {config : BlockConfig} {plan : ArtifactPlan} {blanks start out following : List Line}

theorem inspect_blanks (white : ∀ line ∈ blanks, line.isBlank = true)
    (lead : ∀ line, start.head? = some line → line.isBlank = false) :
    inspect config plan (blanks ++ start) =
      ofSearch (judged config plan start) plan.primary blanks (found config plan start) := by
  obtain ⟨taken, dropped⟩ := span_blanks white lead
  have bare : start.dropWhile Line.isBlank = start := by
    simpa using (span_blanks (show ∀ line ∈ ([] : List Line), line.isBlank = true by simp) lead).2
  have judgement : judged config plan (blanks ++ start) = judged config plan start := by
    rw [judged, judged, dropped, bare]
  have all : gathered plan (blanks ++ start) = gathered plan start := by
    rw [gathered, gathered, dropped, bare]
  rw [inspect_eq, taken, judgement, found, found, judgement, all]

theorem inspect_again (stays : (inspect config plan following).execute = false)
    (same : out.head? = (inspect config plan following).unread.head?) :
    let first := inspect config plan following
    let second := inspect config plan (first.passThrough ++ out)
    second.execute = false ∧ second.passThrough = first.passThrough ∧ second.unread = out := by
  intro first second
  have division := inspect_division config plan following
  have accounts := found_accounts config plan following
  let blanks := following.takeWhile Line.isBlank
  let start := (found config plan following).kept ++ (found config plan following).trailing ++ out
  have lead : ∀ line, start.head? = some line → line.isBlank = false := by
    intro line begins
    have heads : start.head? = (following.dropWhile Line.isBlank).head? := by
      have unread :
          (inspect config plan following).unread = (found config plan following).unread := by
        rw [inspect_eq]
        rfl
      rw [← accounts.total]
      simp only [start, List.head?_append, same, unread]
    have black := List.head?_dropWhile_not Line.isBlank following
    rw [← heads, begins] at black
    simpa using black
  have through : second = inspect config plan (blanks.head?.toList ++ start) := by
    have passed : first.passThrough = _ := division.passThrough
    rw [if_neg (by rw [stays]; decide)] at passed
    simp only [second, passed, start, blanks, List.append_assoc]
  -- Over all the lines that were read, the decision is the one of the first pass.
  have framed : ofSearch (judged config plan start) plan.primary blanks (found config plan start) =
      { first with unread := out } := by
    rw [← inspect_blanks division.white lead]
    have total := division.total
    have stops : (inspect config plan (blanks ++ (found config plan following).kept ++
        (found config plan following).trailing ++ first.unread)).unread = first.unread := by
      rw [total]
    have frame := inspect_frame stops same
    rw [total] at frame
    rw [← frame]
    simp only [start, blanks, List.append_assoc]
  have white : ∀ line ∈ blanks.head?.toList, line.isBlank = true := by
    intro line member
    exact division.white line (List.mem_of_head? (Option.mem_toList.mp member))
  have judgement : (judged config plan start).1 = false :=
    (congrArg Decision.execute framed).trans stays
  rw [through, inspect_blanks white lead]
  refine ⟨judgement, ?_, congrArg Decision.unread framed⟩
  have passed := congrArg Decision.passThrough framed
  simp only [ofSearch, judgement] at passed ⊢
  rw [← passed]
  cases blanks <;> rfl

theorem forBlock_again {content : Text}
    (stays : (forBlock config plan content following).execute = false)
    (same : out.head? = (forBlock config plan content following).unread.head?) :
    let first := forBlock config plan content following
    let second := forBlock config plan content (first.passThrough ++ out)
    second.execute = false ∧ second.passThrough = first.passThrough ∧ second.unread = out := by
  rcases forBlock_cases config plan content with ⟨execute, reason, decided⟩ | decided
  · simp only [decided] at stays ⊢
    exact ⟨stays, rfl, rfl⟩
  · simp only [decided] at stays same ⊢
    exact inspect_again stays same

/-- Past what was written a decision reads blank lines and artifacts only, and none that is
fenced of a kind that was written. -/
theorem inspect_past_written (config : BlockConfig) {written : List Written} (rest : List Line)
    (apart : plan.kinds.Pairwise ArtifactKind.Apart)
    (ordered : (written.map Written.kind).Sublist plan.kinds)
    (white : ∀ line ∈ blanks, line.isBlank = true) :
    let decision := inspect config plan (blanks ++ (Written.spread written ++ rest))
    ∃ allowed rim read cut,
      (∀ kind ∈ allowed, kind ∈ plan.kinds ∧
        (kind.isLinked = true ∨ ∀ artifact ∈ written, artifact.kind.Apart kind)) ∧
      (∀ line ∈ rim, line.isBlank = true) ∧ Remains allowed read ∧
      (cut = [] ∨ decision.unread = [] ∧ ∃ kind ∈ allowed, kind.IsCut cut) ∧
      rim ++ rest = read ++ cut ++ decision.unread := by
  intro decision
  cases written with
  | nil =>
    have division := inspect_division config plan (blanks ++ rest)
    refine ⟨plan.kinds, blanks, _, _, fun kind owned => ⟨owned, .inr (by simp)⟩, white,
      .append (.ofBlanks division.white) division.remains, division.ended, division.total.symm⟩
  | cons artifact more =>
    let following := blanks ++ (Written.spread (artifact :: more) ++ rest)
    have lead := Written.spread_lead (List.cons_ne_nil artifact more) rest
    obtain ⟨later, past, passed, same⟩ := Search.foldl_takeNext_written apart ordered
      (show (Search.mk [] [] false (Written.spread (artifact :: more) ++ rest)).trailing = []
        from rfl)
      (show _ = [] ++ (Written.spread (artifact :: more) ++ rest) from rfl) (by simp)
    obtain ⟨rim, goesOn, bare, reads, split⟩ := passed.reads
    obtain ⟨read, remains, divided, ended⟩ := Search.foldl_takeNext_divides later passed.whole
    have all : gathered plan following = later.foldl Search.takeNext past := by
      rw [gathered, (span_blanks white lead).2, same]
    obtain ⟨trailing, extra, beyond, last, stops⟩ := found_beyond config plan following
    have unread : decision.unread = (found config plan following).unread := by
      simp only [decision, inspect_eq, ofSearch, following]
    rw [← all] at divided ended
    let linked := plan.kinds.filter ArtifactKind.isLinked
    have goesOn_remains : Remains (later ++ linked) goesOn := by
      apply Remains.ofContinued
      intro line member
      rcases reads line member with blank | ⟨kind, owned, goes, opens⟩
      · exact .inl blank
      · exact .inr ⟨kind, by simp [linked, owned, goes], goes, opens⟩
    refine ⟨later ++ linked, rim, goesOn ++ (read ++ extra), (gathered plan following).trailing,
      ?_, bare, ?_, ?_, ?_⟩
    · intro kind member
      rcases List.mem_append.mp member with looked | goes
      · exact ⟨passed.owned kind looked,
          .inr fun other among => passed.apart other among kind looked⟩
      · obtain ⟨owned, goes⟩ := List.mem_filter.mp goes
        exact ⟨owned, .inl goes⟩
    · refine goesOn_remains.append (.append (remains.mono ?_) (.ofBlanks beyond))
      exact fun kind looked => List.mem_append_left _ looked
    · rcases ended with whole | ⟨nothing, kind, looked, cut⟩
      · exact .inl whole
      · rw [nothing] at last
        rw [unread]
        exact .inr
          ⟨(List.append_eq_nil_iff.mp last.symm).2, kind, List.mem_append_left _ looked, cut⟩
    · rw [split, ← divided, last, unread]
      rcases stops with nothing | whole
      · simp [nothing]
      · simp [whole]

/-- Before a line that no kind of the plan begins with, a decision reads blank lines only. -/
theorem inspect_barrier (config : BlockConfig) {rest : List Line}
    (white : ∀ line ∈ blanks, line.isBlank = true)
    (barrier : ∀ line, rest.head? = some line →
      line.isBlank = false ∧ ∀ kind ∈ plan.kinds, kind.opens line = false) :
    ∃ left, (∀ line ∈ left, line.isBlank = true) ∧
      (inspect config plan (blanks ++ rest)).unread = left ++ rest := by
  have dropped := (span_blanks white fun line first => (barrier line first).1).2
  obtain ⟨-, rim, bare, unread⟩ := Search.foldl_takeNext_idle
    (show (Search.mk [] [] false rest).trailing = [] from rfl)
    (show _ = [] ++ rest from rfl) (by simp) barrier
  obtain ⟨-, extra, beyond, last, -⟩ := found_beyond config plan (blanks ++ rest)
  rw [gathered, dropped, unread] at last
  obtain ⟨left, rfl, shape⟩ := split_before last beyond fun line first => by
    simp [(barrier line first).1]
  refine ⟨left, fun line member => bare line (by simp [member]), ?_⟩
  rw [inspect_eq]
  exact shape

end Decision

/-- Where a second pass goes on after a block. It has read lines of the document that stood behind
the block, or some blank lines fewer than the first pass, or there is no closing fence any more. -/
theorem unread_cases {rim read cut unread out : List Line}
    (bare : ∀ line ∈ rim, line.isBlank = true)
    (ended : cut = [] ∨ out = [] ∧ ∀ line ∈ cut, Fence.isClose line = false)
    (split : rim ++ (cut ++ out) = read ++ unread) :
    (∃ beyond, read = rim ++ beyond ∧ out = beyond ++ unread) ∨
      (∃ left, (∀ line ∈ left, line.isBlank = true) ∧ unread = left ++ out) ∨
      out = [] ∧ ∀ line ∈ unread, Fence.isClose line = false := by
  rcases ended with rfl | ⟨rfl, unclosed⟩
  · rw [List.nil_append] at split
    rcases List.append_eq_append_iff.mp split with ⟨beyond, reads, tail⟩ | ⟨left, rfl, tail⟩
    · exact .inl ⟨beyond, reads, tail⟩
    · exact .inr (.inl ⟨left, fun line member => bare line (by simp [member]), tail⟩)
  · refine .inr (.inr ⟨rfl, ?_⟩)
    intro line member
    have among : line ∈ rim ++ (cut ++ []) := by
      rw [split]
      exact List.mem_append_right _ member
    rw [List.append_nil] at among
    rcases List.mem_append.mp among with blank | cut
    · exact Line.not_isClose_of_blank (bare line blank)
    · exact unclosed line cut

theorem Rewrites.decision_again {defaults : Defaults} {writes : Block → List Line → Prop}
    {block : OpenBlock} {following out : List Line}
    (rewrites : Rewrites defaults writes .outside (block.decision following).unread out)
    (stays : (block.decision following).execute = false) :
    (block.decision ((block.decision following).passThrough ++ out)).execute = false ∧
      (block.decision ((block.decision following).passThrough ++ out)).passThrough =
        (block.decision following).passThrough ∧
      (block.decision ((block.decision following).passThrough ++ out)).unread = out :=
  Decision.forBlock_again stays rewrites.head?

/-- What a block that has run passes on is nothing, or all there is left, without a closing
fence in it. -/
theorem Rewrites.passed_on {defaults : Defaults} {writes : Block → List Line → Prop}
    {block : OpenBlock} {following out : List Line}
    (rewrites : Rewrites defaults writes .outside (block.decision following).unread out)
    (due : (block.decision following).execute = true) :
    (block.decision following).passThrough = [] ∨
      out = [] ∧ ∀ line ∈ (block.decision following).passThrough, Fence.isClose line = false := by
  obtain ⟨blanks, kept, cut, division⟩ := Decision.forBlock_division block.config
    (.forBlock block.config block.language.resultKind) block.body.flatten following
  have through : (block.decision following).passThrough = cut :=
    division.passThrough.trans (if_pos due)
  rw [through]
  rcases division.ended with whole | ⟨nothing, kind, -, broken⟩
  · exact .inl whole
  · have nothing : (block.decision following).unread = [] := nothing
    rw [nothing] at rewrites
    exact .inr ⟨rewrites.nil, broken.unclosed⟩

end Runbook
