import Runbook.Proofs.Lookahead
import Runbook.Proofs.Pieces
import Runbook.Proofs.Written

/-! The search after a block recognises what a run has written there. It takes the artifacts of
the plan one by one, and beyond them only blank lines and lines that go on a link or a
flamegraph. -/
namespace Runbook

variable {kinds later : List ArtifactKind} {kind : ArtifactKind} {written : List Written}
  {artifact : Written} {rim rest read unread more : List Line} {search : Search}

theorem split_before {p : Line → Prop} (same : rim ++ rest = read ++ unread)
    (reads : ∀ line ∈ read, p line) (barrier : ∀ line, rest.head? = some line → ¬ p line) :
    ∃ left, rim = read ++ left ∧ unread = left ++ rest := by
  rcases List.append_eq_append_iff.mp same with ⟨beyond, rfl, rfl⟩ | ⟨left, rfl, rfl⟩
  · cases beyond with
    | nil => exact ⟨[], by simp, by simp⟩
    | cons line beyond =>
      have refused := barrier line (by simp)
      exact absurd (reads line (by simp)) refused
  · exact ⟨left, rfl, rfl⟩

theorem Written.opens_head (artifact : Written) (rest : List Line) :
    ∀ line, (artifact.lines ++ rest).head? = some line → artifact.kind.opens line = true := by
  obtain ⟨first, more, lines, opens⟩ := artifact.lines_head
  rw [lines]
  rintro _ ⟨⟩
  exact opens

theorem Written.spread_head (first : Written) (more : List Written) (rest : List Line) :
    ∃ line lines, spread (first :: more) ++ rest = line :: lines ∧
      first.kind.opens line = true := by
  obtain ⟨line, lines, shape, opens⟩ := first.lines_head
  exact ⟨line, lines ++ spread more ++ rest, by simp [spread_cons, shape], opens⟩

theorem Written.spread_lead {written : List Written} (nonempty : written ≠ []) (rest : List Line) :
    ∀ line, (spread written ++ rest).head? = some line → line.isBlank = false := by
  obtain ⟨first, more, rfl⟩ := List.exists_cons_of_ne_nil nonempty
  obtain ⟨line, lines, shape, opens⟩ := spread_head first more rest
  rw [shape]
  rintro _ ⟨⟩
  exact ArtifactKind.not_isBlank_of_opens opens

theorem Written.lead_spread (lead : ∀ line, rest.head? = some line → line.isBlank = false) :
    ∀ line, (spread written ++ rest).head? = some line → line.isBlank = false := by
  by_cases empty : written = []
  · subst empty
    exact lead
  · exact spread_lead empty rest

namespace Search

theorem skipBlank_unread_eq (shape : search.unread = rim ++ rest)
    (white : ∀ line ∈ rim, line.isBlank = true)
    (barrier : ∀ line, rest.head? = some line → line.isBlank = false) :
    search.skipBlank.unread = rest := by
  simp only [skipBlank, shape]
  rw [List.dropWhile_append_of_pos white]
  cases rest with
  | nil => rfl
  | cons line rest => simp [barrier line rfl]

/-- The search takes a written artifact of the kind it looks for. A link or a flamegraph may go
on after it. -/
theorem takeNext_written (whole : search.trailing = [])
    (shape : search.unread = rim ++ (artifact.lines ++ more))
    (white : ∀ line ∈ rim, line.isBlank = true) :
    (search.takeNext artifact.kind).trailing = [] ∧
      (search.takeNext artifact.kind).stale = true ∧
      ∃ read, (∀ line ∈ read, artifact.kind.isLinked = true ∧
          artifact.kind.continues line = true) ∧
        ['\n'] :: more = read ++ (search.takeNext artifact.kind).unread := by
  obtain ⟨first, body, head, opens⟩ := artifact.whole.head
  have lines : artifact.lines ++ more = artifact.body ++ ['\n'] :: more := by
    simp [Written.lines]
  have start : search.skipBlank.unread = artifact.body ++ ['\n'] :: more := by
    rw [← lines]
    apply skipBlank_unread_eq shape white
    intro line begins
    rw [lines, head, List.cons_append, List.head?_cons, Option.some.injEq] at begins
    rw [← begins]
    exact ArtifactKind.not_isBlank_of_opens opens
  have next : search.takeNext artifact.kind = search.skipBlank.take artifact.kind := by
    rw [takeNext, if_pos (by simp [whole])]
  have cut : search.skipBlank.unread = first :: (body ++ ['\n'] :: more) := by
    rw [start, head, List.cons_append]
  have taken := take_of_opens cut opens
  rw [← cut, start] at taken
  rw [next, taken]
  by_cases linked : artifact.kind.isLinked = true
  · rw [ArtifactKind.takeBody_linked artifact.whole linked]
    refine ⟨whole, rfl, (['\n'] :: more).takeWhile artifact.kind.continues, ?_, ?_⟩
    · intro line member
      exact ⟨linked, List.all_eq_true.mp List.all_takeWhile line member⟩
    · exact (List.takeWhile_append_dropWhile ..).symm
  · rw [ArtifactKind.takeBody_whole artifact.whole (Bool.eq_false_iff.mpr linked)]
    exact ⟨whole, rfl, [], by simp, rfl⟩

theorem takeNext_not_opens (whole : search.trailing = [])
    (shape : search.unread = rim ++ rest) (white : ∀ line ∈ rim, line.isBlank = true)
    (barrier : ∀ line, rest.head? = some line →
      line.isBlank = false ∧ kind.opens line = false) :
    (search.takeNext kind).trailing = [] ∧ (search.takeNext kind).unread = rest := by
  have start := skipBlank_unread_eq shape white fun line first => (barrier line first).1
  have next : search.takeNext kind = search.skipBlank := by
    rw [takeNext, if_pos (by simp [whole])]
    apply take_of_not_opens
    rw [start]
    exact fun line first => (barrier line first).2
  rw [next]
  exact ⟨whole, start⟩

theorem foldl_takeNext_idle (whole : search.trailing = []) (shape : search.unread = rim ++ rest)
    (white : ∀ line ∈ rim, line.isBlank = true)
    (barrier : ∀ line, rest.head? = some line →
      line.isBlank = false ∧ ∀ kind ∈ later, kind.opens line = false) :
    (later.foldl takeNext search).trailing = [] ∧
      ∃ left, (∀ line ∈ left, line.isBlank = true) ∧
        (later.foldl takeNext search).unread = left ++ rest := by
  induction later generalizing search rim with
  | nil => exact ⟨whole, rim, white, shape⟩
  | cons kind later ih =>
    obtain ⟨whole, shape⟩ := takeNext_not_opens whole shape white fun line first =>
      ⟨(barrier line first).1, (barrier line first).2 kind (by simp)⟩
    apply ih whole (show _ = [] ++ rest from shape) (by simp)
    intro line first
    exact ⟨(barrier line first).1, fun other member =>
      (barrier line first).2 other (by simp [member])⟩

/-- The search is past all that was written. It has read no more than blank lines and what goes
on a link or a flamegraph, and looks only for kinds that were not written. -/
structure Past (kinds : List ArtifactKind) (written : List Written) (rest : List Line)
    (later : List ArtifactKind) (search : Search) : Prop where
  whole : search.trailing = []
  owned : ∀ kind ∈ later, kind ∈ kinds
  apart : ∀ artifact ∈ written, ∀ kind ∈ later, artifact.kind.Apart kind
  reads : ∃ rim read, (∀ line ∈ rim, line.isBlank = true) ∧
    (∀ line ∈ read, line.isBlank = true ∨
      ∃ kind ∈ kinds, kind.isLinked = true ∧ kind.opens line = true) ∧
    rim ++ rest = read ++ search.unread

theorem Past.mono {past : Search} (kind : ArtifactKind)
    (passed : Past kinds written rest later past) :
    Past (kind :: kinds) written rest later past := by
  obtain ⟨rim, read, white, reads, same⟩ := passed.reads
  refine ⟨passed.whole, fun other member => by simp [passed.owned other member], passed.apart,
    rim, read, white, ?_, same⟩
  intro line member
  rcases reads line member with blank | ⟨other, owned, goesOn⟩
  · exact .inl blank
  · exact .inr ⟨other, by simp [owned], goesOn⟩

/-- The search for the kinds of a plan gets past whatever was written in their order. -/
theorem foldl_takeNext_written (apart : kinds.Pairwise ArtifactKind.Apart)
    (ordered : (written.map Written.kind).Sublist kinds) (whole : search.trailing = [])
    (shape : search.unread = rim ++ (Written.spread written ++ rest))
    (white : ∀ line ∈ rim, line.isBlank = true) :
    ∃ later past, Past kinds written rest later past ∧
      kinds.foldl takeNext search = later.foldl takeNext past := by
  induction kinds generalizing written search rim with
  | nil =>
    obtain rfl : written = [] := List.map_eq_nil_iff.mp (List.sublist_nil.mp ordered)
    exact ⟨[], search, ⟨whole, by simp, by simp, rim, [], white, by simp, shape.symm⟩, rfl⟩
  | cons kind kinds ih =>
    obtain ⟨first, others⟩ := List.pairwise_cons.mp apart
    cases written with
    | nil =>
      exact ⟨kind :: kinds, search,
        ⟨whole, by simp, by simp, rim, [], white, by simp, shape.symm⟩, rfl⟩
    | cons artifact more =>
      rw [List.map_cons] at ordered
      rw [List.foldl_cons]
      have begins := Written.spread_head artifact more rest
      cases ordered with
      | cons _ ordered =>
        -- The kind was not written, and what comes next begins with another sign.
        have other : kind.Apart artifact.kind := first _ (ordered.subset (by simp))
        have barrier : ∀ line, (Written.spread (artifact :: more) ++ rest).head? = some line →
            line.isBlank = false ∧ kind.opens line = false := by
          obtain ⟨line, lines, same, opens⟩ := begins
          rw [same]
          rintro _ ⟨⟩
          exact ⟨ArtifactKind.not_isBlank_of_opens opens, other.symm.opens opens⟩
        obtain ⟨whole, shape⟩ := takeNext_not_opens whole shape white barrier
        obtain ⟨later, past, passed, same⟩ :=
          ih others (show ((artifact :: more).map Written.kind).Sublist kinds from ordered) whole
            (show _ = [] ++ _ from shape) (by simp)
        exact ⟨later, past, passed.mono kind, same⟩
      | cons_cons _ ordered =>
        rw [Written.spread_cons, List.append_assoc] at shape
        obtain ⟨whole, -, read, reads, tail⟩ := takeNext_written whole shape white
        cases more with
        | nil =>
          refine ⟨kinds, search.takeNext artifact.kind,
            ⟨whole, fun kind member => List.mem_cons_of_mem _ member, ?_,
              [['\n']], read, by decide, ?_, tail⟩, rfl⟩
          · intro other member
            rw [List.mem_singleton.mp member]
            exact first
          · intro line member
            obtain ⟨linked, continues⟩ := reads line member
            rcases Bool.or_eq_true_iff.mp continues with blank | opens
            · exact .inl blank
            · exact .inr ⟨artifact.kind, by simp, linked, opens⟩
        | cons next more =>
          -- Another artifact follows, so the one before cannot go on.
          have barrier : ∀ line, (Written.spread (next :: more) ++ rest).head? = some line →
              ¬ (artifact.kind.isLinked = true ∧ artifact.kind.continues line = true) := by
            obtain ⟨line, lines, same, opens⟩ := Written.spread_head next more rest
            have apart : artifact.kind.Apart next.kind := first _ (ordered.subset (by simp))
            rw [same]
            rintro _ ⟨⟩ ⟨-, continues⟩
            simp [ArtifactKind.continues, ArtifactKind.not_isBlank_of_opens opens,
              apart.symm.opens opens] at continues
          obtain ⟨left, gap, shape⟩ := split_before (show [['\n']] ++ _ = _ from tail) reads barrier
          have white : ∀ line ∈ left, line.isBlank = true := by
            intro line member
            have within : line ∈ [['\n']] := by simp [gap, member]
            rw [List.mem_singleton.mp within]
            decide
          obtain ⟨later, past, passed, same⟩ := ih others ordered whole shape white
          obtain ⟨others, owned, apart, reads⟩ := passed.mono artifact.kind
          refine ⟨later, past, ⟨others, owned, ?_, reads⟩, same⟩
          intro other member kind looked
          rcases List.mem_cons.mp member with rfl | member
          · exact first kind (passed.owned kind looked)
          · exact apart other member kind looked

end Search

namespace Decision

variable {config : BlockConfig} {plan : ArtifactPlan} {separator : Line}

theorem span_blanks {blanks start : List Line} (white : ∀ line ∈ blanks, line.isBlank = true)
    (lead : ∀ line, start.head? = some line → line.isBlank = false) :
    (blanks ++ start).takeWhile Line.isBlank = blanks ∧
      (blanks ++ start).dropWhile Line.isBlank = start := by
  rw [List.takeWhile_append_of_pos white, List.dropWhile_append_of_pos white]
  cases start with
  | nil => simp
  | cons line start => simp [lead line rfl]

theorem blanks_written (blank : separator.isBlank = true) (nonempty : written ≠ []) :
    (separator :: (Written.spread written ++ rest)).takeWhile Line.isBlank = [separator] ∧
      (separator :: (Written.spread written ++ rest)).dropWhile Line.isBlank =
        Written.spread written ++ rest := by
  have white : ∀ line ∈ [separator], line.isBlank = true := by simpa using blank
  exact span_blanks white (Written.spread_lead nonempty rest)

theorem primary_written (apart : plan.kinds.Pairwise ArtifactKind.Apart)
    (ordered : (written.map Written.kind).Sublist plan.kinds)
    (present : ∃ artifact ∈ written, artifact.kind = plan.primary) :
    ∃ first others, written = first :: others ∧ first.kind = plan.primary := by
  obtain ⟨artifact, member, same⟩ := present
  obtain ⟨first, others, rfl⟩ := List.exists_cons_of_ne_nil (List.ne_nil_of_mem member)
  refine ⟨first, others, rfl, ?_⟩
  rw [List.map_cons, ArtifactPlan.kinds] at ordered
  rcases List.sublist_cons_iff.mp ordered with later | ⟨_, primary, -⟩
  · -- Otherwise the primary kind would be among the secondary ones.
    have again : plan.primary ∈ plan.secondaries := by
      apply later.subset
      rw [← same]
      exact List.mem_map_of_mem member
    have clash := (List.pairwise_cons.mp apart).1 _ again
    exact absurd clash (by cases plan.primary <;> decide)
  · exact (List.cons.inj primary).1

theorem judged_written (apart : plan.kinds.Pairwise ArtifactKind.Apart)
    (ordered : (written.map Written.kind).Sublist plan.kinds)
    (present : ∃ artifact ∈ written, artifact.kind = plan.primary)
    (blank : separator.isBlank = true) :
    judged config plan (separator :: (Written.spread written ++ rest)) =
      verdict config plan true := by
  obtain ⟨first, others, rfl, primary⟩ := primary_written apart ordered present
  rw [judged, (blanks_written blank (by simp)).2, ← primary]
  have shape : (Search.mk [] [] false (Written.spread (first :: others) ++ rest)).unread =
      [] ++ (first.lines ++ (Written.spread others ++ rest)) := by
    simp [Written.spread_cons]
  obtain ⟨-, stale, -⟩ := Search.takeNext_written rfl shape (by simp)
  have start := takeNext_start first.kind (separator :: (Written.spread (first :: others) ++ rest))
  rw [(blanks_written blank (by simp)).2] at start
  rw [← start, stale]

/-- Before written artifacts and a line that none of the kinds can read there are only the blank
lines that were put there. -/
theorem span_written {blanks : List Line} (white : ∀ line ∈ blanks, line.isBlank = true)
    (barrier : ∀ line, rest.head? = some line →
      line.isBlank = false ∧ ∀ kind ∈ plan.kinds, kind.opens line = false) :
    (blanks ++ (Written.spread written ++ rest)).takeWhile Line.isBlank = blanks ∧
      (blanks ++ (Written.spread written ++ rest)).dropWhile Line.isBlank =
        Written.spread written ++ rest :=
  span_blanks white (Written.lead_spread fun line first => (barrier line first).1)

/-- Among written artifacts and before a line that none of the kinds can read, the search takes
the artifacts and stops. -/
theorem gathered_written {blanks : List Line} (apart : plan.kinds.Pairwise ArtifactKind.Apart)
    (ordered : (written.map Written.kind).Sublist plan.kinds)
    (white : ∀ line ∈ blanks, line.isBlank = true)
    (barrier : ∀ line, rest.head? = some line →
      line.isBlank = false ∧ ∀ kind ∈ plan.kinds, kind.opens line = false) :
    (gathered plan (blanks ++ (Written.spread written ++ rest))).trailing = [] ∧
      ∃ left, (∀ line ∈ left, line.isBlank = true) ∧
        (gathered plan (blanks ++ (Written.spread written ++ rest))).unread = left ++ rest := by
  rw [gathered, (span_written white barrier).2]
  obtain ⟨later, past, passed, same⟩ := Search.foldl_takeNext_written apart ordered
    (show (Search.mk [] [] false (Written.spread written ++ rest)).trailing = [] from rfl)
    (show _ = [] ++ (Written.spread written ++ rest) from rfl) (by simp)
  rw [same]
  obtain ⟨rim, read, white, reads, split⟩ := passed.reads
  have stops : ∀ line, rest.head? = some line → ¬ (line.isBlank = true ∨
      ∃ kind ∈ plan.kinds, kind.isLinked = true ∧ kind.opens line = true) := by
    intro line first
    obtain ⟨black, closed⟩ := barrier line first
    rintro (white | ⟨kind, owned, -, opens⟩)
    · simp [black] at white
    · simp [closed kind owned] at opens
  obtain ⟨left, rfl, shape⟩ := split_before split reads stops
  obtain ⟨whole, unread⟩ := Search.foldl_takeNext_idle passed.whole shape
    (fun line member => white line (by simp [member]))
    fun line first => ⟨(barrier line first).1, fun kind looked =>
      (barrier line first).2 kind (passed.owned kind looked)⟩
  exact ⟨whole, unread⟩

/-- A block that runs goes on behind the blank lines that its search has come to, unless the search
has run into a cut artifact. -/
theorem inspect_unread_eq {following left : List Line}
    (due : (inspect config plan following).execute = true)
    (whole : (gathered plan following).trailing = [])
    (split : (gathered plan following).unread = left ++ rest)
    (white : ∀ line ∈ left, line.isBlank = true)
    (lead : ∀ line, rest.head? = some line → line.isBlank = false) :
    (inspect config plan following).passThrough = [] ∧
      (inspect config plan following).unread = rest := by
  obtain ⟨cut, extra, beyond, last, -⟩ := found_beyond config plan following
  have division := inspect_division config plan following
  have through : (inspect config plan following).passThrough = [] := by
    rw [division.passThrough, if_pos due, cut, whole]
  have behind := inspect_behind due
  rw [through, List.nil_append] at behind
  have unread : (inspect config plan following).unread = (found config plan following).unread := by
    rw [inspect_eq]
    rfl
  rw [unread] at behind
  refine ⟨through, unread.trans ?_⟩
  rw [split] at last
  rw [← (span_blanks beyond behind).2, ← last, (span_blanks white lead).2]

theorem inspect_bare {following : List Line}
    (due : (inspect config plan following).execute = true)
    (bare : ∀ line, (following.dropWhile Line.isBlank).head? = some line →
      ∀ kind ∈ plan.kinds, kind.opens line = false) :
    (inspect config plan following).passThrough = [] ∧
      (inspect config plan following).unread = following.dropWhile Line.isBlank := by
  have lead : ∀ line, (following.dropWhile Line.isBlank).head? = some line →
      line.isBlank = false := by
    intro line first
    have black := List.head?_dropWhile_not Line.isBlank following
    rw [first] at black
    simpa using black
  obtain ⟨whole, left, white, unread⟩ := Search.foldl_takeNext_idle
    (show (Search.mk [] [] false (following.dropWhile Line.isBlank)).trailing = [] from rfl)
    (show _ = [] ++ following.dropWhile Line.isBlank from rfl) (by simp)
    fun line first => ⟨lead line first, bare line first⟩
  exact inspect_unread_eq due whole unread white lead

/-- A block that runs drops the artifacts before a line that none of its kinds can read, and the
blank lines around them, and reads no further. -/
theorem inspect_dropped {blanks : List Line} (apart : plan.kinds.Pairwise ArtifactKind.Apart)
    (ordered : (written.map Written.kind).Sublist plan.kinds)
    (white : ∀ line ∈ blanks, line.isBlank = true)
    (barrier : ∀ line, rest.head? = some line →
      line.isBlank = false ∧ ∀ kind ∈ plan.kinds, kind.opens line = false)
    (due : (inspect config plan (blanks ++ (Written.spread written ++ rest))).execute = true) :
    let decision := inspect config plan (blanks ++ (Written.spread written ++ rest))
    decision.separator = blanks.head? ∧ decision.passThrough = [] ∧ decision.unread = rest := by
  intro decision
  obtain ⟨whole, left, bare, unread⟩ := gathered_written apart ordered white barrier
  refine ⟨?_, inspect_unread_eq due whole unread bare fun line first => (barrier line first).1⟩
  simp only [decision, inspect_eq, ofSearch, (span_written white barrier).1]

/-- Whatever a plan puts before a result, the search comes to one that was written and takes no line
beyond it. -/
theorem gathered_result {blanks : List Line} {front : List ArtifactKind}
    (kinds : plan.kinds = front ++ [.resultFence])
    (apart : plan.kinds.Pairwise ArtifactKind.Apart) (result : artifact.kind = .resultFence)
    (white : ∀ line ∈ blanks, line.isBlank = true) :
    (gathered plan (blanks ++ (artifact.lines ++ rest))).trailing = [] ∧
      (gathered plan (blanks ++ (artifact.lines ++ rest))).unread = [['\n']] ++ rest := by
  have lead : ∀ line, (artifact.lines ++ rest).head? = some line →
      line.isBlank = false ∧ ∀ kind ∈ front, kind.opens line = false := by
    intro line first
    have opens := artifact.opens_head rest line first
    refine ⟨ArtifactKind.not_isBlank_of_opens opens, fun kind looked => ?_⟩
    rw [kinds] at apart
    rw [result] at opens
    have other := (List.pairwise_append.mp apart).2.2 kind looked _ List.mem_cons_self
    exact other.symm.opens opens
  obtain ⟨whole, left, bare, unread⟩ := Search.foldl_takeNext_idle
    (show (Search.mk [] [] false (artifact.lines ++ rest)).trailing = [] from rfl)
    (show _ = [] ++ (artifact.lines ++ rest) from rfl) (by simp) lead
  rw [gathered, (span_blanks white fun line begins => (lead line begins).1).2, kinds,
    List.foldl_append, ← result]
  obtain ⟨whole, -, read, reads, behind⟩ := Search.takeNext_written whole unread bare
  refine ⟨whole, ?_⟩
  -- A result ends with its closing fence, so nothing more was read than the result.
  cases read with
  | nil => exact behind.symm
  | cons line read =>
    have linked := (reads line (by simp)).1
    rw [result] at linked
    contradiction

theorem inspect_result {blanks : List Line} {front : List ArtifactKind}
    (kinds : plan.kinds = front ++ [.resultFence])
    (apart : plan.kinds.Pairwise ArtifactKind.Apart) (result : artifact.kind = .resultFence)
    (white : ∀ line ∈ blanks, line.isBlank = true)
    (lead : ∀ line, rest.head? = some line → line.isBlank = false)
    (due : (inspect config plan (blanks ++ (artifact.lines ++ rest))).execute = true) :
    let decision := inspect config plan (blanks ++ (artifact.lines ++ rest))
    decision.separator = blanks.head? ∧ decision.passThrough = [] ∧ decision.unread = rest := by
  intro decision
  obtain ⟨whole, unread⟩ := gathered_result kinds apart result white
  have black : ∀ line, (artifact.lines ++ rest).head? = some line → line.isBlank = false :=
    fun line first => ArtifactKind.not_isBlank_of_opens (artifact.opens_head rest line first)
  refine ⟨?_, inspect_unread_eq due whole unread (by decide) lead⟩
  simp only [decision, inspect_eq, ofSearch, (span_blanks white black).1]

theorem verdict_rerun (plan : ArtifactPlan) (primaryPresent : Bool) (again : config.rerun = true) :
    (verdict config plan primaryPresent).1 = true := by
  unfold verdict
  rw [if_pos again]
  split <;> rfl

theorem verdict_kept (plan : ArtifactPlan) (once : config.rerun = false)
    (kept : plan.autoReplace = false) : (verdict config plan true).1 = false := by
  simp [verdict, once, kept]

theorem inspect_written_renewed (apart : plan.kinds.Pairwise ArtifactKind.Apart)
    (ordered : (written.map Written.kind).Sublist plan.kinds) (blank : separator.isBlank = true)
    (barrier : ∀ line, rest.head? = some line →
      line.isBlank = false ∧ ∀ kind ∈ plan.kinds, kind.opens line = false)
    (again : config.rerun = true) :
    let decision := inspect config plan (separator :: (Written.spread written ++ rest))
    decision.execute = true ∧ decision.consumed = separator :: Written.spread written ∧
      decision.passThrough = [] ∧ decision.unread = rest := by
  intro decision
  have bare : ∀ line ∈ [separator], line.isBlank = true := by simpa using blank
  have execute : decision.execute = true := by
    simp only [decision, inspect_eq, ofSearch]
    exact verdict_rerun plan _ again
  obtain ⟨-, through, unread⟩ := inspect_dropped apart ordered bare barrier execute
  rw [List.singleton_append] at through unread
  have division := inspect_division config plan (separator :: (Written.spread written ++ rest))
  have total := division.total
  rw [division.passThrough, if_pos execute] at through
  rw [through, List.append_nil, unread, ← List.cons_append] at total
  refine ⟨execute, ?_, ?_, unread⟩
  · rw [show decision.consumed = _ from division.consumed, if_pos execute]
    exact List.append_cancel_right total
  · rw [show decision.passThrough = _ from division.passThrough, if_pos execute, through]

theorem inspect_written_kept (apart : plan.kinds.Pairwise ArtifactKind.Apart)
    (ordered : (written.map Written.kind).Sublist plan.kinds)
    (present : ∃ artifact ∈ written, artifact.kind = plan.primary)
    (blank : separator.isBlank = true) (once : config.rerun = false)
    (kept : plan.autoReplace = false) :
    let decision := inspect config plan (separator :: (Written.spread written ++ rest))
    decision.execute = false ∧
      decision.passThrough ++ decision.unread = separator :: (Written.spread written ++ rest) := by
  intro decision
  obtain ⟨first, others, shape, -⟩ := primary_written apart ordered present
  have stays : (judged config plan (separator :: (Written.spread written ++ rest))).1 = false := by
    rw [judged_written apart ordered present blank]
    exact verdict_kept plan once kept
  have execute : decision.execute = false := by
    simp only [decision, inspect_eq, ofSearch, stays]
  have division := inspect_division config plan (separator :: (Written.spread written ++ rest))
  have total := division.total
  rw [(blanks_written blank (by simp [shape])).1] at division total
  refine ⟨execute, ?_⟩
  rw [show decision.passThrough = _ from division.passThrough,
    if_neg (Bool.eq_false_iff.mp execute)]
  exact total

end Decision

namespace Splice

variable {config : BlockConfig} {language : Language} {outcome : Outcome} {source content : Text}
  {separator : Line} {answers : Answers}

/-- What a block has written it finds again, to the line. If it runs once more, everything that
was written goes and nothing else; if it does not, everything stays. -/
theorem render_recognised {services : Services σ} {state : σ} {rest : Text}
    (runs : config.run = true) (filled : Text.isBlankText content = false)
    (settled : answers =
      (services.answer (visuals config language.resultKind outcome) state).1)
    (nonempty : (render config language outcome source answers).artifacts ≠ [])
    (contained : (render config language outcome source answers).Contained)
    (svg : ∀ name, diagramImage name ∈ (render config language outcome source answers).artifacts →
      ".svg".toList <:+ name)
    (blank : separator.isBlank = true) (ended : separator.IsEnded)
    (barrier : ∀ line, (Text.lines rest).head? = some line → line.isBlank = false ∧
      ∀ kind ∈ (ArtifactPlan.forBlock config language.resultKind).kinds,
        kind.opens line = false) :
    let plan := ArtifactPlan.forBlock config language.resultKind
    let artifacts := (render config language outcome source answers).artifacts
    let following := separator ++ artifacts.flatten ++ rest
    let decision := Decision.forBlock config plan content (Text.lines following)
    (config.rerun = true → decision.execute = true ∧
      decision.consumed.flatten = separator ++ artifacts.flatten ∧
      decision.passThrough = [] ∧ decision.unread = Text.lines rest) ∧
    (config.rerun = false → plan.autoReplace = false →
      (∃ text ∈ artifacts, ∃ line, (Text.lines text).head? = some line ∧
        plan.primary.opens line = true) →
      decision.execute = false ∧
        decision.passThrough.flatten ++ decision.unread.flatten = following) := by
  intro plan artifacts following decision
  subst settled
  obtain ⟨written, texts, ordered⟩ :=
    render_written source (services.answer_fits _ state) contained fun name member =>
      Written.opens_diagramLine (contained.diagram name member) (svg name member)
  have apart : plan.kinds.Pairwise ArtifactKind.Apart :=
    ArtifactPlan.forBlock_kinds_apart config language.resultKind
  have spread : artifacts.flatten = (Written.spread written).flatten := by
    rw [Written.spread_flatten, texts]
  have writes : written ≠ [] := by
    rintro rfl
    exact nonempty texts.symm
  have cut : Text.lines following = separator :: (Written.spread written ++ Text.lines rest) := by
    simp only [following, spread, List.append_assoc]
    rw [Text.lines_ended_append ended, Text.lines_flatten_append Written.ended_spread]
  have inspected : decision =
      Decision.inspect config plan (separator :: (Written.spread written ++ Text.lines rest)) := by
    have separate : plan.inline = false := by
      apply Bool.eq_false_iff.mpr
      intro inline
      exact nonempty (render_artifacts_inline inline ..)
    simp only [decision, cut]
    exact Decision.forBlock_inspect runs filled separate _
  rw [inspected]
  constructor
  · intro again
    obtain ⟨execute, consumed, through, unread⟩ :=
      Decision.inspect_written_renewed apart ordered blank barrier again
    exact ⟨execute, by rw [consumed, List.flatten_cons, spread], through, unread⟩
  · rintro once kept ⟨text, member, line, first, opens⟩
    have present : ∃ artifact ∈ written, artifact.kind = plan.primary := by
      have member : text ∈ written.map Written.text := by
        rw [texts]
        exact member
      obtain ⟨artifact, among, rfl⟩ := List.mem_map.mp member
      obtain ⟨lead, more, shape, own⟩ := artifact.lines_head
      rw [artifact.lines_text, shape, List.head?_cons, Option.some.injEq] at first
      have owned : artifact.kind ∈ plan.kinds := ordered.subset (List.mem_map_of_mem among)
      exact ⟨artifact, among,
        ArtifactPlan.eq_primary_of_opens apart owned own (first ▸ opens)⟩
    obtain ⟨execute, all⟩ := Decision.inspect_written_kept apart ordered present blank once kept
    refine ⟨execute, ?_⟩
    rw [← List.flatten_append, all]
    simp only [following, spread, List.flatten_cons, List.flatten_append, Text.lines_flatten,
      List.append_assoc]

/-- A query with a result and a link before it runs again, and both go. -/
theorem render_recognised_query :
    let config : BlockConfig := {
      language := "psql", run := true, rerun := true, explain := true, flamegraph := false
      showResult := true }
    let artifacts := ["```RESULT\n[]\n```\n\n".toList,
      "**Dalibo Visualization:** [View Query Plan](https://explain.dalibo.com/1)\n\n".toList]
    let decision := Decision.forBlock config (.forBlock config .structuredPlan) "SELECT 1;\n".toList
      (Text.lines ("\n".toList ++ artifacts.flatten ++ "after\n".toList))
    decision.execute = true ∧ decision.consumed.flatten = "\n".toList ++ artifacts.flatten ∧
      decision.passThrough = [] ∧ decision.unread = ["after\n".toList] := by
  intro config artifacts decision
  let outcome : Outcome := { stdout := "[]\n", exitCode := some 0 }
  let answers : Answers := { link := some "https://explain.dalibo.com/1" }
  have rendered :
      (render config .psql outcome "SELECT 1;\n".toList answers).artifacts = artifacts := by
    decide +kernel
  have settled : answers = ((Services.constant outcome answers).answer
      (visuals config Language.psql.resultKind outcome) ()).1 := by
    decide +kernel
  have contained : (render config .psql outcome "SELECT 1;\n".toList answers).Contained := by
    apply render_contained
    · decide +kernel
    · rintro _ ⟨⟩
      decide
    · rintro _ ⟨⟩
    · rintro _ ⟨⟩
  have svg : ∀ name, diagramImage name ∈
      (render config .psql outcome "SELECT 1;\n".toList answers).artifacts →
        ".svg".toList <:+ name := by
    intro name member
    exact absurd (diagram_of_rendered member) (by simp [outcome])
  have barrier : ∀ line, (Text.lines "after\n".toList).head? = some line → line.isBlank = false ∧
      ∀ kind ∈ (ArtifactPlan.forBlock config Language.psql.resultKind).kinds,
        kind.opens line = false := by
    decide +kernel
  have filled : Text.isBlankText "SELECT 1;\n".toList = false := by decide
  have recognised := render_recognised rfl filled settled (by rw [rendered]; decide) contained svg
    (show Line.isBlank "\n".toList = true by decide) Line.isEnded_newline barrier
  rw [rendered] at recognised
  exact recognised.1 rfl

end Splice
end Runbook
