import Runbook.Decision
import Runbook.Proofs.Ownership

/-! What a decision makes of the lines after a block. Whatever is read is blank, a whole
artifact that the block may own, or an artifact that the end of the lines has cut; and how
much is read hangs on nothing beyond the first line that stays unread. -/
namespace Runbook

/-- Blank lines and whole artifacts of the kinds, in any order. -/
inductive Remains (kinds : List ArtifactKind) : List Line → Prop
  | nil : Remains kinds []
  | blank {line : Line} {more : List Line} :
      line.isBlank = true → Remains kinds more → Remains kinds (line :: more)
  | artifact {kind : ArtifactKind} {lines more : List Line} :
      kind ∈ kinds → kind.IsWhole lines → Remains kinds more → Remains kinds (lines ++ more)

namespace Remains

variable {kinds : List ArtifactKind} {lines more : List Line}

theorem append (first : Remains kinds lines) (last : Remains kinds more) :
    Remains kinds (lines ++ more) := by
  induction first with
  | nil => exact last
  | blank white _ ih => exact .blank white ih
  | artifact owned whole _ ih =>
    rw [List.append_assoc]
    exact .artifact owned whole ih

theorem ofBlanks (white : ∀ line ∈ lines, line.isBlank = true) : Remains kinds lines := by
  induction lines with
  | nil => exact .nil
  | cons line lines ih =>
    exact .blank (white line (by simp)) (ih fun other member => white other (by simp [member]))

theorem ofArtifact {kind : ArtifactKind} (owned : kind ∈ kinds) (whole : kind.IsWhole lines) :
    Remains kinds lines := by
  simpa using artifact owned whole nil

end Remains

/-- The lines that a search started from, as it has divided them so far. -/
structure Search.Accounts (kinds : List ArtifactKind) (start : List Line) (search : Search) :
    Prop where
  total : search.kept ++ search.trailing ++ search.unread = start
  kept : Remains kinds search.kept
  /-- A cut artifact leaves nothing unread. -/
  cut : search.trailing = [] ∨
    search.unread = [] ∧ ∃ kind ∈ kinds, kind.IsCut search.trailing

namespace Search

variable {kinds : List ArtifactKind} {start : List Line} {search : Search} {kind : ArtifactKind}

theorem Accounts.initial (kinds : List ArtifactKind) (start : List Line) :
    Accounts kinds start { unread := start } :=
  ⟨by simp, .nil, .inl rfl⟩

theorem Accounts.skipBlank (accounts : Accounts kinds start search)
    (whole : search.trailing = []) : Accounts kinds start search.skipBlank where
  total := by
    have total := accounts.total
    simp only [Search.skipBlank, whole, List.append_nil, List.append_assoc,
      List.takeWhile_append_dropWhile] at total ⊢
    exact total
  kept := by
    apply accounts.kept.append (.ofBlanks _)
    intro line member
    exact List.all_eq_true.mp List.all_takeWhile line member
  cut := .inl whole

theorem Accounts.take (accounts : Accounts kinds start search) (whole : search.trailing = [])
    (owned : kind ∈ kinds) : Accounts kinds start (search.take kind) := by
  unfold Search.take
  split
  · exact accounts
  · rename_i first rest shape
    split
    · rename_i opens
      have total := accounts.total
      rw [whole, List.append_nil, shape] at total
      have parts := kind.takeBody_append (first :: rest)
      rw [shape]
      rcases ArtifactKind.takeBody_shape opens with ⟨complete, body⟩ | ⟨taken, cut⟩
      · dsimp only
        rw [if_pos complete]
        refine ⟨?_, accounts.kept.append (.ofArtifact owned body), .inl whole⟩
        dsimp only
        rw [whole, List.append_nil, List.append_assoc, parts, total]
      · dsimp only
        rw [taken, if_neg (by simp)]
        exact ⟨by simpa using total, accounts.kept, .inr ⟨rfl, kind, owned, cut⟩⟩
    · exact accounts

theorem Accounts.takeNext (accounts : Accounts kinds start search) (owned : kind ∈ kinds) :
    Accounts kinds start (search.takeNext kind) := by
  unfold Search.takeNext
  split
  · rename_i whole
    have whole := List.isEmpty_iff.mp whole
    exact (accounts.skipBlank whole).take whole owned
  · exact accounts

theorem Accounts.foldl {later : List ArtifactKind} (accounts : Accounts kinds start search)
    (owned : ∀ kind ∈ later, kind ∈ kinds) :
    Accounts kinds start (later.foldl Search.takeNext search) := by
  induction later generalizing search with
  | nil => exact accounts
  | cons kind later ih =>
    exact ih (accounts.takeNext (owned kind (by simp))) fun other member =>
      owned other (by simp [member])

/-- As long as no artifact was found, nothing but blank lines is kept. -/
theorem takeNext_kept (bare : search.stale = true ∨ ∀ line ∈ search.kept, line.isBlank = true) :
    (search.takeNext kind).stale = true ∨
      ∀ line ∈ (search.takeNext kind).kept, line.isBlank = true := by
  unfold takeNext
  split
  · have skipped : search.skipBlank.stale = true ∨
        ∀ line ∈ search.skipBlank.kept, line.isBlank = true := by
      refine bare.imp_right fun white line member => ?_
      rcases List.mem_append.mp member with member | member
      · exact white line member
      · exact List.all_eq_true.mp List.all_takeWhile line member
    unfold take
    split
    · exact skipped
    · split
      · dsimp only
        split
        · exact .inl rfl
        · exact skipped
      · exact skipped
  · exact bare

theorem foldl_takeNext_kept {kinds : List ArtifactKind}
    (bare : search.stale = true ∨ ∀ line ∈ search.kept, line.isBlank = true) :
    (kinds.foldl takeNext search).stale = true ∨
      ∀ line ∈ (kinds.foldl takeNext search).kept, line.isBlank = true := by
  induction kinds generalizing search with
  | nil => exact bare
  | cons kind kinds ih => exact ih (takeNext_kept bare)

end Search

namespace Decision

variable {config : BlockConfig} {plan : ArtifactPlan}

/-- The search for all kinds of a plan, in order, from the first line that is not blank. -/
def gathered (plan : ArtifactPlan) (following : List Line) : Search :=
  plan.kinds.foldl Search.takeNext { unread := following.dropWhile Line.isBlank }

/-- Where the search starts there is no blank line to skip before the primary kind. -/
theorem takeNext_start (kind : ArtifactKind) (following : List Line) :
    Search.takeNext { unread := following.dropWhile Line.isBlank } kind =
      Search.take kind { unread := following.dropWhile Line.isBlank } := by
  have start : Search.skipBlank { unread := following.dropWhile Line.isBlank } =
      { unread := following.dropWhile Line.isBlank } := by
    cases shape : following.dropWhile Line.isBlank with
    | nil => rfl
    | cons line rest =>
      have lead := List.head?_dropWhile_not Line.isBlank following
      simp only [shape, List.head?_cons] at lead
      simp [Search.skipBlank, lead]
  simp only [Search.takeNext, List.isEmpty_nil, if_true, start]

theorem gathered_eq (plan : ArtifactPlan) (following : List Line) :
    gathered plan following = plan.secondaries.foldl Search.takeNext
      (Search.take plan.primary { unread := following.dropWhile Line.isBlank }) := by
  rw [gathered, ArtifactPlan.kinds, List.foldl_cons, takeNext_start]

/-- Whether the lines after a block let it run, and why. -/
def judged (config : BlockConfig) (plan : ArtifactPlan) (following : List Line) : Bool × Reason :=
  verdict config plan
    (Search.take plan.primary { unread := following.dropWhile Line.isBlank }).stale

/-- All that is found before the rest is left unread. Behind what a run replaces, blank lines
go too. -/
def found (config : BlockConfig) (plan : ArtifactPlan) (following : List Line) : Search :=
  let all := gathered plan following
  if (judged config plan following).1 && all.stale && all.trailing.isEmpty then all.skipBlank
  else all

/-- A block that runs drops what was found and keeps a cut artifact; one that does not run
keeps all but the surplus blank lines. -/
def ofSearch (judgement : Bool × Reason) (artifact : ArtifactKind) (blanks : List Line)
    (search : Search) : Decision where
  execute := judgement.1
  reason := judgement.2
  artifact := artifact
  consumed := if judgement.1 then blanks ++ search.kept else blanks.tail
  passThrough := if judgement.1 then search.trailing
    else blanks.head?.toList ++ search.kept ++ search.trailing
  separator := blanks.head?
  unread := search.unread

theorem inspect_eq (config : BlockConfig) (plan : ArtifactPlan) (following : List Line) :
    inspect config plan following = ofSearch (judged config plan following) plan.primary
      (following.takeWhile Line.isBlank) (found config plan following) := by
  have blanks : (following.takeWhile Line.isBlank).head?.toList ++
      (following.takeWhile Line.isBlank).tail = following.takeWhile Line.isBlank := by
    cases following.takeWhile Line.isBlank <;> rfl
  simp only [inspect, found, ← gathered_eq, ofSearch, judged, blanks]
  split <;> simp_all

theorem found_accounts (config : BlockConfig) (plan : ArtifactPlan) (following : List Line) :
    (found config plan following).Accounts plan.kinds (following.dropWhile Line.isBlank) := by
  have all := (Search.Accounts.initial plan.kinds (following.dropWhile Line.isBlank)).foldl
    fun kind (owned : kind ∈ plan.kinds) => owned
  unfold found
  dsimp only
  split
  · rename_i ended
    simp only [Bool.and_eq_true, List.isEmpty_iff] at ended
    exact all.skipBlank ended.2
  · exact all

/-- Beyond the search for all kinds, blank lines at most are read. -/
theorem found_beyond (config : BlockConfig) (plan : ArtifactPlan) (following : List Line) :
    (found config plan following).trailing = (gathered plan following).trailing ∧
      ∃ extra, (∀ line ∈ extra, line.isBlank = true) ∧
        (gathered plan following).unread = extra ++ (found config plan following).unread ∧
        (extra = [] ∨ (gathered plan following).trailing = []) := by
  unfold found
  dsimp only
  split
  · rename_i ends
    simp only [Bool.and_eq_true, List.isEmpty_iff] at ends
    refine ⟨rfl, (gathered plan following).unread.takeWhile Line.isBlank, ?_, ?_, .inr ends.2⟩
    · exact fun line member => List.all_eq_true.mp List.all_takeWhile line member
    · exact (List.takeWhile_append_dropWhile ..).symm
  · exact ⟨rfl, [], by simp, rfl, .inl rfl⟩

/-- How a decision divides the lines after a block. -/
structure Division (plan : ArtifactPlan) (following : List Line) (decision : Decision)
    (blanks kept cut : List Line) : Prop where
  total : blanks ++ kept ++ cut ++ decision.unread = following
  white : ∀ line ∈ blanks, line.isBlank = true
  separator : decision.separator = blanks.head?
  remains : Remains plan.kinds kept
  ended : cut = [] ∨ decision.unread = [] ∧ ∃ kind ∈ plan.kinds, kind.IsCut cut
  /-- The blank lines at the beginning are all of them. -/
  lead : ∀ line, (kept ++ cut).head? = some line → line.isBlank = false
  consumed : decision.consumed = if decision.execute then blanks ++ kept else blanks.tail
  passThrough : decision.passThrough =
    if decision.execute then cut else blanks.head?.toList ++ kept ++ cut

theorem inspect_division (config : BlockConfig) (plan : ArtifactPlan) (following : List Line) :
    Division plan following (inspect config plan following) (following.takeWhile Line.isBlank)
      (found config plan following).kept (found config plan following).trailing := by
  have accounts := found_accounts config plan following
  rw [inspect_eq]
  refine ⟨?_, ?_, rfl, accounts.kept, accounts.cut, ?_, rfl, rfl⟩
  · simp only [ofSearch, List.append_assoc]
    rw [← List.append_assoc (found config plan following).kept, accounts.total,
      List.takeWhile_append_dropWhile]
  · intro line member
    exact List.all_eq_true.mp List.all_takeWhile line member
  · intro line first
    have lead := List.head?_dropWhile_not Line.isBlank following
    rw [← accounts.total, List.head?_append, first] at lead
    simpa using lead

/-- Behind what a block that runs has read there is no blank line. -/
theorem inspect_behind {following : List Line}
    (due : (inspect config plan following).execute = true) :
    ∀ line, ((inspect config plan following).passThrough ++
      (inspect config plan following).unread).head? = some line → line.isBlank = false := by
  intro line first
  have accounts := found_accounts config plan following
  have start := List.head?_dropWhile_not Line.isBlank following
  rw [inspect_eq] at due first
  have execute : (judged config plan following).1 = true := due
  have behind : ((found config plan following).trailing ++
      (found config plan following).unread).head? = some line := by
    simpa only [ofSearch, if_pos execute] using first
  by_cases whole : (found config plan following).trailing = []
  · rw [whole, List.nil_append] at behind
    have bare : (gathered plan following).stale = true ∨
        ∀ line ∈ (gathered plan following).kept, line.isBlank = true :=
      Search.foldl_takeNext_kept (.inr (by simp))
    by_cases ends : ((gathered plan following).stale &&
        (gathered plan following).trailing.isEmpty) = true
    · -- Behind an artifact all blank lines are skipped.
      have found : found config plan following = (gathered plan following).skipBlank := by
        simp [Decision.found, execute, ends]
      have skipped := List.head?_dropWhile_not Line.isBlank (gathered plan following).unread
      rw [found] at behind
      rw [show ((gathered plan following).unread.dropWhile Line.isBlank).head? = some line
        from behind] at skipped
      simpa using skipped
    · -- Nothing was found, so the search has not moved from where the blank lines end.
      have found : found config plan following = gathered plan following := by
        simp [Decision.found, execute, ends]
      rw [found] at whole behind accounts
      have stale : (gathered plan following).stale ≠ true := by
        simpa [whole] using ends
      have white := bare.resolve_left stale
      have total := accounts.total
      rw [whole, List.append_nil] at total
      cases kept : (gathered plan following).kept with
      | nil =>
        rw [kept, List.nil_append] at total
        rw [← total, behind] at start
        simpa using start
      | cons blank more =>
        rw [kept, List.cons_append] at total
        rw [← total, List.head?_cons] at start
        have black : blank.isBlank = false := by simpa using start
        rw [white blank (by simp [kept])] at black
        contradiction
  · obtain ⟨-, kind, -, broken⟩ := accounts.cut.resolve_left whole
    obtain ⟨lead, more, shape⟩ := List.exists_cons_of_ne_nil whole
    rw [shape] at behind broken
    obtain rfl : lead = line := by simpa using behind
    cases broken with
    | intro _ opens _ => exact ArtifactKind.not_isBlank_of_opens opens

theorem untouched_division (execute : Bool) (reason : Reason) (plan : ArtifactPlan)
    (following : List Line) :
    Division plan following (untouched execute reason plan.primary following) [] [] [] := by
  refine ⟨rfl, by simp, rfl, .nil, .inl rfl, by simp, ?_, ?_⟩ <;> simp [untouched]

/-- Before any line is read it is settled whether the lines count at all. -/
theorem forBlock_cases (config : BlockConfig) (plan : ArtifactPlan) (content : Text) :
    (∃ execute reason, ∀ following, forBlock config plan content following =
      untouched execute reason plan.primary following) ∨
    ∀ following, forBlock config plan content following = inspect config plan following := by
  unfold forBlock
  by_cases idle : (!config.run) = true
  · exact .inl ⟨_, _, fun _ => if_pos idle⟩
  · by_cases empty : Text.isBlankText content = true
    · exact .inl ⟨_, _, fun _ => by rw [if_neg idle, if_pos empty]⟩
    · by_cases annotated : (plan.inline && Annotation.isAnnotated content) = true
      · exact .inl ⟨_, _, fun _ => by rw [if_neg idle, if_neg empty, if_pos annotated]⟩
      · exact .inr fun _ => by rw [if_neg idle, if_neg empty, if_neg annotated]

/-- A block that may run, and does not hold its own results, is decided on by what follows. -/
theorem forBlock_inspect {content : Text} (runs : config.run = true)
    (filled : Text.isBlankText content = false) (separate : plan.inline = false)
    (following : List Line) :
    forBlock config plan content following = inspect config plan following := by
  rw [forBlock, if_neg (by simp [runs]), if_neg (by simp [filled]), if_neg (by simp [separate])]

/-- Only a block that may run and has something to run is executed. -/
theorem forBlock_due {content : Text} {following : List Line}
    (due : (forBlock config plan content following).execute = true) :
    config.run = true ∧ Text.isBlankText content = false := by
  unfold forBlock at due
  split at due
  · contradiction
  · rename_i runs
    split at due
    · contradiction
    · rename_i filled
      exact ⟨by simpa using runs, Bool.eq_false_iff.mpr filled⟩

/-- Every decision divides what follows into blank lines, remains of earlier runs, a cut
artifact and what it leaves unread. -/
theorem forBlock_division (config : BlockConfig) (plan : ArtifactPlan) (content : Text)
    (following : List Line) :
    ∃ blanks kept cut,
      Division plan following (forBlock config plan content following) blanks kept cut := by
  rcases forBlock_cases config plan content with ⟨execute, reason, same⟩ | same
  · rw [same]
    exact ⟨_, _, _, untouched_division ..⟩
  · rw [same]
    exact ⟨_, _, _, inspect_division config plan following⟩

end Decision

/-! Nothing beyond the first unread line counts: what follows the lines that were read can be
replaced by anything that begins with the same line. -/

section Frame

variable {start rest later left : List Line}

theorem span_frame {p : Line → Bool} (stops : (start ++ rest).dropWhile p = left ++ rest)
    (same : later.head? = rest.head?) :
    (start ++ later).dropWhile p = left ++ later ∧
      (start ++ later).takeWhile p = (start ++ rest).takeWhile p := by
  induction start with
  | nil =>
    have shorter := (List.dropWhile_suffix (l := rest) p).length_le
    have nothing : left = [] := by
      have lengths := congrArg List.length stops
      simp only [List.nil_append, List.length_append] at lengths
      exact List.eq_nil_of_length_eq_zero (by omega)
    subst nothing
    cases rest with
    | nil => simp_all
    | cons line rest =>
      obtain ⟨more, rfl⟩ := List.head?_eq_some_iff.mp (same.trans rfl)
      have refused : ¬ p line = true := by
        intro accepted
        have dropped := (List.dropWhile_suffix (l := rest) p).length_le
        have lengths := congrArg List.length stops
        simp only [List.nil_append, List.dropWhile_cons, accepted, if_true, List.length_cons]
          at lengths
        omega
      simp [refused]
  | cons line start ih =>
    by_cases accepted : p line = true
    · simp only [List.cons_append, List.dropWhile_cons, List.takeWhile_cons, accepted,
        if_true] at stops ⊢
      obtain ⟨dropped, taken⟩ := ih stops
      exact ⟨dropped, by rw [taken]⟩
    · simp only [List.cons_append, List.dropWhile_cons, List.takeWhile_cons, accepted] at stops ⊢
      have whole : line :: start = left := List.append_cancel_right stops
      subst whole
      exact ⟨rfl, rfl⟩

theorem ArtifactBody.fenced_frame {first : Line}
    (stops : (ArtifactBody.fenced first (start ++ rest)).rest = left ++ rest)
    (same : later.head? = rest.head?) :
    ArtifactBody.fenced first (start ++ later) =
      { ArtifactBody.fenced first (start ++ rest) with rest := left ++ later } := by
  rcases ArtifactKind.exists_first_close start with ⟨inside, close, more, rfl, unclosed, closes⟩ |
    unclosed
  · simp only [List.append_assoc, List.cons_append] at stops ⊢
    rw [ArtifactKind.fenced_closed unclosed closes] at stops ⊢
    rw [ArtifactKind.fenced_closed unclosed closes]
    have whole : left = more := (List.append_cancel_right stops).symm
    subst whole
    rfl
  · rcases ArtifactKind.exists_first_close rest with
      ⟨inside, close, more, rfl, restUnclosed, closes⟩ | restUnclosed
    · have through : ∀ line ∈ start ++ inside, Fence.isClose line = false := by
        intro line member
        exact (List.mem_append.mp member).elim (unclosed line) (restUnclosed line)
      rw [← List.append_assoc, ArtifactKind.fenced_closed through closes] at stops
      have lengths := congrArg List.length stops
      simp only [List.length_append, List.length_cons] at lengths
      omega
    · have through : ∀ line ∈ start ++ rest, Fence.isClose line = false := by
        intro line member
        exact (List.mem_append.mp member).elim (unclosed line) (restUnclosed line)
      rw [ArtifactKind.fenced_unclosed through] at stops ⊢
      obtain ⟨rfl, rfl⟩ := List.append_eq_nil_iff.mp stops.symm
      have ended : later = [] := List.head?_eq_none_iff.mp same
      subst ended
      rw [ArtifactKind.fenced_unclosed through]
      rfl

theorem ArtifactKind.takeBody_frame {kind : ArtifactKind} {first : Line}
    (stops : (kind.takeBody (first :: start ++ rest)).rest = left ++ rest)
    (same : later.head? = rest.head?) :
    kind.takeBody (first :: start ++ later) =
      { kind.takeBody (first :: start ++ rest) with rest := left ++ later } := by
  have ofLinked (linked : kind.isLinked = true) :
      kind.takeBody (first :: start ++ later) =
        { kind.takeBody (first :: start ++ rest) with rest := left ++ later } := by
    simp only [List.cons_append] at stops ⊢
    rw [takeBody_of_linked linked] at stops ⊢
    rw [takeBody_of_linked linked]
    obtain ⟨dropped, taken⟩ := span_frame stops same
    rw [dropped, taken]
  cases kind with
  | resultFence => exact ArtifactBody.fenced_frame stops same
  | inlineResultFence => exact ArtifactBody.fenced_frame stops same
  | image =>
    have whole : left = start := (List.append_cancel_right stops).symm
    subst whole
    rfl
  | planLink => exact ofLinked rfl
  | flamegraph => exact ofLinked rfl

namespace Search

variable {search : Search} {kind : ArtifactKind}

/-- The same search with other lines before it. -/
def onto (search : Search) (unread : List Line) : Search := { search with unread }

theorem take_of_not_opens
    (closed : ∀ line, search.unread.head? = some line → kind.opens line = false) :
    search.take kind = search := by
  unfold take
  split
  · rfl
  · rename_i line more shape
    simp [closed line (by simp [shape])]

theorem take_of_opens {first : Line} {more : List Line} (shape : search.unread = first :: more)
    (opens : kind.opens first = true) : search.take kind =
      let body := kind.takeBody (first :: more)
      if body.complete then
        { search with kept := search.kept ++ body.lines, stale := true, unread := body.rest }
      else { search with trailing := body.lines, unread := body.rest } := by
  unfold take
  split
  · rename_i nothing
    simp [shape] at nothing
  · rename_i line others cut
    rw [shape] at cut
    obtain ⟨rfl, rfl⟩ := List.cons.inj cut
    rw [if_pos opens, shape]

theorem take_frame (shape : search.unread = start ++ rest)
    (stops : (search.take kind).unread = left ++ rest) (same : later.head? = rest.head?) :
    (search.onto (start ++ later)).take kind = (search.take kind).onto (left ++ later) := by
  by_cases opening : ∃ line more, search.unread = line :: more ∧ kind.opens line = true
  · obtain ⟨line, more, first, opens⟩ := opening
    have rests : (kind.takeBody (line :: more)).rest = left ++ rest := by
      rw [take_of_opens first opens] at stops
      dsimp only at stops
      split at stops <;> exact stops
    have parts := kind.takeBody_append (line :: more)
    have taken := ArtifactKind.length_takeBody_lines_pos kind line more
    cases start with
    | nil =>
      -- Something was taken, so what is left cannot be all there was.
      have all := congrArg List.length (shape.symm.trans first)
      have lengths := congrArg List.length parts
      rw [rests] at lengths
      simp only [List.nil_append, List.length_append] at all lengths
      omega
    | cons head start =>
      rw [List.cons_append] at shape ⊢
      rw [shape] at first
      obtain ⟨rfl, rfl⟩ := List.cons.inj first
      have framed := ArtifactKind.takeBody_frame rests same
      simp only [List.cons_append] at framed
      have onto : (search.onto (head :: (start ++ later))).take kind = _ :=
        take_of_opens rfl opens
      rw [onto, take_of_opens shape opens, framed]
      dsimp only
      split <;> rfl
  · have heads : (start ++ later).head? = search.unread.head? := by
      rw [shape, List.head?_append, List.head?_append, same]
    have closed : ∀ line, search.unread.head? = some line → kind.opens line = false := by
      intro line first
      obtain ⟨more, cut⟩ := List.head?_eq_some_iff.mp first
      apply Bool.eq_false_iff.mpr
      intro opens
      exact opening ⟨line, more, cut, opens⟩
    rw [take_of_not_opens closed] at stops ⊢
    rw [shape] at stops
    have whole : left = start := (List.append_cancel_right stops).symm
    subst whole
    exact take_of_not_opens fun line first => closed line (heads.symm.trans first)

theorem skipBlank_frame (shape : search.unread = start ++ rest)
    (stops : search.skipBlank.unread = left ++ rest) (same : later.head? = rest.head?) :
    (search.onto (start ++ later)).skipBlank = search.skipBlank.onto (left ++ later) := by
  simp only [skipBlank, shape] at stops
  obtain ⟨dropped, taken⟩ := span_frame stops same
  simp only [skipBlank, onto, shape, dropped, taken]

theorem takeNext_frame (shape : search.unread = start ++ rest)
    (stops : (search.takeNext kind).unread = left ++ rest) (same : later.head? = rest.head?) :
    (search.onto (start ++ later)).takeNext kind = (search.takeNext kind).onto (left ++ later) := by
  unfold takeNext at stops ⊢
  by_cases whole : search.trailing.isEmpty = true
  · have whole' : (search.onto (start ++ later)).trailing.isEmpty = true := whole
    rw [if_pos whole] at stops ⊢
    rw [if_pos whole']
    obtain ⟨middle, cut⟩ := search.skipBlank.take_unread kind
    rw [stops, ← List.append_assoc] at cut
    rw [skipBlank_frame shape cut.symm same]
    exact take_frame cut.symm stops same
  · have whole' : ¬ (search.onto (start ++ later)).trailing.isEmpty = true := whole
    rw [if_neg whole] at stops ⊢
    rw [if_neg whole']
    rw [shape] at stops
    have all : left = start := (List.append_cancel_right stops).symm
    subst all
    rfl

theorem foldl_takeNext_frame {kinds : List ArtifactKind} (shape : search.unread = start ++ rest)
    (stops : (kinds.foldl takeNext search).unread = left ++ rest)
    (same : later.head? = rest.head?) :
    kinds.foldl takeNext (search.onto (start ++ later)) =
      (kinds.foldl takeNext search).onto (left ++ later) := by
  induction kinds generalizing search start with
  | nil =>
    rw [List.foldl_nil, shape] at stops
    have all : left = start := (List.append_cancel_right stops).symm
    subst all
    rfl
  | cons kind kinds ih =>
    obtain ⟨middle, cut⟩ := foldl_takeNext_unread kinds (search.takeNext kind)
    rw [List.foldl_cons] at stops
    rw [stops, ← List.append_assoc] at cut
    rw [List.foldl_cons, List.foldl_cons, takeNext_frame shape cut.symm same]
    exact ih cut.symm stops

end Search

namespace Decision

variable {config : BlockConfig} {plan : ArtifactPlan} {read : List Line}

theorem gathered_unread (plan : ArtifactPlan) (following : List Line) :
    (gathered plan following).unread <:+ following.dropWhile Line.isBlank :=
  Search.foldl_takeNext_unread plan.kinds { unread := following.dropWhile Line.isBlank }

theorem gathered_frame (stops : (gathered plan (read ++ rest)).unread = left ++ rest)
    (same : later.head? = rest.head?) :
    gathered plan (read ++ later) = (gathered plan (read ++ rest)).onto (left ++ later) := by
  obtain ⟨front, start⟩ := stops ▸ gathered_unread plan (read ++ rest)
  rw [← List.append_assoc] at start
  have begins := (span_frame start.symm same).1
  rw [gathered, begins]
  exact Search.foldl_takeNext_frame start.symm stops same

/-- Whether the primary artifact is there shows in the lines that are read. -/
theorem judged_frame (stops : (gathered plan (read ++ rest)).unread = left ++ rest)
    (same : later.head? = rest.head?) :
    judged config plan (read ++ later) = judged config plan (read ++ rest) := by
  obtain ⟨front, start⟩ := stops ▸ gathered_unread plan (read ++ rest)
  rw [← List.append_assoc] at start
  have begins := (span_frame start.symm same).1
  have behind := Search.foldl_takeNext_unread plan.secondaries
    (Search.take plan.primary { unread := (read ++ rest).dropWhile Line.isBlank })
  rw [← gathered_eq, stops] at behind
  obtain ⟨middle, primary⟩ := behind
  rw [← List.append_assoc] at primary
  have framed := Search.take_frame start.symm primary.symm same
  rw [judged, begins]
  exact congrArg (fun search => verdict config plan search.stale) framed

theorem found_unread (config : BlockConfig) (plan : ArtifactPlan) (following : List Line) :
    (found config plan following).unread <:+ (gathered plan following).unread := by
  unfold found
  dsimp only
  split
  · exact Search.skipBlank_unread _
  · exact List.suffix_refl _

theorem found_frame (stops : (found config plan (read ++ rest)).unread = rest)
    (same : later.head? = rest.head?) :
    found config plan (read ++ later) = (found config plan (read ++ rest)).onto later := by
  obtain ⟨left, all⟩ := stops ▸ found_unread config plan (read ++ rest)
  have framed := gathered_frame all.symm same
  have judgement : judged config plan (read ++ later) = judged config plan (read ++ rest) :=
    judged_frame all.symm same
  by_cases ends : ((judged config plan (read ++ rest)).1 && (gathered plan (read ++ rest)).stale &&
      (gathered plan (read ++ rest)).trailing.isEmpty) = true
  · have first : found config plan (read ++ rest) = (gathered plan (read ++ rest)).skipBlank :=
      if_pos ends
    have second : found config plan (read ++ later) =
        ((gathered plan (read ++ rest)).onto (left ++ later)).skipBlank := by
      unfold found
      rw [framed, judgement]
      exact if_pos ends
    rw [first] at stops ⊢
    rw [second]
    have nothing : (gathered plan (read ++ rest)).skipBlank.unread = [] ++ rest := stops
    exact Search.skipBlank_frame all.symm nothing same
  · have first : found config plan (read ++ rest) = gathered plan (read ++ rest) := if_neg ends
    have second : found config plan (read ++ later) =
        (gathered plan (read ++ rest)).onto (left ++ later) := by
      unfold found
      rw [framed, judgement]
      exact if_neg ends
    rw [first, ← all] at stops
    have nothing : left = [] := by simpa using stops
    rw [first, second, nothing, List.nil_append]

theorem inspect_frame (stops : (inspect config plan (read ++ rest)).unread = rest)
    (same : later.head? = rest.head?) :
    inspect config plan (read ++ later) =
      { inspect config plan (read ++ rest) with unread := later } := by
  rw [inspect_eq] at stops
  have stops : (found config plan (read ++ rest)).unread = rest := stops
  have total := (found_accounts config plan (read ++ rest)).total
  have judgement : judged config plan (read ++ later) = judged config plan (read ++ rest) := by
    obtain ⟨left, all⟩ := stops ▸ found_unread config plan (read ++ rest)
    exact judged_frame all.symm same
  rw [stops] at total
  rw [inspect_eq, inspect_eq, judgement, found_frame stops same, (span_frame total.symm same).2]
  rfl

/-- A decision hangs on nothing beyond the first line that it leaves unread. -/
theorem forBlock_frame {content : Text}
    (stops : (forBlock config plan content (read ++ rest)).unread = rest)
    (same : later.head? = rest.head?) :
    forBlock config plan content (read ++ later) =
      { forBlock config plan content (read ++ rest) with unread := later } := by
  rcases forBlock_cases config plan content with ⟨execute, reason, decided⟩ | decided
  · rw [decided] at stops
    have nothing : read = [] := by simpa [untouched] using stops
    rw [decided, decided, nothing]
    rfl
  · rw [decided] at stops
    rw [decided, decided]
    exact inspect_frame stops same

end Decision

end Frame
end Runbook
