import Runbook.Proofs.Locality

/-! What a pass asks of its surroundings. Every call is written down with its answer, and the record
holds the closed blocks that are due and the plans of queries, each once and in order. -/
namespace Runbook

/-- A call of the surroundings, and what it was answered. -/
inductive Effect
  | executed (request : Request) (answer : Except Failure Outcome)
  | submitted (plan : Text) (link : Option Text)
  | saved (picture : Text) (name : Option Text)

namespace Effect

def execution? : Effect → Option (Request × Except Failure Outcome)
  | .executed request answer => some (request, answer)
  | _ => none

def submission? : Effect → Option Text
  | .submitted plan _ => some plan
  | _ => none

end Effect

/-- The same surroundings, with a record of every call. -/
def Services.recorded (services : Services σ) : Services (σ × List Effect) where
  execute request state :=
    let (answer, after) := services.execute request state.1
    (answer, after, state.2 ++ [.executed request answer])
  submit plan state :=
    let (link, after) := services.submit plan state.1
    (link, after, state.2 ++ [.submitted plan link])
  save picture state :=
    let (name, after) := services.save picture state.1
    (name, after, state.2 ++ [.saved picture name])

/-- The plan that is shown to the service after a block has run: the output of a query, if it was
asked to explain itself and has come to a good end with a document in JSON. -/
def Block.shown (block : Block) (outcome : Outcome) : Option Text :=
  if block.language.resultKind = .structuredPlan ∧ block.config.explain = true ∧
      outcome.exitCode = some 0 ∧ (Json.parse? (Text.trim outcome.stdout)).isSome then
    some (Text.trim outcome.stdout)
  else none

theorem Splice.visuals_submit (block : Block) (outcome : Outcome) :
    (visuals block.config block.language.resultKind outcome).submit = block.shown outcome := by
  unfold visuals Block.shown ArtifactPlan.isVisualized Outcome.isSuccess
  cases block.language.resultKind <;> cases block.config.explain <;> simp <;> split <;> simp_all

theorem Block.request_eq (block : Block) : block.request =
    { language := block.language
      content :=
        if block.language.resultKind = .inlineAnnotated then Annotation.strip block.body.flatten
        else block.body.flatten
      options := ⟨block.config.explain, block.config.flamegraph⟩ } := by
  unfold Block.request Block.source Block.plan Block.content
  simp only [ArtifactPlan.forBlock_inline, beq_iff_eq]

/-- The blocks that are due, the calls they lead to and the plans that are shown. A call that fails
is the last one. -/
inductive Leads : List Block → List (Request × Except Failure Outcome) → List Text →
    Option Failure → Prop
  | done : Leads [] [] [] none
  | failed {block : Block} {more : List Block} {failure : Failure} :
      Leads (block :: more) [(block.request, .error failure)] [] (some failure)
  | ran {block : Block} {more : List Block} {outcome : Outcome}
      {calls : List (Request × Except Failure Outcome)} {plans : List Text}
      {failure : Option Failure} : Leads more calls plans failure →
      Leads (block :: more) ((block.request, .ok outcome) :: calls)
        ((block.shown outcome).toList ++ plans) failure

namespace Leads

variable {due : List Block} {calls : List (Request × Except Failure Outcome)} {plans : List Text}
  {failure : Option Failure}

theorem requests (leads : Leads due calls plans failure) :
    calls.map Prod.fst = (due.take calls.length).map Block.request := by
  induction leads with
  | done => rfl
  | failed => simp
  | ran _ ih => simp [ih]

theorem complete (leads : Leads due calls plans none) : calls.length = due.length := by
  generalize ends : none = failure at leads
  induction leads with
  | done => rfl
  | failed => contradiction
  | ran _ ih => simp [ih ends]

theorem failed_iff (leads : Leads due calls plans failure) (stop : Failure) :
    failure = some stop ↔ ∃ earlier request, calls = earlier ++ [(request, .error stop)] := by
  induction leads with
  | done => simp
  | @failed block more failure =>
    constructor
    · rintro ⟨⟩
      exact ⟨[], block.request, rfl⟩
    · rintro ⟨earlier, request, shape⟩
      have last := congrArg List.getLast? shape
      simp at last
      exact congrArg some last.2
  | @ran block more outcome calls plans failure leads ih =>
    rw [ih]
    constructor
    · rintro ⟨earlier, request, rfl⟩
      exact ⟨_ :: earlier, request, rfl⟩
    · rintro ⟨earlier, request, shape⟩
      cases earlier with
      | nil => simp at shape
      | cons call earlier => exact ⟨earlier, request, (List.cons.inj shape).2⟩

theorem answered (leads : Leads due calls plans failure) {earlier later : List _}
    {call : Request × Except Failure Outcome} (shape : calls = earlier ++ call :: later)
    (followed : later ≠ []) : ∃ outcome, call.2 = .ok outcome := by
  induction leads generalizing earlier with
  | done => simp at shape
  | failed =>
    cases earlier with
    | nil => exact absurd (List.cons.inj shape).2.symm followed
    | cons first earlier => simp at shape
  | ran _ ih =>
    cases earlier with
    | nil => exact ⟨_, (congrArg Prod.snd (List.cons.inj shape).1).symm⟩
    | cons first earlier => exact ih (List.cons.inj shape).2

theorem shown (leads : Leads due calls plans failure) :
    plans = (due.zip calls).filterMap fun (block, _, answer) =>
      answer.toOption.bind block.shown := by
  induction leads with
  | done => rfl
  | failed => simp [Except.toOption]
  | @ran block more outcome calls plans failure leads ih =>
    rw [List.zip_cons_cons, List.filterMap_cons, ← ih]
    cases shown : block.shown outcome <;> simp [Except.toOption, shown]

end Leads

namespace Services

variable (services : Services σ)

theorem recorded_answer (visuals : Visuals) (state : σ) (log : List Effect) :
    ∃ more, services.recorded.answer visuals (state, log) =
        ((services.answer visuals state).1, (services.answer visuals state).2, log ++ more) ∧
      more.filterMap Effect.execution? = [] ∧
      more.filterMap Effect.submission? = visuals.submit.toList := by
  cases submit : visuals.submit with
  | none =>
    cases draw : visuals.draw with
    | none => exact ⟨[], by simp [answer, ask, submit, draw], rfl, rfl⟩
    | some picture =>
      exact ⟨_, by simp only [answer, ask, submit, draw, recorded]; rfl, rfl, rfl⟩
  | some plan =>
    cases draw : visuals.draw with
    | none => exact ⟨_, by simp only [answer, ask, submit, draw, recorded]; rfl, rfl, rfl⟩
    | some picture =>
      exact ⟨_, by simp only [answer, ask, submit, draw, recorded, List.append_assoc]; rfl, rfl,
        rfl⟩

end Services

def Segment.due? : Segment → Option Block
  | .copied _ => none
  | .block closed => if closed.decision.execute then some closed else none

namespace Pass

/-- Being recorded changes nothing about a run, and the record holds what its blocks lead to. -/
theorem run_recorded (services : Services σ) (state : σ) (log : List Effect)
    (todo : List Segment) :
    ∃ more, run services.recorded (state, log) todo =
        { run services state todo with
          state := ((run services state todo).state, log ++ more) } ∧
      Leads (todo.filterMap Segment.due?) (more.filterMap Effect.execution?)
        (more.filterMap Effect.submission?) (run services state todo).failure := by
  -- Along the segments: the record grows by what each of them leads to.
  induction todo generalizing state log with
  | nil => exact ⟨[], by simp [run], .done⟩
  | cons segment todo ih =>
    cases segment with
    | copied line =>
      obtain ⟨more, same, leads⟩ := ih state log
      refine ⟨more, ?_, leads⟩
      rw [run, same, run]
      rfl
    | block block =>
      cases due : block.decision.execute with
      | false =>
        obtain ⟨more, same, leads⟩ := ih state log
        have idle : Segment.due? (.block block) = none := if_neg (by simp [due])
        rw [run_kept due, run_kept due, same, List.filterMap_cons, idle]
        exact ⟨more, rfl, leads⟩
      | true =>
        rw [List.filterMap_cons, show Segment.due? (.block block) = some block from if_pos due]
        cases called : services.execute block.request state with
        | mk answer after =>
        have noted : services.recorded.execute block.request (state, log) =
            (answer, after, log ++ [.executed block.request answer]) := by
          simp only [Services.recorded, called]
        cases answer with
        | error failure =>
          refine ⟨[.executed block.request (.error failure)], ?_, ?_⟩
          · rw [run, if_pos due, noted, run, if_pos due, called]
          · rw [run_failed due called]
            exact .failed
        | ok outcome =>
          rw [run_executed due noted, run_executed due called]
          obtain ⟨shown, answered, silent, plans⟩ := services.recorded_answer
            (Splice.visuals block.config block.language.resultKind outcome) after
            (log ++ [.executed block.request (.ok outcome)])
          rw [answered]
          obtain ⟨more, same, leads⟩ := ih
            (services.answer (Splice.visuals block.config block.language.resultKind outcome)
              after).2 (log ++ [.executed block.request (.ok outcome)] ++ shown)
          refine ⟨.executed block.request (.ok outcome) :: (shown ++ more), ?_, ?_⟩
          · rw [same]
            simp [Run.prepend]
          · simp only [List.filterMap_cons, List.filterMap_append, Effect.execution?,
              Effect.submission?, silent, plans, List.nil_append, Splice.visuals_submit]
            exact .ran leads

theorem blocks_due (document : Text) :
    (blocks document).filter (fun block => block.decision.execute) =
      (scanned document).filterMap Segment.due? := by
  rw [blocks, List.filter_filterMap]
  congr 1
  funext segment
  cases segment with
  | copied line => rfl
  | block closed => simp [Segment.due?, Option.filter]

end Pass

theorem ScanState.opens_block {defaults : Defaults} {line : Line} {opened : OpenBlock}
    (opens : afterOutside defaults line = .inBlock opened) :
    ∃ header, Fence.Header.parse? line = some header ∧
      Language.lookup (defaults.resolveTag header.tag) = some opened.language ∧
      opened.config =
        .resolve (defaults.resolveTag header.tag) (.parse header.rawOptions) defaults := by
  unfold afterOutside at opens
  split at opens
  · contradiction
  · split at opens
    · rename_i block found
      cases opens
      obtain ⟨header, parsed, made⟩ := Option.bind_eq_some_iff.mp found
      obtain ⟨language, named, rfl⟩ := Option.map_eq_some_iff.mp made
      exact ⟨header, parsed, named, rfl⟩
    · contradiction

/-- Right before a closed block stands the line that has opened it, unless the block was open from
the start. The scan comes to that line outside any block, past the lines before it. -/
theorem segments_opening (defaults : Defaults) (state : ScanState) (lines : List Line)
    {before after : List Segment} {closed : Block}
    (parts : segments defaults state lines = before ++ .block closed :: after) :
    (∃ earlier fence n following opened, before = earlier ++ [.copied fence] ∧
      ScanState.after defaults n (state, lines) = (.outside, fence :: following) ∧
      earlier.flatMap Segment.source ++ fence :: following = state.pending ++ lines ∧
      ScanState.afterOutside defaults fence = .inBlock opened ∧
      opened.language = closed.language ∧ opened.config = closed.config) ∨
    before = [] ∧ ∃ opened, state = .inBlock opened ∧
      opened.language = closed.language ∧ opened.config = closed.config := by
  fun_induction segments defaults state lines generalizing before with
  | case1 opened =>
    have member : .block closed ∈ opened.body.map Segment.copied := by simp [parts]
    simp at member
  | case2 state other => simp at parts
  | case3 line following ih =>
    cases before with
    | nil => simp at parts
    | cons segment before =>
      obtain ⟨rfl, rest⟩ := List.cons.inj parts
      rcases ih rest with ⟨earlier, fence, n, more, opened, rfl, reached, past, found⟩ |
        ⟨rfl, opened, found⟩
      · rw [ScanState.pending_afterOutside] at past
        exact .inl ⟨.copied line :: earlier, fence, n + 1, more, opened, rfl, reached,
          congrArg (line :: ·) past, found⟩
      · exact .inl ⟨[], line, 0, following, opened, rfl, rfl, rfl, found⟩
  | case4 line following ih =>
    simp only [dite_eq_ite] at ih
    cases before with
    | nil => simp at parts
    | cons segment before =>
      obtain ⟨rfl, rest⟩ := List.cons.inj parts
      rcases ih rest with ⟨earlier, fence, n, more, opened, rfl, reached, past, found⟩ |
        ⟨-, opened, found, -⟩
      · have idle : (if Fence.isClose line then ScanState.outside else .inResult).pending = [] := by
          split <;> rfl
        rw [idle] at past
        exact .inl ⟨.copied line :: earlier, fence, n + 1, more, opened, rfl, reached,
          congrArg (line :: ·) past, found⟩
      · split at found <;> contradiction
  | case5 opened line following closes ih =>
    cases before with
    | nil =>
      obtain ⟨same, -⟩ := List.cons.inj parts
      rw [← Segment.block.inj same]
      exact .inr ⟨rfl, opened, rfl, rfl, rfl⟩
    | cons segment before =>
      obtain ⟨rfl, rest⟩ := List.cons.inj parts
      rcases ih rest with ⟨earlier, fence, n, more, opened', rfl, reached, past, found⟩ |
        ⟨-, opened, found, -⟩
      · refine .inl ⟨.block (opened.close line following) :: earlier, fence, n + 1, more, opened',
          rfl, ?_, ?_, found⟩
        · simpa only [ScanState.after, ScanState.next, if_pos closes] using reached
        · have read := opened.close_read_append line following
          rw [List.flatMap_cons, List.append_assoc, past]
          simp only [Segment.source, ScanState.pending, List.nil_append, List.append_assoc,
            List.cons_append]
          rw [read]
          rfl
      · contradiction
  | case6 opened line following unclosed ih =>
    rcases ih parts with ⟨earlier, fence, n, more, opened', rfl, reached, past, found⟩ |
      ⟨rfl, block, same, found⟩
    · refine .inl ⟨earlier, fence, n + 1, more, opened', rfl, ?_, ?_, found⟩
      · simpa only [ScanState.after, ScanState.next, if_neg unclosed] using reached
      · rw [past]
        simp [ScanState.pending, OpenBlock.add]
    · cases same
      exact .inr ⟨rfl, opened, rfl, found⟩

/-- How a closed block stands in a document: the line that opens it and what that line says, the
lines inside, the closing fence, and the lines behind, from which it is decided whether the block
is due. -/
structure Block.Stands (document : Text) (block : Block) (before : List Line) (fence : Line)
    (header : Fence.Header) (following : List Line) : Prop where
  lines : Text.lines document = before ++ fence :: (block.body ++ block.close :: following)
  unclosed : ∀ line ∈ block.body, Fence.isClose line = false
  closes : Fence.isClose block.close = true
  parsed : Fence.Header.parse? fence = some header
  language : Language.lookup
    ((Frontmatter.split (Text.lines document)).defaults.resolveTag header.tag) =
      some block.language
  config : block.config = .resolve
    ((Frontmatter.split (Text.lines document)).defaults.resolveTag header.tag)
    (.parse header.rawOptions) (Frontmatter.split (Text.lines document)).defaults
  decision : block.decision =
    .forBlock block.config (.forBlock block.config block.language.resultKind)
      block.body.flatten following

namespace Pass

theorem scanned_opening {document : Text} {before after : List Segment} {block : Block}
    (parts : scanned document = before ++ .block block :: after) :
    let front := Frontmatter.split (Text.lines document)
    ∃ earlier fence n following opened, before = earlier ++ [.copied fence] ∧
      ScanState.after front.defaults n (.outside, front.rest) = (.outside, fence :: following) ∧
      earlier.flatMap Segment.source ++ fence :: following = Text.lines document ∧
      ScanState.afterOutside front.defaults fence = .inBlock opened ∧
      opened.language = block.language ∧ opened.config = block.config := by
  intro front
  have whole := Frontmatter.split_append (Text.lines document)
  have start : ∃ middle, before = front.lines.map .copied ++ middle ∧
      segments front.defaults .outside front.rest = middle ++ .block block :: after := by
    rw [scanned] at parts
    rcases List.append_eq_append_iff.mp parts with ⟨middle, rfl, rest⟩ | ⟨middle, copied, rest⟩
    · exact ⟨middle, rfl, rest⟩
    · cases middle with
      | nil => exact ⟨[], by rw [List.append_nil, ← List.append_nil before, ← copied], rest.symm⟩
      | cons segment middle =>
        obtain ⟨rfl, -⟩ := List.cons.inj rest
        have among : .block block ∈ front.lines.map Segment.copied := by simp [front, copied]
        simp at among
  obtain ⟨middle, rfl, rest⟩ := start
  rcases segments_opening _ _ _ rest with
    ⟨earlier, fence, n, following, opened, rfl, reached, past, found⟩ | ⟨-, opened, outside, -⟩
  · refine ⟨front.lines.map .copied ++ earlier, fence, n, following, opened,
      (List.append_assoc ..).symm, reached, ?_, found⟩
    rw [List.flatMap_append, source_copied, List.append_assoc, past]
    exact whole
  · contradiction

theorem blocks_stand {document : Text} {block : Block} (member : block ∈ blocks document) :
    ∃ before fence header following, block.Stands document before fence header following := by
  have scan := mem_blocks.mp member
  obtain ⟨before, after, parts⟩ := List.append_of_mem scan
  obtain ⟨opened, close, following, same, closes⟩ := scanned_origin document scan
  have lines := scanned_lines parts
  have behind : block.read ++ block.decision.unread = following := by
    rw [same]
    exact opened.close_read_append close following
  obtain ⟨earlier, fence, -, -, opening, rfl, -, -, opens, language, config⟩ :=
    scanned_opening parts
  obtain ⟨header, parsed, named, resolved⟩ := ScanState.opens_block opens
  refine ⟨earlier.flatMap Segment.source, fence, header, following, ?_, ?_, ?_, parsed, ?_, ?_, ?_⟩
  · rw [lines, behind]
    simp [Segment.source]
  · exact scanned_unclosed_body document scan
  · rw [same]
    exact closes
  · rw [named, language]
  · rw [← config, resolved]
  · rw [same]
    rfl

/-- A pass asks for nothing but what its document calls for. The interpreter is called for the
closed blocks that are due, once each and in order, with the name of the language, the text and
the options of the block; a call that fails is the last one, and the pass fails with it. The plans
that are shown to the service are the outputs of the queries that have run, were to be explained
and came to a good end with a document in JSON. -/
theorem ofDocument_effects (services : Services σ) (state : σ) (document : Text) :
    let run := ofDocument services state document
    let recorded := ofDocument services.recorded (state, []) document
    let due := (blocks document).filter fun block => block.decision.execute
    let calls := recorded.state.2.filterMap Effect.execution?
    let plans := recorded.state.2.filterMap Effect.submission?
    recorded = { run with state := (run.state, recorded.state.2) } ∧
      (∀ block ∈ due, ∃ before fence header following,
        block.Stands document before fence header following) ∧
      calls.map Prod.fst = (due.take calls.length).map (fun block =>
        { language := block.language
          content :=
            if block.language.resultKind = .inlineAnnotated then
              Annotation.strip block.body.flatten
            else block.body.flatten
          options := ⟨block.config.explain, block.config.flamegraph⟩ }) ∧
      (run.failure = none → calls.length = due.length) ∧
      (∀ earlier call later, calls = earlier ++ call :: later → later ≠ [] →
        ∃ outcome, call.2 = .ok outcome) ∧
      (∀ failure, run.result = .error failure ↔
        ∃ earlier request, calls = earlier ++ [(request, .error failure)]) ∧
      plans = (due.zip calls).filterMap fun (block, _, answer) =>
        answer.toOption.bind block.shown := by
  intro run recorded due calls plans
  obtain ⟨log, same, leads⟩ := run_recorded services state [] (scanned document)
  rw [← ofDocument_eq, ← ofDocument_eq, List.nil_append] at same
  rw [← ofDocument_eq, ← blocks_due] at leads
  have noted : recorded.state.2 = log := by rw [show recorded = _ from same]
  have led : Leads due calls plans run.failure := by
    rw [show calls = log.filterMap Effect.execution? from congrArg _ noted,
      show plans = log.filterMap Effect.submission? from congrArg _ noted]
    exact leads
  refine ⟨?_, ?_, ?_, ?_, ?_, ?_, led.shown⟩
  · rw [noted]
    exact same
  · intro block member
    exact blocks_stand (List.mem_filter.mp member).1
  · rw [led.requests]
    exact List.map_congr_left fun block _ => block.request_eq
  · intro done
    exact (done ▸ led).complete
  · intro earlier call later shape followed
    exact led.answered shape followed
  · intro failure
    rw [← led.failed_iff, Run.result]
    cases run.failure <;> simp

end Pass
end Runbook
