import Runbook.Pass
import Runbook.Proofs.Lines
import Runbook.Proofs.Ownership

/-! What a run writes, line by line. Every artifact that is rendered is a whole artifact of a
kind that the block owns, and the artifacts come in the order of the plan, as long as no text
in them breaks out of its place. -/
namespace Runbook

namespace Text

theorem trim_terminated (text : Text) : trim (terminated text) = trim text := by
  have white : isBlankText ['\n'] = true := by decide
  have padded : trim ([] ++ text ++ ['\n']) = trim text := trim_padded rfl white
  unfold terminated
  split
  · rfl
  · simpa using padded

theorem AreLines.lines_terminated {all : List Line} (valid : AreLines all) :
    lines (Text.terminated all.flatten) =
      if all = [] then [['\n']] else all.map Text.terminated := by
  induction valid with
  | nil => rfl
  | @last line nonempty single =>
    have ended : Line.IsEnded (Text.terminated line) :=
      (AreLines.last nonempty single).terminated (by simp)
    have cut := lines_ended_append ended []
    simp only [List.append_nil] at cut
    simp [cut, lines]
  | @cons line more ended valid ih =>
    have same : Text.terminated line = line := by
      rw [Text.terminated, if_pos ended.endsLine]
    by_cases alone : more = []
    · subst alone
      have cut := lines_ended_append ended []
      simp only [List.append_nil] at cut
      simp [same, cut, lines]
    · have filled : more.flatten ≠ [] := by
        intro empty
        have back := valid.lines_flatten
        rw [empty] at back
        exact alone back.symm
      have last : Text.terminated (line :: more).flatten =
          line ++ Text.terminated more.flatten := by
        have ends : endsLine (line ++ more.flatten) = endsLine more.flatten := by
          rw [endsLine, endsLine, List.getLast?_append,
            Option.or_of_isSome (List.getLast?_isSome.mpr filled)]
        unfold Text.terminated
        rw [List.flatten_cons, ends]
        split
        · rfl
        · rw [List.append_assoc]
      rw [last, lines_ended_append ended, ih, if_neg alone]
      simp [same]

end Text

theorem Fence.isClose_terminated (line : Line) :
    isClose (Text.terminated line) = isClose line := by
  rw [isClose, isClose, Text.trim_terminated]

namespace Line

/-- The newline at the end of a line is all that is stripped if a sign stands before it. -/
theorem stripTerminator_ended (text : Text) {c : Char} (sign : c ≠ '\n' ∧ c ≠ '\r') :
    stripTerminator (text ++ [c, '\n']) = text ++ [c] := by
  simp [stripTerminator, sign.1, sign.2]

end Line

/-- An artifact as a run writes it. A blank line follows its body. -/
structure Written where
  kind : ArtifactKind
  body : List Line
  whole : kind.IsWhole body
  ended : ∀ line ∈ body, Line.IsEnded line

namespace Written

def lines (written : Written) : List Line := written.body ++ [['\n']]

def text (written : Written) : Text := written.lines.flatten

/-- The lines of artifacts one after the other. -/
def spread (written : List Written) : List Line := written.flatMap lines

theorem spread_cons (first : Written) (more : List Written) :
    spread (first :: more) = first.lines ++ spread more := List.flatMap_cons

theorem spread_flatten (written : List Written) :
    (spread written).flatten = (written.map text).flatten := by
  induction written with
  | nil => rfl
  | cons first more ih => simp [spread_cons, ih, text]

theorem ended_lines (written : Written) : ∀ line ∈ written.lines, Line.IsEnded line := by
  intro line member
  rcases List.mem_append.mp member with member | member
  · exact written.ended line member
  · rw [List.mem_singleton.mp member]
    exact Line.isEnded_newline

theorem ended_spread {written : List Written} :
    ∀ line ∈ spread written, Line.IsEnded line := by
  intro line member
  obtain ⟨artifact, -, member⟩ := List.mem_flatMap.mp member
  exact artifact.ended_lines line member

theorem lines_text (written : Written) : Text.lines written.text = written.lines := by
  have cut := Text.lines_flatten_append written.ended_lines []
  rw [List.append_nil] at cut
  rw [text, cut, Text.lines, List.append_nil]

theorem lines_head (written : Written) :
    ∃ first more, written.lines = first :: more ∧ written.kind.opens first = true := by
  obtain ⟨first, more, body, opens⟩ := written.whole.head
  exact ⟨first, more ++ [['\n']], by simp [lines, body], opens⟩

end Written

/-- Nothing that a run writes breaks out of its place: no line of a result closes its fence, and
an address or a name is one line. -/
structure Spliced.Contained (spliced : Spliced) : Prop where
  result : ∀ text, resultFence text ∈ spliced.artifacts →
    ∀ line ∈ Text.lines text, Fence.isClose line = false
  link : ∀ address, planLink address ∈ spliced.artifacts → '\n' ∉ address
  picture : ∀ name, flamegraphImage name ∈ spliced.artifacts → '\n' ∉ name
  diagram : ∀ name, diagramImage name ∈ spliced.artifacts → '\n' ∉ name

namespace Written

theorem ofResult {text : Text} (unclosed : ∀ line ∈ Text.lines text, Fence.isClose line = false) :
    ∃ written : Written, written.kind = .resultFence ∧ written.text = resultFence text := by
  have valid := Text.areLines_lines text
  have cut := valid.lines_terminated
  rw [Text.lines_flatten] at cut
  have inside : ∀ line ∈ Text.lines (Text.terminated text),
      Line.IsEnded line ∧ Fence.isClose line = false := by
    rw [cut]
    split
    · intro line member
      rw [List.mem_singleton.mp member]
      exact ⟨Line.isEnded_newline, by decide⟩
    · intro line member
      obtain ⟨original, source, rfl⟩ := List.mem_map.mp member
      refine ⟨valid.terminated source, ?_⟩
      rw [Fence.isClose_terminated]
      exact unclosed original source
  let first : Line := "```RESULT\n".toList
  let close : Line := "```\n".toList
  refine ⟨⟨.resultFence, first :: Text.lines (Text.terminated text) ++ [close], ?_, ?_⟩, rfl, ?_⟩
  · exact .fenced rfl (by decide) (fun line member => (inside line member).2) (by decide)
  · intro line member
    simp only [List.cons_append, List.mem_cons, List.mem_append, List.not_mem_nil, or_false]
      at member
    rcases member with rfl | member | rfl
    · exact ⟨"```RESULT".toList, by decide, rfl⟩
    · exact (inside line member).1
    · exact ⟨"```".toList, by decide, rfl⟩
  · simp [Written.text, lines, resultFence, Text.lines_flatten, first, close, Fence.marker]

theorem lines_resultFence (text : Text) :
    ∃ more, Text.lines (resultFence text) = "```RESULT\n".toList :: more := by
  have ended : Line.IsEnded "```RESULT\n".toList := ⟨"```RESULT".toList, by decide, rfl⟩
  have cut := Text.lines_ended_append ended (Text.terminated text ++ Fence.marker ++ "\n\n".toList)
  have shape : resultFence text =
      "```RESULT\n".toList ++ (Text.terminated text ++ Fence.marker ++ "\n\n".toList) := by
    simp [resultFence, Fence.marker]
  exact ⟨_, shape ▸ cut⟩

theorem isFenced_of_result {written : Written} {text : Text}
    (same : written.text = resultFence text) : written.kind.isFenced = true := by
  obtain ⟨more, result⟩ := lines_resultFence text
  obtain ⟨first, others, lines, opens⟩ := written.lines_head
  rw [← same, lines_text, lines] at result
  obtain ⟨rfl, -⟩ := List.cons.inj result
  generalize written.kind = kind at opens
  revert opens
  cases kind <;> decide

theorem length_body {written : Written} {text : Text} (single : '\n' ∉ text)
    (same : written.text = text ++ ")\n\n".toList) : written.body.length = 1 := by
  have ended : Line.IsEnded (text ++ ")\n".toList) := by
    refine ⟨text ++ [')'], ?_, by simp⟩
    simp only [List.mem_append, List.mem_singleton, not_or]
    exact ⟨single, by decide⟩
  have cut := Text.lines_ended_append ended "\n".toList
  rw [List.append_assoc, show ")\n".toList ++ "\n".toList = ")\n\n".toList from rfl, ← same,
    lines_text, lines] at cut
  have alone : written.body ++ [['\n']] = [text ++ ")\n".toList] ++ [['\n']] := cut
  rw [List.append_cancel_right alone]
  rfl

theorem ofLine {kind : ArtifactKind} {text : Text} (unfenced : kind.isFenced = false)
    (single : '\n' ∉ text) (opens : kind.opens (text ++ [')', '\n']) = true) :
    ∃ written : Written, written.kind = kind ∧ written.text = text ++ ")\n\n".toList := by
  have whole : kind.IsWhole [text ++ [')', '\n']] := by
    cases kind with
    | resultFence => exact absurd unfenced (by decide)
    | inlineResultFence => exact absurd unfenced (by decide)
    | image => exact .image opens
    | planLink => exact .linked rfl opens (by simp)
    | flamegraph => exact .linked rfl opens (by simp)
  have ended : ∀ line ∈ [text ++ [')', '\n']], Line.IsEnded line := by
    intro line member
    rw [List.mem_singleton.mp member]
    exact ⟨text ++ [')'], by simp [single], by simp⟩
  exact ⟨⟨kind, _, whole, ended⟩, rfl, by simp [Written.text, lines]⟩

theorem ofLink {address : Text} (single : '\n' ∉ address) :
    ∃ written : Written, written.kind = .planLink ∧ written.text = planLink address := by
  have line : '\n' ∉ ArtifactKind.planLinkLabel ++ " [View Query Plan](".toList ++ address := by
    have label : '\n' ∉ ArtifactKind.planLinkLabel ++ " [View Query Plan](".toList := by decide
    simp only [List.mem_append, not_or] at label ⊢
    exact ⟨label, single⟩
  have opens : ArtifactKind.planLink.opens
      (ArtifactKind.planLinkLabel ++ " [View Query Plan](".toList ++ address ++ [')', '\n']) =
        true := by
    rw [ArtifactKind.opens, Line.stripTerminator_ended _ (by decide), List.append_assoc,
      List.append_assoc]
    simp
  have written := ofLine rfl line opens
  unfold Runbook.planLink
  exact written

theorem ofPicture {name : Text} (single : '\n' ∉ name) :
    ∃ written : Written, written.kind = .flamegraph ∧ written.text = flamegraphImage name := by
  have line : '\n' ∉ ArtifactKind.flamegraphLabel ++ '(' :: name := by
    have label : '\n' ∉ ArtifactKind.flamegraphLabel := by decide
    simp only [List.mem_append, List.mem_cons, not_or]
    exact ⟨label, by decide, single⟩
  have opens : ArtifactKind.flamegraph.opens
      (ArtifactKind.flamegraphLabel ++ '(' :: name ++ [')', '\n']) = true := by
    rw [ArtifactKind.opens, Line.stripTerminator_ended _ (by decide), List.append_assoc]
    simp
  have written := ofLine rfl line opens
  unfold flamegraphImage
  exact written

theorem isSvgImage_diagram {stem : Text} (single : '\n' ∉ stem) :
    ArtifactKind.isSvgImage ("![Mermaid Diagram](".toList ++ (stem ++ ".svg".toList) ++ [')']) =
      true := by
  have opened : Text.after? "![".toList
      ("![Mermaid Diagram](".toList ++ (stem ++ ".svg".toList) ++ [')']) =
        some ("Mermaid Diagram](".toList ++ stem ++ ".svg)".toList) := by
    have shape : "![Mermaid Diagram](".toList ++ (stem ++ ".svg".toList) ++ [')'] =
        "![".toList ++ ("Mermaid Diagram](".toList ++ stem ++ ".svg)".toList) := by simp
    rw [shape, Text.after?_append]
  have suffix : ".svg)".toList.isSuffixOf
      (("Mermaid Diagram](".toList ++ stem ++ ".svg)".toList).map Fence.fold) = true := by
    rw [List.isSuffixOf_iff_suffix, List.map_append]
    exact ⟨_, congrArg _ (by decide)⟩
  have inner : ("Mermaid Diagram](".toList ++ stem ++ ".svg)".toList).take
      (("Mermaid Diagram](".toList ++ stem ++ ".svg)".toList).length - 5) =
        "Mermaid Diagram](".toList ++ stem := by
    apply List.take_left'
    simp
  have between : Text.occursIn "](".toList ("Mermaid Diagram](".toList ++ stem) = true := by
    rw [Text.occursIn_iff]
    exact ⟨"Mermaid Diagram".toList, stem, by simp⟩
  unfold ArtifactKind.isSvgImage
  rw [opened, Option.bind_some, if_pos suffix, inner]
  dsimp only
  rw [between]
  simp [single]

/-- The line of a diagram. -/
def diagramLine (name : Text) : Line := "![Mermaid Diagram](".toList ++ name ++ [')', '\n']

theorem opens_diagramLine {name : Text} (single : '\n' ∉ name) (svg : ".svg".toList <:+ name) :
    ArtifactKind.image.opens (diagramLine name) = true := by
  obtain ⟨stem, rfl⟩ := svg
  simp only [List.mem_append, not_or] at single
  have image := isSvgImage_diagram single.1
  rw [← Line.stripTerminator_ended ("![Mermaid Diagram](".toList ++ (stem ++ ".svg".toList))
    (show ')' ≠ '\n' ∧ ')' ≠ '\r' by decide)] at image
  exact image

theorem ofDiagram {name : Text} (single : '\n' ∉ name)
    (opens : ArtifactKind.image.opens (diagramLine name) = true) :
    ∃ written : Written, written.kind = .image ∧ written.text = diagramImage name := by
  have line : '\n' ∉ "![Mermaid Diagram](".toList ++ name := by
    have label : '\n' ∉ "![Mermaid Diagram](".toList := by decide
    simp only [List.mem_append, not_or]
    exact ⟨label, single⟩
  have written := ofLine rfl line opens
  unfold diagramImage
  exact written

/-- An artifact that is written only if there is something to write. -/
theorem ofOption {kind : ArtifactKind} {form : Text → Text} {content : Option Text}
    (each : ∀ text, content = some text →
      ∃ written : Written, written.kind = kind ∧ written.text = form text) :
    ∃ written : List Written, written.map text = (content.map form).toList ∧
      written.map Written.kind = (content.map fun _ => kind).toList := by
  cases content with
  | none => exact ⟨[], rfl, rfl⟩
  | some content =>
    obtain ⟨written, rfl, same⟩ := each content rfl
    exact ⟨[written], by simp [same], rfl⟩

end Written

/-- An address and a file name answer what was asked, and nothing else. -/
structure Answers.Fits (visuals : Visuals) (answers : Answers) : Prop where
  link : answers.link.isSome = true → visuals.submit.isSome = true
  picture : answers.picture.isSome = true → visuals.draw.isSome = true

theorem Services.answer_fits (services : Services σ) (visuals : Visuals) (state : σ) :
    (services.answer visuals state).1.Fits visuals := by
  constructor
  · cases submit : visuals.submit <;> simp [answer, ask, submit]
  · cases draw : visuals.draw <;> simp [answer, ask, draw]

namespace Splice

variable {config : BlockConfig} {language : Language} {outcome : Outcome} {answers : Answers}

/-- Only a successful query is shown elsewhere, as its options ask. -/
theorem visuals_asked (config : BlockConfig) (kind : ResultKind) (outcome : Outcome) :
    ((visuals config kind outcome).submit.isSome = true →
      config.explain = true ∧ outcome.isSuccess = true) ∧
    ((visuals config kind outcome).draw.isSome = true →
      config.flamegraph = true ∧ outcome.isSuccess = true) := by
  unfold visuals
  dsimp only
  split
  · rename_i shown
    simp only [Bool.and_eq_true] at shown
    cases config.explain <;> cases config.flamegraph <;> simp [shown.1.2]
  · simp

/-- The four forms of artifacts are told apart by their first signs. -/
theorem forms_apart (text address name other : Text) :
    resultFence text ≠ planLink address ∧ resultFence text ≠ flamegraphImage name ∧
      resultFence text ≠ diagramImage other ∧ planLink address ≠ flamegraphImage name ∧
      planLink address ≠ diagramImage other ∧ flamegraphImage name ≠ diagramImage other := by
  have result : (resultFence text).take 3 = ['\x60', '\x60', '\x60'] := rfl
  have link : (planLink address).take 3 = ['*', '*', 'D'] := rfl
  have picture : (flamegraphImage name).take 3 = ['!', '[', 'P'] := rfl
  have diagram : (diagramImage other).take 3 = ['!', '[', 'M'] := rfl
  refine ⟨?_, ?_, ?_, ?_, ?_, ?_⟩
  all_goals
    intro same
    have signs := congrArg (List.take 3) same
    simp only [result, link, picture, diagram] at signs
    exact absurd signs (by decide)

/-- Results that read the same have the same lines, a last newline aside. -/
theorem resultFence_lines {text other : Text} (same : resultFence text = resultFence other)
    (unclosed : ∀ line ∈ Text.lines other, Fence.isClose line = false) :
    ∀ line ∈ Text.lines text, Fence.isClose line = false := by
  have bodies : Text.terminated text = Text.terminated other := by
    simpa [resultFence] using same
  have cut := (Text.areLines_lines text).lines_terminated
  have cut' := (Text.areLines_lines other).lines_terminated
  rw [Text.lines_flatten] at cut cut'
  intro line member
  have among : Text.terminated line ∈ Text.lines (Text.terminated text) := by
    rw [cut, if_neg (List.ne_nil_of_mem member)]
    exact List.mem_map_of_mem member
  rw [← Fence.isClose_terminated]
  rw [bodies, cut'] at among
  split at among
  · rw [List.mem_singleton.mp among]
    decide
  · obtain ⟨source, member, same⟩ := List.mem_map.mp among
    rw [← same, Fence.isClose_terminated]
    exact unclosed source member

theorem planLink_inj {a b : Text} (same : planLink a = planLink b) : a = b := by
  unfold planLink at same
  exact List.append_cancel_left (List.append_cancel_right same)

theorem flamegraphImage_inj {a b : Text} (same : flamegraphImage a = flamegraphImage b) :
    a = b := by
  unfold flamegraphImage at same
  exact (List.cons.inj (List.append_cancel_left (List.append_cancel_right same))).2

theorem diagramImage_inj {a b : Text} (same : diagramImage a = diagramImage b) : a = b := by
  unfold diagramImage at same
  exact List.append_cancel_left (List.append_cancel_right same)

/-- Whatever is rendered has one of the four forms. -/
theorem render_forms (config : BlockConfig) (language : Language) (source : Text)
    {artifact : Text}
    (member : artifact ∈ (render config language outcome source answers).artifacts) :
    artifact = resultFence (outcome.framed language.errorStyle) ∨
      (∃ address, answers.link = some address ∧ artifact = planLink address) ∨
      (∃ name, answers.picture = some name ∧ artifact = flamegraphImage name) ∨
      ∃ name, outcome.artifact.bind Path.fileName? = some name ∧ artifact = diagramImage name := by
  unfold render at member
  split at member
  · simp at member
  · split at member
    · exact .inl (List.mem_singleton.mp member)
    · simp at member
    · obtain rfl := List.mem_singleton.mp member
      unfold diagram
      split
      · rename_i name success saved
        exact .inr (.inr (.inr ⟨name, saved, rfl⟩))
      · exact .inl rfl
    · simp only [planArtifacts, List.mem_append, Option.mem_toList, Option.map_eq_some_iff]
        at member
      rcases member with (shown | ⟨address, given, rfl⟩) | ⟨name, given, rfl⟩
      · split at shown
        · exact .inl (List.mem_singleton.mp shown)
        · simp at shown
      · exact .inr (.inl ⟨address, given, rfl⟩)
      · exact .inr (.inr (.inl ⟨name, given, rfl⟩))

theorem render_result {config : BlockConfig} {language : Language}
    (shown : config.showResult = true)
    (plain : language.resultKind = .plainText ∨ language.resultKind = .structuredPlan)
    (outcome : Outcome) (source : Text) (answers : Answers) :
    resultFence (outcome.framed language.errorStyle) ∈
      (render config language outcome source answers).artifacts := by
  have visible : (ArtifactPlan.forBlock config language.resultKind).hidden = false := by
    rcases plain with plain | plain <;>
      simp [ArtifactPlan.forBlock, ArtifactPlan.structuredPlan, shown, plain]
  rw [render, if_neg (by simp [visible])]
  rcases plain with plain | plain <;> simp [plain, planArtifacts, shown]

section Rendered

variable {source text : Text}

theorem result_of_rendered
    (member : resultFence text ∈ (render config language outcome source answers).artifacts) :
    resultFence text = resultFence (outcome.framed language.errorStyle) := by
  rcases render_forms _ _ _ member with same | ⟨other, -, same⟩ | ⟨other, -, same⟩ |
    ⟨other, -, same⟩
  · exact same
  · exact absurd same (forms_apart text other [] []).1
  · exact absurd same (forms_apart text [] other []).2.1
  · exact absurd same (forms_apart text [] [] other).2.2.1

theorem link_of_rendered
    (member : planLink text ∈ (render config language outcome source answers).artifacts) :
    answers.link = some text := by
  rcases render_forms _ _ _ member with same | ⟨other, given, same⟩ | ⟨other, -, same⟩ |
    ⟨other, -, same⟩
  · exact absurd same.symm (forms_apart _ text [] []).1
  · exact planLink_inj same ▸ given
  · exact absurd same (forms_apart [] text other []).2.2.2.1
  · exact absurd same (forms_apart [] text [] other).2.2.2.2.1

theorem picture_of_rendered
    (member : flamegraphImage text ∈ (render config language outcome source answers).artifacts) :
    answers.picture = some text := by
  rcases render_forms _ _ _ member with same | ⟨other, -, same⟩ | ⟨other, given, same⟩ |
    ⟨other, -, same⟩
  · exact absurd same.symm (forms_apart _ [] text []).2.1
  · exact absurd same.symm (forms_apart [] other text []).2.2.2.1
  · exact flamegraphImage_inj same ▸ given
  · exact absurd same (forms_apart [] [] text other).2.2.2.2.2

theorem diagram_of_rendered
    (member : diagramImage text ∈ (render config language outcome source answers).artifacts) :
    outcome.artifact.bind Path.fileName? = some text := by
  rcases render_forms _ _ _ member with same | ⟨other, -, same⟩ | ⟨other, -, same⟩ |
    ⟨other, given, same⟩
  · exact absurd same.symm (forms_apart _ [] [] text).2.2.1
  · exact absurd same.symm (forms_apart [] other [] text).2.2.2.2.1
  · exact absurd same.symm (forms_apart [] [] other text).2.2.2.2.2
  · exact diagramImage_inj same ▸ given

theorem artifacts_of_diagram
    (member : diagramImage text ∈ (render config language outcome source answers).artifacts) :
    language.resultKind = .image ∧
      (render config language outcome source answers).artifacts = [diagramImage text] := by
  unfold render at member ⊢
  split at member
  · simp at member
  · split at member
    · exact absurd (List.mem_singleton.mp member).symm (forms_apart _ [] [] text).2.2.1
    · simp at member
    · rename_i visible _ image
      rw [if_neg visible]
      simp only [image]
      exact ⟨trivial, by rw [List.mem_singleton.mp member]⟩
    · simp only [planArtifacts, List.mem_append, Option.mem_toList, Option.map_eq_some_iff]
        at member
      rcases member with (shown | ⟨address, -, same⟩) | ⟨name, -, same⟩
      · split at shown
        · exact absurd (List.mem_singleton.mp shown).symm (forms_apart _ [] [] text).2.2.1
        · simp at shown
      · exact absurd same (forms_apart [] address [] text).2.2.2.2.1
      · exact absurd same (forms_apart [] [] name text).2.2.2.2.2

end Rendered

/-- What is rendered stays in its place if the output and the answers do. -/
theorem render_contained (config : BlockConfig) (language : Language) (source : Text)
    (result : ∀ line ∈ Text.lines (outcome.framed language.errorStyle),
      Fence.isClose line = false)
    (link : ∀ address, answers.link = some address → '\n' ∉ address)
    (picture : ∀ name, answers.picture = some name → '\n' ∉ name)
    (diagram : ∀ name, outcome.artifact.bind Path.fileName? = some name → '\n' ∉ name) :
    (render config language outcome source answers).Contained where
  result _ member := resultFence_lines (result_of_rendered member) result
  link address member := link address (link_of_rendered member)
  picture name member := picture name (picture_of_rendered member)
  diagram name member := diagram name (diagram_of_rendered member)

/-- A diagram takes the place of its report. -/
theorem diagram_written {style : ErrorStyle}
    (contained : Spliced.Contained { artifacts := [diagram style outcome] })
    (known : ∀ name, diagramImage name = diagram style outcome →
      ArtifactKind.image.opens (Written.diagramLine name) = true) :
    ∃ written : Written, written.text = diagram style outcome ∧
      (written.kind = .image ∨ written.kind = .resultFence) := by
  have shape : (∃ name, diagram style outcome = diagramImage name) ∨
      diagram style outcome = resultFence (outcome.framed style) := by
    unfold diagram
    split
    · exact .inl ⟨_, rfl⟩
    · exact .inr rfl
  rcases shape with ⟨name, shape⟩ | shape
  · rw [shape] at contained ⊢
    obtain ⟨written, kind, text⟩ :=
      Written.ofDiagram (contained.diagram name List.mem_cons_self) (known name shape.symm)
    exact ⟨written, text, .inl kind⟩
  · rw [shape] at contained ⊢
    obtain ⟨written, kind, text⟩ := Written.ofResult (contained.result _ List.mem_cons_self)
    exact ⟨written, text, .inr kind⟩

/-- The rows, the link and the picture of a query, as far as they are written. -/
theorem planArtifacts_parts {style : ErrorStyle}
    (contained : Spliced.Contained { artifacts := planArtifacts config style outcome answers }) :
    ∃ rows links pictures : List Written,
      (rows ++ links ++ pictures).map Written.text = planArtifacts config style outcome answers ∧
      rows.map Written.kind =
        (if config.showResult || !outcome.isSuccess then [.resultFence] else []) ∧
      links.map Written.kind = (answers.link.map fun _ => ArtifactKind.planLink).toList ∧
      links.map Written.text = (answers.link.map planLink).toList ∧
      pictures.map Written.kind =
        (answers.picture.map fun _ => ArtifactKind.flamegraph).toList := by
  let shown := if config.showResult || !outcome.isSuccess then some (outcome.framed style) else none
  have shape : planArtifacts config style outcome answers = (shown.map resultFence).toList ++
      (answers.link.map planLink).toList ++ (answers.picture.map flamegraphImage).toList := by
    simp only [planArtifacts, shown]
    split <;> rfl
  rw [shape] at contained ⊢
  have rows : ∃ written : List Written,
      written.map Written.text = (shown.map resultFence).toList ∧
      written.map Written.kind = (shown.map fun _ => ArtifactKind.resultFence).toList := by
    apply Written.ofOption
    intro text written
    exact Written.ofResult (contained.result text (by simp [written]))
  have links : ∃ written : List Written,
      written.map Written.text = (answers.link.map planLink).toList ∧
      written.map Written.kind = (answers.link.map fun _ => ArtifactKind.planLink).toList := by
    apply Written.ofOption
    intro address written
    exact Written.ofLink (contained.link address (by simp [written]))
  have pictures : ∃ written : List Written,
      written.map Written.text = (answers.picture.map flamegraphImage).toList ∧
      written.map Written.kind = (answers.picture.map fun _ => ArtifactKind.flamegraph).toList := by
    apply Written.ofOption
    intro name written
    exact Written.ofPicture (contained.picture name (by simp [written]))
  obtain ⟨first, firstText, firstKind⟩ := rows
  obtain ⟨second, secondText, secondKind⟩ := links
  obtain ⟨third, thirdText, thirdKind⟩ := pictures
  refine ⟨first, second, third, by simp [firstText, secondText, thirdText], ?_, secondKind,
    secondText, thirdKind⟩
  rw [firstKind]
  simp only [shown]
  split <;> rfl

theorem planArtifacts_written {style : ErrorStyle} {visuals : Visuals}
    (fits : answers.Fits visuals)
    (submitted : visuals.submit.isSome = true → config.explain = true ∧ outcome.isSuccess = true)
    (drawn : visuals.draw.isSome = true → config.flamegraph = true ∧ outcome.isSuccess = true)
    (contained : Spliced.Contained { artifacts := planArtifacts config style outcome answers }) :
    ∃ written : List Written,
      written.map Written.text = planArtifacts config style outcome answers ∧
      (written.map Written.kind).Sublist (ArtifactPlan.structuredPlan config).kinds := by
  obtain ⟨rows, links, pictures, texts, shown, linked, -, pictured⟩ := planArtifacts_parts contained
  refine ⟨rows ++ links ++ pictures, texts, ?_⟩
  simp only [List.map_append, shown, linked, pictured]
  have link := fun given => submitted (fits.link given)
  have picture := fun given => drawn (fits.picture given)
  -- A report of a failure stands alone, so it never precedes a link that the plan puts first.
  cases explain : config.explain <;> cases flamegraph : config.flamegraph <;>
    cases showResult : config.showResult <;> cases success : outcome.isSuccess <;>
    cases address : answers.link <;> cases name : answers.picture <;>
    simp_all [ArtifactPlan.structuredPlan, ArtifactPlan.kinds]

/-- Whatever a run writes are artifacts that its block owns, in the order of the plan. -/
theorem render_written (source : Text)
    (fits : answers.Fits (visuals config language.resultKind outcome))
    (contained : (render config language outcome source answers).Contained)
    (known : ∀ name, diagramImage name ∈ (render config language outcome source answers).artifacts →
      ArtifactKind.image.opens (Written.diagramLine name) = true) :
    ∃ written : List Written,
      written.map Written.text = (render config language outcome source answers).artifacts ∧
      (written.map Written.kind).Sublist
        (ArtifactPlan.forBlock config language.resultKind).kinds := by
  unfold render at contained known ⊢
  generalize language.resultKind = kind at fits contained known ⊢
  by_cases hidden : (ArtifactPlan.forBlock config kind).hidden = true
  · rw [if_pos hidden]
    exact ⟨[], rfl, List.nil_sublist _⟩
  · rw [if_neg hidden] at contained known ⊢
    cases kind with
    | plainText =>
      obtain ⟨written, kind, text⟩ := Written.ofResult (contained.result _ List.mem_cons_self)
      refine ⟨[written], by simp [text], ?_⟩
      simp only [ArtifactPlan.forBlock, List.map_cons, List.map_nil, kind]
      split <;> simp [ArtifactPlan.kinds]
    | inlineAnnotated => exact ⟨[], rfl, List.nil_sublist _⟩
    | image =>
      obtain ⟨written, text, kind⟩ := diagram_written contained fun name same =>
        known name (by simp [same])
      refine ⟨[written], by simp [text], ?_⟩
      simp only [ArtifactPlan.forBlock] at hidden ⊢
      split at hidden
      · exact absurd rfl hidden
      · rename_i visible
        rw [if_neg visible]
        rcases kind with kind | kind <;> simp [ArtifactPlan.kinds, kind]
    | structuredPlan =>
      obtain ⟨submitted, drawn⟩ := visuals_asked config .structuredPlan outcome
      obtain ⟨written, text, ordered⟩ := planArtifacts_written fits submitted drawn contained
      refine ⟨written, text, ?_⟩
      simp only [ArtifactPlan.forBlock] at hidden ⊢
      split at hidden
      · exact absurd rfl hidden
      · rename_i visible
        rw [if_neg visible]
        exact ordered

end Splice
end Runbook
