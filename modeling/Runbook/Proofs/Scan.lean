import Runbook.Proofs.ArtifactShape
import Runbook.Proofs.Pieces

/-! The scanner's way through a document. Blank lines, links, images and closing fences lead
nowhere: outside any block they leave the scanner where it is. -/
namespace Runbook

namespace Text

/-- The white space there is, sign by sign. -/
def blankSigns : List Char :=
  ([0x09, 0x0A, 0x0B, 0x0C, 0x0D, 0x20, 0x85, 0xA0, 0x1680, 0x2000, 0x2001, 0x2002, 0x2003, 0x2004,
    0x2005, 0x2006, 0x2007, 0x2008, 0x2009, 0x200A, 0x2028, 0x2029, 0x202F, 0x205F, 0x3000]).map
      Char.ofNat

theorem mem_blankSigns {c : Char} (blank : isBlank c = true) : c ∈ blankSigns := by
  have code : Char.ofNat c.toNat = c := Char.ofNat_toNat c
  rw [← code]
  apply List.mem_map_of_mem
  simp only [isBlank, Bool.or_eq_true, Bool.and_eq_true, beq_iff_eq, decide_eq_true_eq] at blank
  generalize c.toNat = n at *
  simp only [List.mem_cons, List.not_mem_nil, or_false]
  omega

theorem isBlank_apart {c : Char} (blank : isBlank c = true) :
    isWord c = false ∧ Fence.fold c ≠ 'r' := by
  have all : blankSigns.all (fun c => !isWord c && Fence.fold c != 'r') = true := by
    decide +kernel
  simpa using List.all_eq_true.mp all c (mem_blankSigns blank)

theorem trim_between (text : Text) :
    ∃ before after, text = before ++ trim text ++ after ∧
      (∀ c ∈ before, isBlank c = true) ∧ ∀ c ∈ after, isBlank c = true := by
  have start := List.takeWhile_append_dropWhile (p := isBlank) (l := text)
  have finish := List.takeWhile_append_dropWhile (p := isBlank) (l := (trimStart text).reverse)
  have whole : trim text ++ ((trimStart text).reverse.takeWhile isBlank).reverse =
      trimStart text := by
    rw [trim, trimEnd, ← List.reverse_append, finish, List.reverse_reverse]
  refine ⟨text.takeWhile isBlank, ((trimStart text).reverse.takeWhile isBlank).reverse, ?_, ?_, ?_⟩
  · rw [List.append_assoc, whole]
    exact start.symm
  · exact fun c member => List.all_eq_true.mp List.all_takeWhile c member
  · intro c member
    exact List.all_eq_true.mp List.all_takeWhile c (List.mem_reverse.mp member)

end Text

namespace Line

variable {defaults : Defaults} {line : Line}

/-- Outside any block the line leaves the scanner there. -/
def IsNeutral (defaults : Defaults) (line : Line) : Prop :=
  ScanState.afterOutside defaults line = .outside

theorem neutral_of_lead
    (lead : ∀ c text, line.stripTerminator = c :: text → c ≠ '\x60') :
    line.IsNeutral defaults := by
  have noResult : Fence.opensInlineResult line = false := by
    apply Bool.eq_false_iff.mpr
    intro opens
    obtain ⟨c, text, strip, sign⟩ :=
      ArtifactKind.opens_lead (show ArtifactKind.inlineResultFence.opens line = true from opens)
    exact lead c text strip (List.mem_singleton.mp sign)
  have noHeader : Fence.Header.parse? line = none := by
    unfold Fence.Header.parse?
    cases found : Text.after? Fence.marker line.stripTerminator with
    | none => rfl
    | some text =>
      have strip := Text.eq_append_of_after? found
      rw [Fence.marker_eq] at strip
      exact absurd rfl (lead _ _ strip)
  rw [IsNeutral, ScanState.afterOutside, if_neg (by simp [noResult]), noHeader, Option.bind_none]

theorem neutral_of_blank (blank : line.isBlank = true) : line.IsNeutral defaults := by
  apply neutral_of_lead
  rintro c text strip rfl
  have white := isBlank_lead blank strip
  exact absurd white (by decide)

/-- The kinds without fences begin with other signs. -/
theorem neutral_of_opens {kind : ArtifactKind} (unfenced : kind.isFenced = false)
    (opens : kind.opens line = true) : line.IsNeutral defaults := by
  apply neutral_of_lead
  rintro c text strip rfl
  obtain ⟨c, text', strip', lead⟩ := ArtifactKind.opens_lead opens
  rw [strip] at strip'
  obtain ⟨rfl, -⟩ := List.cons.inj strip'
  cases kind <;> simp [ArtifactKind.isFenced, ArtifactKind.leads] at unfenced lead

/-- After the backticks of a closing fence there is only white space. -/
theorem blank_after_close (closes : Fence.isClose line = true) {text : Text}
    (strip : line.stripTerminator = '\x60' :: '\x60' :: '\x60' :: text) :
    ∀ c ∈ text, Text.isBlank c = true := by
  obtain ⟨before, after, shape, lead, tail⟩ := Text.trim_between line
  rw [beq_iff_eq.mp closes, Fence.marker_eq] at shape
  obtain ⟨later, same⟩ := line.stripTerminator_prefix
  replace same := same.trans shape
  rw [strip] at same
  intro c member
  cases before with
  | cons d before =>
    obtain ⟨sign, -⟩ := List.cons.inj same
    have white := lead d (by simp)
    rw [← sign] at white
    exact absurd white (by decide)
  | nil =>
    have whole : text ++ later = after := by simpa using same
    exact tail c (by simp [← whole, member])

theorem not_isClose_of_opens {kind : ArtifactKind} (fenced : kind.isFenced = true)
    (opens : kind.opens line = true) : Fence.isClose line = false := by
  apply Bool.eq_false_iff.mpr
  intro closes
  have unlike {text : Text}
      (folded : line.stripTerminator.map Fence.fold = '\x60' :: '\x60' :: '\x60' :: 'r' :: text) :
      False := by
    obtain ⟨a, _, strip, first, folded⟩ := List.map_eq_cons_iff.mp folded
    obtain ⟨b, _, rfl, second, folded⟩ := List.map_eq_cons_iff.mp folded
    obtain ⟨d, _, rfl, third, folded⟩ := List.map_eq_cons_iff.mp folded
    obtain ⟨e, more, rfl, letter, -⟩ := List.map_eq_cons_iff.mp folded
    rw [Fence.eq_backtick_of_fold first, Fence.eq_backtick_of_fold second,
      Fence.eq_backtick_of_fold third] at strip
    exact (Text.isBlank_apart (blank_after_close closes strip e (by simp))).2 letter
  cases kind with
  | resultFence =>
    simp only [ArtifactKind.opens, Fence.opensResult, beq_iff_eq, Fence.marker_eq] at opens
    exact unlike opens
  | inlineResultFence =>
    simp only [ArtifactKind.opens, Fence.opensInlineResult] at opens
    split at opens
    · rename_i c rest found
      have folded := Text.eq_append_of_after? found
      rw [Fence.marker_eq] at folded
      exact unlike folded
    · contradiction
  | image => contradiction
  | planLink => contradiction
  | flamegraph => contradiction

theorem parse?_of_close (closes : Fence.isClose line = true) : Fence.Header.parse? line = none := by
  unfold Fence.Header.parse?
  cases found : Text.after? Fence.marker line.stripTerminator with
  | none => rfl
  | some text =>
    have strip := Text.eq_append_of_after? found
    rw [Fence.marker_eq] at strip
    have white := blank_after_close closes strip
    have tagless : text.takeWhile Text.isWord = [] := by
      cases text with
      | nil => rfl
      | cons c text => simp [(Text.isBlank_apart (white c (by simp))).1]
    simp [tagless]

theorem not_opens_of_close {kind : ArtifactKind} (fenced : kind.isFenced = true)
    (closes : Fence.isClose line = true) : kind.opens line = false := by
  apply Bool.eq_false_iff.mpr
  intro opens
  rw [not_isClose_of_opens fenced opens] at closes
  contradiction

theorem neutral_of_close (closes : Fence.isClose line = true) : line.IsNeutral defaults := by
  have noResult : Fence.opensInlineResult line = false :=
    not_opens_of_close (show ArtifactKind.inlineResultFence.isFenced = true from rfl) closes
  rw [IsNeutral, ScanState.afterOutside, if_neg (by simp [noResult]), parse?_of_close closes,
    Option.bind_none]

theorem not_isClose_of_blank (blank : line.isBlank = true) : Fence.isClose line = false := by
  rw [Fence.isClose, Text.trim, Text.trimStart_eq_nil.mpr blank]
  decide

end Line

theorem ArtifactKind.IsCut.unclosed {kind : ArtifactKind} {lines : List Line}
    (cut : kind.IsCut lines) : ∀ line ∈ lines, Fence.isClose line = false := by
  cases cut with
  | intro fenced opens more =>
    intro line member
    rcases List.mem_cons.mp member with rfl | member
    · exact Line.not_isClose_of_opens fenced opens
    · exact more line member

section Neutral

variable {defaults : Defaults} {lines rest : List Line}

/-- Lines that lead nowhere are copied, and the scan goes on after them. -/
theorem segments_neutral (neutral : ∀ line ∈ lines, Line.IsNeutral defaults line) :
    segments defaults .outside (lines ++ rest) =
      lines.map .copied ++ segments defaults .outside rest := by
  induction lines with
  | nil => rfl
  | cons line lines ih =>
    rw [List.cons_append, segments, show ScanState.afterOutside defaults line = _ from
      neutral line (by simp), ih fun other member => neutral other (by simp [member])]
    rfl

theorem segments_unclosed (unclosed : ∀ line ∈ lines, Fence.isClose line = false)
    (state : ScanState) (block : Block) : .block block ∉ segments defaults state lines := by
  fun_induction segments defaults state lines with
  | case1 opened => simp
  | case2 => simp
  | case3 line following ih => simpa using ih fun other member => unclosed other (by simp [member])
  | case4 line following ih => simpa using ih fun other member => unclosed other (by simp [member])
  | case5 opened line following closes =>
    rw [unclosed line (by simp)] at closes
    contradiction
  | case6 opened line following _ ih =>
    exact ih fun other member => unclosed other (by simp [member])

theorem segments_copied (unclosed : ∀ line ∈ lines, Fence.isClose line = false) :
    segments defaults .outside lines = lines.map .copied := by
  have blockless : ∀ block, .block block ∉ segments defaults .outside lines :=
    segments_unclosed unclosed .outside
  have source : (segments defaults .outside lines).flatMap Segment.source = lines :=
    segments_source defaults .outside lines
  generalize segments defaults .outside lines = all at blockless source
  clear unclosed
  subst source
  induction all with
  | nil => rfl
  | cons segment all ih =>
    cases segment with
    | copied line =>
      have later := ih fun block member => blockless block (List.mem_cons_of_mem _ member)
      rw [List.flatMap_cons, List.map_append, ← later]
      rfl
    | block closed => exact absurd List.mem_cons_self (blockless closed)

end Neutral
end Runbook
