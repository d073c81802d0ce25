import Mathlib
import Runbook.Proofs.PictureMarkup

/-! The canvas of a picture. It grows by sixteen units a row while the rows stand eighteen apart,
and it leaves room for a smaller heading than the frames are moved down by: a frame lies inside
only if enough rows follow it. -/
namespace Runbook

/-- The number that the digits write. -/
def Text.natural? (text : Text) : Option Nat :=
  if !text.isEmpty && text.all Char.isDigit then some (Nat.ofDigitChars 10 text 0) else none

theorem Text.natural?_ofNat (n : Nat) : natural? (ofNat n) = some n := by
  have digits : (ofNat n).all Char.isDigit = true :=
    List.all_eq_true.mpr fun _ member => isDigit_of_mem_ofNat member
  have some : (ofNat n).isEmpty = false := by
    simp [ofNat, Nat.toDigits_ne_nil]
  rw [natural?, some, digits]
  exact congrArg Option.some (Nat.ofDigitChars_toDigits (by decide) (by decide))

namespace Markup

def Tag.number? (key : Text) (tag : Tag) : Option Nat := (tag.value? key).bind Text.natural?

end Markup

namespace Flamegraph

open Markup

/-- How far down the tag's group is moved. -/
def offset? (tag : Tag) : Option Nat :=
  (((tag.value? "transform").bind (Text.after? "translate(0, ")).bind (Text.before? ")")).bind
    Text.natural?

/-- The box ends inside the picture's canvas, moved down as the group of the frames is. -/
def Fits (document : Text) (box : Tag) : Prop :=
  ∃ offset top height canvas, (elements "g" document).map offset? = [some offset] ∧
    box.number? "y" = some top ∧ box.number? "height" = some height ∧
    (elements "svg" document).map (Tag.number? "height") = [some canvas] ∧
    offset + top + height ≤ canvas

/-! What the tags say -/

section Attributes

variable {name : String} {key value rest : Text}

theorem valueIn?_assign (plain : '"' ∉ value) :
    Tag.valueIn? name.toList (assign name value ++ rest) = some value := by
  rw [← @Tag.valueIn?_assigned name.toList _ plain rest]
  simp [assign, quoted]

/-- An attribute with another name is passed over. -/
theorem valueIn?_assign_other (apart : (key != name.toList && !key.contains '=' &&
      !name.toList.contains '=' && !name.toList.contains ' ') = true) (plain : ' ' ∉ value) :
    Tag.valueIn? key (assign name value ++ rest) = Tag.valueIn? key rest := by
  simp only [Bool.and_eq_true, bne_iff_ne, Bool.not_eq_true', List.contains_eq_mem,
    decide_eq_false_iff_not] at apart
  obtain ⟨⟨⟨differs, here⟩, there⟩, single⟩ := apart
  rw [← Tag.valueIn?_other differs here there single plain rest]
  simp [assign, quoted]

theorem blank_not_mem_twoPlaces (x : Float) : ' ' ∉ Decimal.twoPlaces x :=
  (Decimal.isDecimal_twoPlaces x).not_mem (by decide)

theorem top_boxTag (total : Float) (frame : Frame) :
    (frame.boxTag total).number? "y" = some (frame.row * rowStep) := by
  rw [Tag.number?, Frame.boxTag, Tag.value?, Frame.boxHead, Tag.valueIn?_lead (by decide),
    valueIn?_assign_other (by decide) (by decide),
    valueIn?_assign_other (by decide) (blank_not_mem_twoPlaces _),
    valueIn?_assign (Text.not_mem_ofNat (by decide)), Option.bind_some, Text.natural?_ofNat]

theorem height_boxTag (total : Float) (frame : Frame) :
    (frame.boxTag total).number? "height" = some frameHeight := by
  rw [Tag.number?, Frame.boxTag, Tag.value?, Frame.boxHead, Tag.valueIn?_lead (by decide),
    valueIn?_assign_other (by decide) (by decide),
    valueIn?_assign_other (by decide) (blank_not_mem_twoPlaces _),
    valueIn?_assign_other (by decide) (Text.not_mem_ofNat (by decide)),
    valueIn?_assign_other (by decide) (blank_not_mem_twoPlaces _),
    valueIn?_assign (Text.not_mem_ofNat (by decide)), Option.bind_some, Text.natural?_ofNat]

end Attributes

/-- Elements that no frame has. -/
theorem elements_around {name : Text} {plan : Plan} (opening : name ≠ "text".toList)
    (closing : name ≠ "/text".toList)
    (none : ∀ frame, (Frame.boxTags (timeOf plan) frame).filter (·.name == name) = []) :
    ∃ text, elements name (draw plan) =
      (headTags plan ++ groupTag text :: [.closing "g", .closing "svg"]).filter (·.name == name) := by
  obtain ⟨text, whole⟩ := tags_draw plan
  have marks : ((Frame.ofPlan 0 0 plan).shown.flatMap (Frame.tags (timeOf plan))).filter
      (·.name == name) = [] := by
    rw [List.filter_flatMap]
    exact List.flatMap_eq_nil_iff.mpr fun frame _ =>
      (filter_tags opening closing _ frame).trans (none frame)
  refine ⟨text, ?_⟩
  rw [elements, whole]
  simp only [List.filter_append, List.filter_cons, marks, List.nil_append]

theorem groups_draw (plan : Plan) : (elements "g" (draw plan)).map offset? = [some 45] := by
  obtain ⟨text, groups⟩ := @elements_around "g" plan (by decide) (by decide) fun _ => rfl
  have group : elements "g" (draw plan) = [groupTag text] := groups
  rw [group]
  rfl

theorem height_pictureHead (plan : Plan) (text : Text) :
    Tag.number? "height" (.opening (pictureHead plan) text) =
      some (canvasHeight (Frame.ofPlan 0 0 plan)) := by
  rw [Tag.number?, Tag.value?, pictureHead, Tag.valueIn?_lead (by decide),
    valueIn?_assign_other (by decide) (by decide),
    valueIn?_assign (Text.not_mem_ofNat (by decide)), Option.bind_some, Text.natural?_ofNat]

theorem pictures_draw (plan : Plan) : (elements "svg" (draw plan)).map (Tag.number? "height") =
    [some (canvasHeight (Frame.ofPlan 0 0 plan))] := by
  obtain ⟨text, pictures⟩ := @elements_around "svg" plan (by decide) (by decide) fun _ => rfl
  have picture : elements "svg" (draw plan) = [.opening (pictureHead plan) "\n  "] := pictures
  rw [picture, List.map_singleton, height_pictureHead]

/-! The last row -/

theorem Frame.le_lastRows {row : Nat} (frames : List Frame) : row ≤ Frame.lastRows row frames := by
  induction frames with
  | nil => exact le_refl row
  | cons frame more ih => exact le_max_of_le_right ih

mutual

theorem row_le_lastRow {above : List PlanNode} {position : Plan.Position} (start : Float) :
    (plan : Plan) → position ∈ plan.positionsBelow above →
      position.above.length ≤ (Frame.ofPlan above.length start plan).lastRow
  | .node operation children, member => by
    rw [Plan.positionsBelow, List.mem_cons] at member
    rw [Frame.ofPlan, Frame.lastRow]
    rcases member with rfl | below
    · exact Frame.le_lastRows _
    · have inside := row_le_lastRows above.length start children below
      rwa [List.length_append, List.length_singleton] at inside

theorem row_le_lastRows {above : List PlanNode} {position : Plan.Position} (row : Nat)
    (start : Float) : (plans : List Plan) → position ∈ Plan.positionsOf above plans →
      position.above.length ≤ Frame.lastRows row (Frame.ofPlans above.length start plans)
  | [], member => by simp [Plan.positionsOf] at member
  | plan :: more, member => by
    rw [Plan.positionsOf, List.mem_append] at member
    rw [Frame.ofPlans, Frame.lastRows]
    rcases member with here | later
    · exact le_max_of_le_left (row_le_lastRow start plan here)
    · exact le_max_of_le_right (row_le_lastRows row _ more later)

end

mutual

theorem exists_lastRow {above : List PlanNode} (start : Float) : (plan : Plan) →
    ∃ position ∈ plan.positionsBelow above,
      position.above.length = (Frame.ofPlan above.length start plan).lastRow
  | .node operation children => by
    rw [Plan.positionsBelow, Frame.ofPlan, Frame.lastRow]
    have inside := @exists_lastRows (above ++ [operation]) above.length start children
    rw [List.length_append, List.length_singleton] at inside
    rcases inside with none | ⟨position, member, row⟩
    · exact ⟨_, List.mem_cons_self, none.symm⟩
    · exact ⟨position, List.mem_cons_of_mem _ member, row⟩

theorem exists_lastRows {above : List PlanNode} (row : Nat) (start : Float) :
    (plans : List Plan) →
      Frame.lastRows row (Frame.ofPlans above.length start plans) = row ∨
      ∃ position ∈ Plan.positionsOf above plans,
        position.above.length = Frame.lastRows row (Frame.ofPlans above.length start plans)
  | [] => .inl rfl
  | plan :: more => by
    rw [Plan.positionsOf, Frame.ofPlans, Frame.lastRows]
    rcases le_total (Frame.ofPlan above.length start plan).lastRow
      (Frame.lastRows row (Frame.ofPlans above.length (start + timeOf plan) more)) with less | less
    · rw [max_eq_right less]
      rcases exists_lastRows row (start + timeOf plan) more with none | ⟨position, member, last⟩
      · exact .inl none
      · exact .inr ⟨position, List.mem_append_right _ member, last⟩
    · rw [max_eq_left less]
      obtain ⟨position, member, last⟩ := exists_lastRow start plan
      exact .inr ⟨position, List.mem_append_left _ member, last⟩

end

/-- The canvas is measured by the operation that stands below the most others. -/
theorem isGreatest_lastRow (plan : Plan) :
    IsGreatest {row | ∃ position ∈ plan.positions, position.above.length = row}
      (Frame.ofPlan 0 0 plan).lastRow := by
  refine ⟨@exists_lastRow [] 0 plan, ?_⟩
  rintro row ⟨position, member, rfl⟩
  exact row_le_lastRow 0 plan member

theorem fits_iff {plan : Plan} {total : Float} {frame : Frame} :
    Fits (draw plan) (frame.boxTag total) ↔
      18 * frame.row + 5 ≤ 16 * (Frame.ofPlan 0 0 plan).lastRow := by
  unfold Fits
  rw [groups_draw, pictures_draw, top_boxTag, height_boxTag]
  simp only [canvasHeight, frameHeight, rowStep, margin]
  constructor
  · rintro ⟨offset, top, height, canvas, moved, above, tall, whole, inside⟩
    simp only [List.cons.injEq, Option.some.injEq, and_true] at moved above tall whole
    omega
  · intro room
    exact ⟨_, _, _, _, rfl, rfl, rfl, rfl, by omega⟩

theorem fits_timed {plan : Plan} (defined : plan.IsDefined) : List.Forall₂ (fun box position =>
      Fits (draw plan) box ↔
        18 * position.above.length + 5 ≤ 16 * (Frame.ofPlan 0 0 plan).lastRow)
    (elements "rect" (draw plan)) plan.timed := by
  rw [boxes_draw]
  refine forall₂_of_faces (Plan.faces_shown defined) fun frame position same => ?_
  have row : frame.row = position.above.length := congrArg Face.row same
  rw [fits_iff, row]

/-- The frame of an operation lies inside the canvas exactly if enough rows follow its own. That of
an operation in the last row never does, so a plan of one row is not seen whole. -/
theorem fits_of_render {text svg : Text} (drawn : render text = .ok svg) :
    ∃ plan last, planIn? text = some plan ∧
      IsGreatest {row | ∃ position ∈ plan.positions, position.above.length = row} last ∧
      List.Forall₂ (fun box position =>
          Fits svg box ↔ 18 * position.above.length + 5 ≤ 16 * last)
        (elements "rect" svg) plan.timed := by
  obtain ⟨plan, described, rfl⟩ := render_eq_ok_iff.mp drawn
  exact ⟨plan, _, described, isGreatest_lastRow plan, fits_timed (isDefined_planIn? described)⟩

def sortedPlan : Text :=
  ("[\x7b\"Plan\": \x7b\"Node Type\": \"Sort\", \"Actual Total Time\": 2, \"Plans\": " ++
    "[\x7b\"Node Type\": \"Seq Scan\", \"Actual Total Time\": 1\x7d]\x7d\x7d]").toList

theorem fits_of_render_sorted : ∃ svg upper lower, render sortedPlan = .ok svg ∧
    elements "rect" svg = [upper, lower] ∧ Fits svg upper ∧ ¬ Fits svg lower := by
  have rows : (planIn? sortedPlan).map (fun plan =>
      (plan.timed.map (·.above.length), (Frame.ofPlan 0 0 plan).lastRow)) = some ([0, 1], 1) := by
    decide +kernel
  obtain ⟨plan, described, rows⟩ := Option.map_eq_some_iff.mp rows
  obtain ⟨timed, lastRow⟩ := Prod.mk.inj rows
  have drawn := render_eq_ok_iff.mpr ⟨plan, described, rfl⟩
  obtain ⟨same, last, described', greatest, fits⟩ := fits_of_render drawn
  obtain rfl := Option.some.inj (described.symm.trans described')
  obtain rfl := greatest.unique (isGreatest_lastRow plan)
  have inRows : List.Forall₂ (fun box row => Fits (draw plan) box ↔ 18 * row + 5 ≤ 16 * 1)
      (elements "rect" (draw plan)) (plan.timed.map (·.above.length)) :=
    List.forall₂_map_right_iff.mpr (lastRow ▸ fits)
  rw [timed] at inRows
  obtain ⟨upper, below, first, others, whole⟩ := List.forall₂_cons_right_iff.mp inRows
  obtain ⟨lower, more, second, none, rfl⟩ := List.forall₂_cons_right_iff.mp others
  obtain rfl := List.forall₂_nil_right_iff.mp none
  exact ⟨draw plan, upper, lower, drawn, whole, first.mpr (by decide), mt second.mp (by decide)⟩

def singlePlan : Text :=
  "[\x7b\"Plan\": \x7b\"Node Type\": \"Result\", \"Actual Total Time\": 1\x7d\x7d]".toList

/-- One operation is enough: its box ends five units below the canvas. -/
theorem not_fits : ∃ svg, render singlePlan = .ok svg ∧
    ∃ box ∈ elements "rect" svg, ¬ Fits svg box := by
  have rows : (planIn? singlePlan).map (fun plan =>
      (plan.timed.map (·.above.length), (Frame.ofPlan 0 0 plan).lastRow)) = some ([0], 0) := by
    decide +kernel
  obtain ⟨plan, described, rows⟩ := Option.map_eq_some_iff.mp rows
  obtain ⟨timed, lastRow⟩ := Prod.mk.inj rows
  have inRows : List.Forall₂ (fun box row => Fits (draw plan) box ↔ 18 * row + 5 ≤ 16 * 0)
      (elements "rect" (draw plan)) (plan.timed.map (·.above.length)) :=
    List.forall₂_map_right_iff.mpr (lastRow ▸ fits_timed (isDefined_planIn? described))
  rw [timed] at inRows
  obtain ⟨box, boxes, first, -, whole⟩ := List.forall₂_cons_right_iff.mp inRows
  refine ⟨draw plan, render_eq_ok_iff.mpr ⟨plan, described, rfl⟩, box, ?_, mt first.mp (by decide)⟩
  rw [whole]
  exact List.mem_cons_self

end Flamegraph
end Runbook
