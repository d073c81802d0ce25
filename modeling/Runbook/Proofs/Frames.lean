import Mathlib
import Runbook.Flamegraph
import Runbook.Proofs.PlanTimes

/-! The frames of a picture. A frame is drawn for each operation that took time, together with all
that it stands below; the frames are drawn in the order of the plan, each in the row as many
operations stand above it. -/
namespace Runbook

namespace Plan

/-- An operation of a plan, and those it stands below from the outermost on. -/
structure Position where
  above : List PlanNode
  operation : PlanNode

/-- The operation took time, and so did all that it stands below. -/
def Position.isTimed (position : Position) : Bool :=
  position.above.all PlanNode.isTimed && position.operation.isTimed

mutual

/-- All operations in the order of the plan, below those of `above`. -/
def positionsBelow (above : List PlanNode) : Plan → List Position
  | .node operation children =>
    ⟨above, operation⟩ :: positionsOf (above ++ [operation]) children

def positionsOf (above : List PlanNode) : List Plan → List Position
  | [] => []
  | plan :: more => plan.positionsBelow above ++ positionsOf above more

end

def positions (plan : Plan) : List Position := plan.positionsBelow []

/-- The operations that took time with all that they stand below, in the order of the plan. -/
def timed (plan : Plan) : List Position := plan.positions.filter Position.isTimed

mutual

theorem above_of_mem_positionsBelow {above : List PlanNode} {position : Position} :
    (plan : Plan) → position ∈ plan.positionsBelow above → above <+: position.above
  | .node operation children, member => by
    rw [positionsBelow, List.mem_cons] at member
    rcases member with rfl | below
    · exact List.prefix_refl _
    · exact (List.prefix_append above [operation]).trans (above_of_mem_positionsOf children below)

theorem above_of_mem_positionsOf {above : List PlanNode} {position : Position} :
    (plans : List Plan) → position ∈ positionsOf above plans → above <+: position.above
  | [], member => by simp [positionsOf] at member
  | plan :: more, member => by
    rw [positionsOf, List.mem_append] at member
    rcases member with here | later
    · exact above_of_mem_positionsBelow plan here
    · exact above_of_mem_positionsOf more later

end

/-- Nothing counts below an operation that took no time. -/
theorem filter_positionsOf {above : List PlanNode} (idle : above.all PlanNode.isTimed = false)
    (plans : List Plan) : (positionsOf above plans).filter Position.isTimed = [] := by
  refine List.filter_eq_nil_iff.mpr fun position member counts => ?_
  have start := (above_of_mem_positionsOf plans member).subset
  rw [Position.isTimed, Bool.and_eq_true] at counts
  obtain ⟨operation, among, untimed⟩ := List.all_eq_false.mp idle
  exact untimed (List.all_eq_true.mp counts.1 operation (start among))

end Plan

theorem PlanNode.time_le_zero_iff {operation : PlanNode}
    (defined : ∀ time, operation.time = some time → time.isNaN = false) :
    operation.time.getD 0 ≤ 0 ↔ operation.isTimed = false := by
  unfold isTimed
  cases given : operation.time with
  | none => exact iff_of_true (by decide) rfl
  | some time =>
    have positive := pos_iff (defined time given)
    simp [positive]

namespace Flamegraph

namespace Frame

def label : Frame → Text
  | node label _ _ _ _ => label

def time : Frame → Float
  | node _ time _ _ _ => time

def start : Frame → Float
  | node _ _ start _ _ => start

def row : Frame → Nat
  | node _ _ _ row _ => row

def place (total : Float) (frame : Frame) : Placement :=
  Flamegraph.place frame.time frame.start total

/-- The frame's own part of the picture. -/
def mark (total : Float) (frame : Frame) : Text :=
  box frame.label frame.time frame.row (frame.place total) ++
    caption frame.label frame.row (frame.place total)

mutual

/-- The frame and those below it that are drawn, in the order they are drawn in. -/
def shown : Frame → List Frame
  | .node label time start row children =>
    if time ≤ 0 then [] else .node label time start row children :: shownOf children

def shownOf : List Frame → List Frame
  | [] => []
  | frame :: more => frame.shown ++ shownOf more

end

mutual

theorem draw_of_pos {total : Float} (positive : ¬ total ≤ 0) :
    (frame : Frame) → frame.draw total = frame.shown.flatMap (mark total)
  | .node label time start row children => by
    rw [draw, shown]
    by_cases idle : time ≤ 0
    · simp [idle]
    · simp [idle, positive, drawAll_of_pos positive children, mark, place, Frame.label,
        Frame.time, Frame.start, Frame.row]

theorem drawAll_of_pos {total : Float} (positive : ¬ total ≤ 0) :
    (frames : List Frame) → drawAll total frames = (shownOf frames).flatMap (mark total)
  | [] => rfl
  | frame :: more => by
    rw [drawAll, shownOf, List.flatMap_append, draw_of_pos positive frame,
      drawAll_of_pos positive more]

end

/-- A picture is made of the marks of the frames that are drawn. -/
theorem draw_root (plan : Plan) : (ofPlan 0 0 plan).draw (timeOf plan) =
    (ofPlan 0 0 plan).shown.flatMap (mark (timeOf plan)) := by
  by_cases positive : timeOf plan ≤ 0
  · obtain ⟨operation, children⟩ := plan
    have idle : operation.time.getD 0 ≤ 0 := positive
    rw [ofPlan, draw, shown]
    simp [idle]
  · exact draw_of_pos positive _

end Frame

/-- What a frame tells of the operation it stands for. -/
structure Face where
  label : Text
  time : Float
  row : Nat

def Frame.face (frame : Frame) : Face := ⟨frame.label, frame.time, frame.row⟩

end Flamegraph

namespace Plan

open Flamegraph (Frame Face)

def Position.face (position : Position) : Face where
  label := Flamegraph.label position.operation
  time := position.operation.time.getD 0
  row := position.above.length

mutual

theorem shown_below {above : List PlanNode} (timed : above.all PlanNode.isTimed = true)
    (start : Float) : (plan : Plan) → plan.IsDefined →
      (Frame.ofPlan above.length start plan).shown.map Frame.face =
        ((plan.positionsBelow above).filter Position.isTimed).map Position.face
  | .node operation children, .node times others => by
    have idle := PlanNode.time_le_zero_iff times
    rw [Frame.ofPlan, Frame.shown, positionsBelow]
    by_cases counts : operation.isTimed = true
    · have here : Position.isTimed ⟨above, operation⟩ = true := by
        simp [Position.isTimed, timed, counts]
      have inside : (above ++ [operation]).all PlanNode.isTimed = true := by simp [timed, counts]
      have below := shown_all inside start children others
      rw [List.length_append, List.length_singleton] at below
      rw [if_neg (by simp [idle, counts]), List.filter_cons_of_pos here, List.map_cons,
        List.map_cons, below]
      rfl
    · have inside : (above ++ [operation]).all PlanNode.isTimed = false := by simp [counts]
      rw [if_pos (by simp [idle, counts]), List.filter_cons_of_neg (by
        simp [Position.isTimed, counts]), filter_positionsOf inside]
      rfl

theorem shown_all {above : List PlanNode} (timed : above.all PlanNode.isTimed = true)
    (start : Float) : (plans : List Plan) → (∀ plan ∈ plans, plan.IsDefined) →
      (Frame.shownOf (Frame.ofPlans above.length start plans)).map Frame.face =
        ((positionsOf above plans).filter Position.isTimed).map Position.face
  | [], _ => rfl
  | plan :: more, defined => by
    obtain ⟨first, others⟩ := List.forall_mem_cons.mp defined
    rw [Frame.ofPlans, Frame.shownOf, positionsOf, List.map_append, List.filter_append,
      List.map_append, shown_below timed start plan first, shown_all timed _ more others]

end

/-- The frames that are drawn are those of the operations that took time, in the plan's order. -/
theorem faces_shown {plan : Plan} (defined : plan.IsDefined) :
    (Frame.ofPlan 0 0 plan).shown.map Frame.face = plan.timed.map Position.face :=
  @shown_below [] rfl 0 plan defined

end Plan
end Runbook
