import Runbook.Plan
import Runbook.Decimal.Shortest

/-! The layout of a flamegraph. Every operation of a plan is a frame; the frames of the
operations below it stand in the next row, side by side from where it starts. -/
namespace Runbook.Flamegraph

inductive Frame
  | node (label : Text) (time start : Float) (row : Nat) (children : List Frame)

/-- Rounds to so many digits after the point, a half away from zero. -/
def rounded (value : Float) (scale : Float) : Float := (value * scale).round / scale

/-- Milliseconds with at most two digits after the point. -/
def milliseconds (time : Float) : Text := Decimal.shortest (rounded time 100) ++ "ms".toList

/-- The operation, the names it works on in parentheses, and its time in brackets. -/
def label (node : PlanNode) : Text :=
  let details := node.relation.toList ++ (node.index.map ("idx:".toList ++ ·)).toList ++
    node.join.toList
  node.type.getD "Unknown" ++
    (if details.isEmpty then [] else " (".toList ++ Text.joined ", " details ++ [')']) ++
    match node.time with
    | some time => " [".toList ++ milliseconds time ++ [']']
    | none => []

def timeOf (plan : Plan) : Float := plan.root.time.getD 0

mutual

def Frame.ofPlan (row : Nat) (start : Float) : Plan → Frame
  | .node operation children =>
    .node (label operation) (operation.time.getD 0) start row (Frame.ofPlans (row + 1) start children)

/-- Plans of one row, each starting where the one before it ends. -/
def Frame.ofPlans (row : Nat) (start : Float) : List Plan → List Frame
  | [] => []
  | plan :: more => Frame.ofPlan row start plan :: Frame.ofPlans row (start + timeOf plan) more

end

mutual

def Frame.lastRow : Frame → Nat
  | .node _ _ _ row children => Frame.lastRows row children

def Frame.lastRows (row : Nat) : List Frame → Nat
  | [] => row
  | frame :: more => max frame.lastRow (Frame.lastRows row more)

end

end Runbook.Flamegraph
