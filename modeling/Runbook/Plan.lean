import Runbook.Json

/-! Query plans: a tree of operations, read from the plan that a database prints as JSON. -/
namespace Runbook

/-- What a plan says about one operation. Each of it may be missing. -/
structure PlanNode where
  type : Option Text
  relation : Option Text
  index : Option Text
  join : Option Text
  /-- Milliseconds, those of the operations below it included. -/
  time : Option Float

namespace PlanNode

def ofJson (json : Json) : PlanNode where
  type := (json.field? "Node Type").bind Json.text?
  relation := (json.field? "Relation Name").bind Json.text?
  index := (json.field? "Index Name").bind Json.text?
  join := (json.field? "Join Type").bind Json.text?
  time := (json.field? "Actual Total Time").bind Json.number?

end PlanNode

inductive Plan
  | node (operation : PlanNode) (children : List Plan)

namespace Plan

def root : Plan → PlanNode
  | .node operation _ => operation

def children : Plan → List Plan
  | .node _ children => children

/-- The plans below an operation, as they stand in its description. -/
def subplans (json : Json) : List Json := ((json.field? "Plans").bind Json.items?).getD []

theorem sizeOf_field? {json value : Json} {name : Text} (h : json.field? name = some value) :
    sizeOf value < sizeOf json := by
  unfold Json.field? at h
  split at h
  · rename_i fields
    obtain ⟨field, found, rfl⟩ := Option.map_eq_some_iff.mp h
    have member : field ∈ fields := List.mem_reverse.mp (List.mem_of_find?_eq_some found)
    have := List.sizeOf_lt_of_mem member
    obtain ⟨key, value⟩ := field
    simp only [Json.object.sizeOf_spec, Prod.mk.sizeOf_spec] at *
    omega
  · cases h

theorem sizeOf_subplans {json child : Json} (h : child ∈ subplans json) : sizeOf child < sizeOf json := by
  unfold subplans at h
  cases found : json.field? "Plans" with
  | none => rw [found] at h; cases h
  | some value =>
    rw [found] at h
    have := sizeOf_field? found
    cases value with
    | array items =>
      have := List.sizeOf_lt_of_mem (show child ∈ items from h)
      simp only [Json.array.sizeOf_spec] at *
      omega
    | _ => cases h

/-- The operation an entry describes, and those below it. -/
def ofNode (json : Json) : Plan :=
  .node (.ofJson json) ((subplans json).attach.map fun ⟨child, _⟩ => ofNode child)
termination_by sizeOf json
decreasing_by exact sizeOf_subplans ‹_›

theorem ofNode_eq (json : Json) : ofNode json = .node (.ofJson json) ((subplans json).map ofNode) := by
  conv => lhs; unfold ofNode
  simp only [List.map_attach_eq_pmap, List.pmap_eq_map]

/-- The plan of a document: that of the first of its entries. -/
def ofDocument? (json : Json) : Option Plan :=
  (json.first?.bind fun entry => entry.field? "Plan").map ofNode

end Plan
end Runbook
