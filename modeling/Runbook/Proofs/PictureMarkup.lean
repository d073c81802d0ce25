import Mathlib
import Runbook.Proofs.PictureTags

/-! The markup of a picture is its own. It follows from the times of a plan alone which tags a
picture has; what the plan calls its operations is text between them, and is read back from there
as it was. -/
namespace Runbook.Flamegraph

open Markup

/-- The frame is wide enough to hold a label, wherever it starts. -/
def Face.showsLabel (total : Float) (face : Face) : Bool := (place face.time 0 total).showsLabel

theorem showsLabel_face (total : Float) (frame : Frame) :
    frame.face.showsLabel total = (frame.place total).showsLabel := by
  unfold Face.showsLabel Frame.place Placement.showsLabel place
  rfl

/-- The names of the tags that are drawn for one operation. -/
def markNames (total : Float) (face : Face) : List Text :=
  if face.showsLabel total then ["rect", "title", "/title", "/rect", "text", "/text"]
  else ["rect", "title", "/title", "/rect"]

/-- The names of the tags before those. -/
def headNames : List Text :=
  ["?xml", "svg", "style", "/style", "text", "/text", "text", "/text", "g"]

/-- The names of the tags behind them. -/
def lastNames : List Text := ["/g", "/svg"]

theorem names_headTags (plan : Plan) (text : Text) :
    (headTags plan ++ [groupTag text]).map Tag.name = headNames := rfl

theorem names_tags (total : Float) (frame : Frame) :
    (frame.tags total).map Tag.name = markNames total frame.face := by
  rw [markNames, showsLabel_face]
  unfold Frame.tags Frame.captionTags
  split
  · rfl
  · rfl

/-- The tag's text begins with the operation's label, and goes on with its time. -/
def Titles (tag : Tag) (position : Plan.Position) : Prop :=
  ∃ start more, tag.text = start ++ ("\nTime: ".toList ++ more) ∧
    decode? start = some (label position.operation)

/-- The tag's text is the operation's label, or some of it with three dots behind. -/
def Captions (tag : Tag) (position : Plan.Position) : Prop :=
  decode? tag.text = some (label position.operation) ∨
    ∃ part, part <+: label position.operation ∧ decode? tag.text = some (part ++ "...".toList)

/-- The texts that stand on frames. -/
def frameTexts (document : Text) : List Tag :=
  (tags document).filter fun tag =>
    tag.name == "text".toList && tag.value? "class" == some "frame-text".toList

/-- The plan that a JSON text describes. -/
def planIn? (text : Text) : Option Plan := (Json.parse? (Text.trim text)).bind Plan.ofDocument?

theorem isDefined_planIn? {text : Text} {plan : Plan} (described : planIn? text = some plan) :
    plan.IsDefined := by
  obtain ⟨document, read, found⟩ := Option.bind_eq_some_iff.mp described
  exact Plan.isDefined_ofDocument? read found

theorem render_eq_ok_iff {text svg : Text} :
    render text = .ok svg ↔ ∃ plan, planIn? text = some plan ∧ draw plan = svg := by
  unfold render planIn?
  split
  · rename_i invalid
    simp [invalid]
  · rename_i document read
    split
    · rename_i missing
      simp [read, missing]
    · rename_i plan found
      simp [read, found]

theorem filter_draw {p : Tag → Bool} {plan : Plan} (others : ∀ text,
    (headTags plan ++ groupTag text :: [.closing "g", .closing "svg"]).filter p = []) :
    (tags (draw plan)).filter p = (Frame.ofPlan 0 0 plan).shown.flatMap fun frame =>
      (frame.tags (timeOf plan)).filter p := by
  obtain ⟨text, whole⟩ := tags_draw plan
  have others := others text
  rw [List.filter_append, ← List.singleton_append, List.filter_append, List.append_eq_nil_iff,
    List.append_eq_nil_iff] at others
  obtain ⟨head, group, last⟩ := others
  rw [whole, ← List.singleton_append, List.filter_append, List.filter_append, List.filter_append,
    head, group, last, List.filter_flatMap, List.append_nil]
  rfl

theorem filter_tags {name : Text} (opening : name ≠ "text".toList) (closing : name ≠ "/text".toList)
    (total : Float) (frame : Frame) : (frame.tags total).filter (·.name == name) =
      (frame.boxTags total).filter (·.name == name) := by
  have caption : (frame.captionTags total).filter (·.name == name) = [] := by
    refine List.filter_eq_nil_iff.mpr fun tag member => ?_
    unfold Frame.captionTags at member
    split at member
    · rcases List.mem_pair.mp member with rfl | rfl
      · exact fun same => opening (beq_iff_eq.mp same).symm
      · exact fun same => closing (beq_iff_eq.mp same).symm
    · contradiction
  rw [Frame.tags, List.filter_append, caption, List.append_nil]

theorem elements_draw {name : Text} {plan : Plan} {f : Frame → Tag} (opening : name ≠ "text".toList)
    (closing : name ≠ "/text".toList) (others : ∀ text,
      (headTags plan ++ groupTag text :: [.closing "g", .closing "svg"]).filter (·.name == name) = [])
    (each : ∀ frame, (Frame.boxTags (timeOf plan) frame).filter (·.name == name) = [f frame]) :
    elements name (draw plan) = (Frame.ofPlan 0 0 plan).shown.map f := by
  rw [elements, filter_draw others, List.map_eq_flatMap]
  exact List.flatMap_congr fun frame _ => (filter_tags opening closing _ frame).trans (each frame)

theorem boxes_draw (plan : Plan) : elements "rect" (draw plan) =
    (Frame.ofPlan 0 0 plan).shown.map (Frame.boxTag (timeOf plan)) :=
  elements_draw (by decide) (by decide) (fun _ => rfl) fun _ => rfl

theorem titles_draw (plan : Plan) : elements "title" (draw plan) =
    (Frame.ofPlan 0 0 plan).shown.map (Frame.titleTag (timeOf plan)) :=
  elements_draw (by decide) (by decide) (fun _ => rfl) fun _ => rfl

theorem frameTexts_draw (plan : Plan) : frameTexts (draw plan) =
    ((Frame.ofPlan 0 0 plan).shown.filter fun frame => frame.face.showsLabel (timeOf plan)).map
      (Frame.captionTag (timeOf plan)) := by
  have each (frame : Frame) : (frame.tags (timeOf plan)).filter (fun tag =>
      tag.name == "text".toList && tag.value? "class" == some "frame-text".toList) =
      if frame.face.showsLabel (timeOf plan) then [frame.captionTag (timeOf plan)] else [] := by
    rw [showsLabel_face]
    unfold Frame.tags Frame.captionTags
    split
    · rfl
    · rfl
  rw [frameTexts, filter_draw fun _ => rfl]
  induction (Frame.ofPlan 0 0 plan).shown with
  | nil => rfl
  | cons frame frames ih =>
    rw [List.flatMap_cons, each, ih, List.filter_cons]
    split
    · rfl
    · rfl

theorem decode?_shorten (limit : Nat) (text : Text) :
    decode? (escape (shorten text limit)) = some text ∨
      ∃ part, part <+: text ∧ decode? (escape (shorten text limit)) = some (part ++ "...".toList) := by
  rw [decode?_escape, shorten]
  split
  · exact .inl rfl
  · exact .inr ⟨text.take (limit - 3), List.take_prefix _ _, rfl⟩

theorem forall₂_of_faces {frames : List Frame} {positions : List Plan.Position}
    {f : Frame → Tag} {R : Tag → Plan.Position → Prop}
    (same : frames.map Frame.face = positions.map Plan.Position.face)
    (each : ∀ frame position, frame.face = Plan.Position.face position → R (f frame) position) :
    List.Forall₂ R (frames.map f) positions := by
  rw [← List.forall₂_eq_eq_eq, List.forall₂_map_left_iff, List.forall₂_map_right_iff] at same
  exact List.forall₂_map_left_iff.mpr (same.imp each)

section Draw

variable {plan : Plan}

theorem names_draw (defined : plan.IsDefined) : (tags (draw plan)).map Tag.name =
    headNames ++ (plan.timed.flatMap (fun position => markNames (timeOf plan) position.face) ++
      lastNames) := by
  obtain ⟨text, whole⟩ := tags_draw plan
  have marks : ((Frame.ofPlan 0 0 plan).shown.flatMap (Frame.tags (timeOf plan))).map Tag.name =
      plan.timed.flatMap fun position => markNames (timeOf plan) position.face := by
    simp only [List.map_flatMap, names_tags]
    rw [← List.flatMap_map Frame.face, Plan.faces_shown defined, List.flatMap_map]
  rw [whole, List.append_cons, ← names_headTags plan text, ← marks]
  simp only [List.map_append, List.append_assoc]
  rfl

theorem length_markNames (total : Float) (positions : List Plan.Position) :
    (positions.flatMap fun position => markNames total position.face).length =
      4 * positions.length +
        2 * (positions.filter fun position => position.face.showsLabel total).length := by
  induction positions with
  | nil => rfl
  | cons position positions ih =>
    rw [List.flatMap_cons, List.length_append, ih, markNames, List.filter_cons]
    split
    · simp only [List.length_cons, List.length_nil]
      omega
    · simp only [List.length_cons, List.length_nil]
      omega

theorem titles_timed (defined : plan.IsDefined) :
    List.Forall₂ Titles (elements "title" (draw plan)) plan.timed := by
  rw [titles_draw]
  refine forall₂_of_faces (Plan.faces_shown defined) fun frame position same => ?_
  refine ⟨escape frame.label, frame.figures (timeOf plan), rfl, ?_⟩
  rw [decode?_escape]
  exact congrArg (some ∘ Face.label) same

theorem frameTexts_timed (defined : plan.IsDefined) :
    List.Forall₂ Captions (frameTexts (draw plan))
      (plan.timed.filter fun position => position.face.showsLabel (timeOf plan)) := by
  rw [frameTexts_draw]
  refine forall₂_of_faces ?_ fun frame position same => ?_
  · have faces := congrArg (List.filter (Face.showsLabel (timeOf plan))) (Plan.faces_shown defined)
    rwa [List.filter_map, List.filter_map] at faces
  · have given : frame.label = label position.operation := congrArg Face.label same
    rw [Captions, ← given]
    exact decode?_shorten _ _

end Draw

/-- Whatever a plan calls its operations, its picture has the tags that follow from the times: a
box for each operation that took time with all it stands below, in the order of the plan, and a
text on those that are wide enough. Each label is read back from its title, and as much of it as
fits from the text. -/
theorem markup_of_render {text svg : Text} (drawn : render text = .ok svg) :
    ∃ plan, planIn? text = some plan ∧
      let labelled := plan.timed.filter fun position => position.face.showsLabel (timeOf plan)
      svg.count '<' = 11 + 4 * plan.timed.length + 2 * labelled.length ∧
      (tags svg).map Tag.name = headNames ++
        (plan.timed.flatMap (fun position => markNames (timeOf plan) position.face) ++
          lastNames) ∧
      List.Forall₂ Titles (elements "title" svg) plan.timed ∧
      List.Forall₂ Captions (frameTexts svg) labelled := by
  obtain ⟨plan, described, rfl⟩ := render_eq_ok_iff.mp drawn
  have defined := isDefined_planIn? described
  have names := names_draw defined
  refine ⟨plan, described, ?_, names, titles_timed defined, frameTexts_timed defined⟩
  have total := congrArg List.length names
  rw [List.length_map, length_tags, List.length_append, List.length_append, length_markNames] at total
  rw [total, show headNames.length = 9 from rfl, show lastNames.length = 2 from rfl]
  omega

/-- A plan with tags in its names. One operation took too little time for a text, and one none. -/
def taggedPlan : Text :=
  ("[\x7b\"Plan\": \x7b\"Node Type\": \"Seq Scan\", \"Relation Name\": \"</title><script>\", " ++
    "\"Actual Total Time\": 200, \"Plans\": [\x7b\"Node Type\": \"a & b\", " ++
    "\"Actual Total Time\": 1\x7d, \x7b\"Node Type\": \"<g>\", \"Plans\": " ++
    "[\x7b\"Node Type\": \"Sort\", \"Actual Total Time\": 1\x7d]\x7d]\x7d\x7d]").toList

theorem markup_of_render_tagged : ∃ svg, render taggedPlan = .ok svg ∧ svg.count '<' = 21 := by
  have sizes : (planIn? taggedPlan).map (fun plan => (plan.timed.length,
      (plan.timed.filter fun position => position.face.showsLabel (timeOf plan)).length)) =
      some (2, 1) := by decide +kernel
  obtain ⟨plan, described, sizes⟩ := Option.map_eq_some_iff.mp sizes
  have drawn := render_eq_ok_iff.mpr ⟨plan, described, rfl⟩
  obtain ⟨same, described', count, -⟩ := markup_of_render drawn
  obtain rfl := Option.some.inj (described.symm.trans described')
  obtain ⟨timed, labelled⟩ := Prod.mk.inj sizes
  rw [timed, labelled] at count
  exact ⟨draw plan, drawn, count⟩

end Runbook.Flamegraph
