import Runbook.Decimal.Fixed
import Runbook.Flamegraph.Colour
import Runbook.Flamegraph.Frame
import Runbook.Text.Blank

/-! Flamegraphs: an SVG picture of a query plan. A frame is as wide as its share of the
whole time; one without any time is left out with all that stands below it. -/
namespace Runbook.Flamegraph

/-- Labels are free text: what has a meaning in XML is written as an entity. -/
def entity : Char → Text
  | '&' => "&amp;"
  | '<' => "&lt;"
  | '>' => "&gt;"
  | '"' => "&quot;"
  | '\x27' => "&#39;"
  | c => [c]

def escape (text : Text) : Text := text.flatMap entity

def canvasWidth : Float := 1200
def frameHeight : Nat := 16
/-- From the top of one row to the top of the next. -/
def rowStep : Nat := 18
/-- Room for the titles. -/
def margin : Nat := 40

/-- A label cut to a number of characters, three dots included if it is cut. -/
def shorten (text : Text) (limit : Nat) : Text :=
  if text.length ≤ limit then text else text.take (limit - 3) ++ "...".toList

structure Placement where
  x : Float
  width : Float
  /-- The part of the whole time. -/
  share : Float

/-- Where a frame lies across the canvas. It is never narrower than one unit. -/
def place (time start total : Float) : Placement :=
  let share := time / total
  let width := canvasWidth * share
  ⟨start / total * canvasWidth, if width < 1 then 1 else width, share⟩

/-- Whether a frame is wide enough to hold a label. -/
def Placement.showsLabel (placement : Placement) : Bool := 50 < placement.width

/-- How many characters of seven units each fit beside the padding. -/
def Placement.labelLimit (placement : Placement) : Nat :=
  ((placement.width - 8) / 7).toUInt64.toNat

def quoted (text : Text) : Text := '"' :: text ++ ['"']

def assign (name : String) (value : Text) : Text := ' ' :: name.toList ++ '=' :: quoted value

/-- The box of a frame, with a title that is shown when it is pointed at. -/
def box (label : Text) (time : Float) (row : Nat) (placement : Placement) : Text :=
  "    <rect".toList ++ assign "class" "frame" ++
    assign "x" (Decimal.twoPlaces placement.x) ++
    assign "y" (Text.ofNat (row * rowStep)) ++
    assign "width" (Decimal.twoPlaces placement.width) ++
    assign "height" (Text.ofNat frameHeight) ++
    assign "fill" (colour label) ++ ">\n".toList ++
  "      <title>".toList ++ escape label ++ "\nTime: ".toList ++ milliseconds time ++
    "\nPercentage: ".toList ++ Decimal.shortest (rounded (placement.share * 100) 10) ++
    "%</title>\n    </rect>\n".toList

def caption (label : Text) (row : Nat) (placement : Placement) : Text :=
  if placement.showsLabel then
    "    <text".toList ++ assign "class" "frame-text" ++
      assign "x" (Decimal.twoPlaces (placement.x + 4)) ++
      assign "y" (Text.ofNat (row * rowStep + 13)) ++ '>' ::
      escape (shorten label placement.labelLimit) ++ "</text>\n".toList
  else []

mutual

/-- Draws a frame and, in order, those below it. -/
def Frame.draw (total : Float) : Frame → Text
  | .node label time start row children =>
    if time ≤ 0 || total ≤ 0 then []
    else
      box label time row (place time start total) ++
        caption label row (place time start total) ++ Frame.drawAll total children

def Frame.drawAll (total : Float) : List Frame → Text
  | [] => []
  | frame :: more => frame.draw total ++ Frame.drawAll total more

end

def canvasHeight (root : Frame) : Nat := (root.lastRow + 1) * frameHeight + margin

def styles : Text :=
  "  <style>\n    .frame \x7b stroke: white; stroke-width: 1; cursor: pointer; \x7d\n".toList ++
    "    .frame:hover \x7b stroke: black; stroke-width: 2; \x7d\n".toList ++
    "    .frame-text \x7b font-family: monospace; font-size: 12px; fill: white; ".toList ++
    "pointer-events: none; \x7d\n".toList ++
    "    .title \x7b font-family: Arial; font-size: 16px; font-weight: bold; fill: #333; \x7d\n".toList ++
    "    .subtitle \x7b font-family: Arial; font-size: 12px; fill: #666; \x7d\n  </style>\n".toList

def heading (y style title : String) (more : Text) : Text :=
  "  <text".toList ++ assign "x" "600" ++ assign "y" y ++ assign "class" style ++
    assign "text-anchor" "middle" ++ '>' :: title.toList ++ more ++ "</text>\n".toList

/-- The picture of a plan. Rows are counted from the top, and the root fills its row. -/
def draw (plan : Plan) : Text :=
  let root := Frame.ofPlan 0 0 plan
  "<?xml".toList ++ assign "version" "1.0" ++ assign "encoding" "UTF-8" ++ "?>\n<svg".toList ++
    assign "width" "1200" ++ assign "height" (Text.ofNat (canvasHeight root)) ++
    assign "xmlns" "http://www.w3.org/2000/svg" ++ ">\n".toList ++ styles ++
    heading "20" "title" "PostgreSQL Query Execution Plan Flamegraph" [] ++
    heading "35" "subtitle" "Total Execution Time: " (milliseconds (timeOf plan)) ++
    "  <g".toList ++ assign "transform" "translate(0, 45)" ++ ">\n".toList ++
    root.draw (timeOf plan) ++ "  </g>\n</svg>\n".toList

inductive Fault
  | invalidJson
  | missingPlan
  deriving DecidableEq, Repr

/-- The fault's text; what is wrong with the JSON is not said. -/
def Fault.message : Fault → Text
  | .invalidJson => "query plan is not valid JSON"
  | .missingPlan => "query plan has no top-level \"Plan\" node"

/-- The picture of the plan in a JSON text. -/
def render (text : Text) : Except Fault Text :=
  match Json.parse? (Text.trim text) with
  | none => .error .invalidJson
  | some document =>
    match Plan.ofDocument? document with
    | none => .error .missingPlan
    | some plan => .ok (draw plan)

end Runbook.Flamegraph
