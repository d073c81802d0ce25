import Mathlib
import Runbook.Proofs.DecimalText
import Runbook.Proofs.Frames
import Runbook.Proofs.Markup

/-! The tags of a picture. What a plan says stands between tags and is escaped there, and what
stands within a tag is made of numbers and colours. -/
namespace Runbook.Flamegraph

open Markup

variable {label text rest : Text} {c : Char}

/-! Text without brackets -/

theorem isPlain_of_isDecimal (decimal : Decimal.IsDecimal text) : isPlain text = true :=
  isPlain_iff.mpr ⟨decimal.not_mem (by decide), decimal.not_mem (by decide)⟩

theorem isPlain_ofNat (n : Nat) : isPlain (Text.ofNat n) = true :=
  isPlain_of_isDecimal (Decimal.isDecimal_ofNat n)

theorem isPlain_shortest (x : Float) : isPlain (Decimal.shortest x) = true :=
  isPlain_of_isDecimal (Decimal.isDecimal_shortest x)

theorem isPlain_twoPlaces (x : Float) : isPlain (Decimal.twoPlaces x) = true :=
  isPlain_of_isDecimal (Decimal.isDecimal_twoPlaces x)

theorem isPlain_milliseconds (time : Float) : isPlain (milliseconds time) = true := by
  rw [milliseconds, isPlain_append, isPlain_shortest]
  rfl

theorem mem_escape (member : c ∈ escape text) : c ≠ '<' ∧ c ≠ '>' := by
  obtain ⟨d, -, member⟩ := List.mem_flatMap.mp member
  unfold entity at member
  split at member
  · fin_cases member <;> decide
  · fin_cases member <;> decide
  · fin_cases member <;> decide
  · fin_cases member <;> decide
  · fin_cases member <;> decide
  · rename_i lower upper _ _
    rw [List.mem_singleton.mp member]
    exact ⟨lower, upper⟩

theorem isPlain_escape (text : Text) : isPlain (escape text) = true :=
  isPlain_iff.mpr ⟨fun member => (mem_escape member).1 rfl, fun member => (mem_escape member).2 rfl⟩

/-- Reading an escaped text brings the text back: the reader sees one character where one was
written, as a reference or as itself. -/
theorem decode?_escape (text : Text) : decode? (escape text) = some text := by
  induction text with
  | nil => rfl
  | cons c text ih =>
    have step : decode? (entity c ++ escape text) = (decode? (escape text)).map (c :: ·) := by
      unfold entity
      split
      · rfl
      · rfl
      · rfl
      · rfl
      · rfl
      · rename_i ampersand lower _ _ _
        rw [List.singleton_append, decode?, decodeFrom?, if_neg lower, if_neg ampersand]
        rfl
    rw [escape, List.flatMap_cons, ← escape, step, ih]
    rfl

/-- Whatever a label is, its colour is one of the palette. -/
theorem colour_mem_palette (label : Text) : colour label ∈ palette := by
  unfold colour
  dsimp only
  split_ifs
  · decide
  · decide
  · decide
  · decide
  · decide
  · have bound : (hash label).toNat % palette.length < palette.length := Nat.mod_lt _ (by decide)
    rw [List.getElem?_eq_getElem bound]
    exact List.getElem_mem bound

theorem isPlain_colour (label : Text) : isPlain (colour label) = true :=
  List.all_eq_true.mp (show palette.all isPlain = true by decide) _ (colour_mem_palette label)

theorem isPlain_assign (name : String) (value : Text) :
    isPlain (assign name value) = (isPlain name.toList && isPlain value) := by
  simp [assign, quoted, isPlain_append, isPlain_cons, isPlain_nil]

namespace Frame

variable (total : Float) (frame : Frame)

/-- What stands in the tag that opens the frame's box. -/
def boxHead : Text :=
  "rect".toList ++ (assign "class" "frame" ++
    (assign "x" (Decimal.twoPlaces (frame.place total).x) ++
    (assign "y" (Text.ofNat (frame.row * rowStep)) ++
    (assign "width" (Decimal.twoPlaces (frame.place total).width) ++
    (assign "height" (Text.ofNat frameHeight) ++ assign "fill" (colour frame.label))))))

/-- What follows the label in the title. -/
def figures : Text :=
  milliseconds frame.time ++ ("\nPercentage: ".toList ++
    (Decimal.shortest (rounded ((frame.place total).share * 100) 10) ++ ['%']))

def captionHead : Text :=
  "text".toList ++ (assign "class" "frame-text" ++
    (assign "x" (Decimal.twoPlaces ((frame.place total).x + 4)) ++
    assign "y" (Text.ofNat (frame.row * rowStep + 13))))

def boxTag : Tag := .opening (frame.boxHead total) "\n      "

def titleTag : Tag :=
  .opening "title" (escape frame.label ++ ("\nTime: ".toList ++ frame.figures total))

def captionTag : Tag :=
  .opening (frame.captionHead total) (escape (shorten frame.label (frame.place total).labelLimit))

def boxTags : List Tag := [frame.boxTag total, frame.titleTag total, .closing "title", .closing "rect"]

def captionTags : List Tag :=
  if (frame.place total).showsLabel then [frame.captionTag total, .closing "text"] else []

theorem isPlain_boxHead : isPlain (frame.boxHead total) = true := by
  simp only [boxHead, isPlain_append, isPlain_assign, isPlain_twoPlaces, isPlain_ofNat,
    isPlain_colour]
  decide

theorem isPlain_captionHead : isPlain (frame.captionHead total) = true := by
  simp only [captionHead, isPlain_append, isPlain_assign, isPlain_twoPlaces, isPlain_ofNat]
  decide

theorem isPlain_figures : isPlain (frame.figures total) = true := by
  simp only [figures, isPlain_append, isPlain_milliseconds, isPlain_shortest]
  decide

theorem tags_box : Markup.tags (box frame.label frame.time frame.row (frame.place total) ++ rest) =
    frame.boxTags total ++ Markup.tags rest := by
  have shape : box frame.label frame.time frame.row (frame.place total) ++ rest =
      "    ".toList ++ '<' :: (frame.boxHead total ++ '>' :: ("\n      ".toList ++
        '<' :: ("title".toList ++ '>' ::
          ((escape frame.label ++ ("\nTime: ".toList ++ frame.figures total)) ++
        '<' :: '/' :: ("title".toList ++ '>' :: ("\n    ".toList ++
        '<' :: '/' :: ("rect".toList ++ '>' :: ("\n".toList ++ rest)))))))) := by
    unfold box boxHead figures
    simp
  have title : isPlain (escape frame.label ++ ("\nTime: ".toList ++ frame.figures total)) = true := by
    rw [isPlain_append, isPlain_append, isPlain_escape, isPlain_figures]
    decide
  rw [shape, tags_lead (by decide),
    tags_element (by simp [boxHead]) (frame.isPlain_boxHead total) (by decide),
    tags_element (by decide) (by decide) title, tags_closing (by decide), tags_lead (by decide),
    tags_closing (by decide), tags_lead (by decide)]
  rfl

theorem tags_caption : Markup.tags (caption frame.label frame.row (frame.place total) ++ rest) =
    frame.captionTags total ++ Markup.tags rest := by
  unfold caption captionTags
  split
  · have shape : "    <text".toList ++ assign "class" "frame-text" ++
        assign "x" (Decimal.twoPlaces ((frame.place total).x + 4)) ++
        assign "y" (Text.ofNat (frame.row * rowStep + 13)) ++ '>' ::
        escape (shorten frame.label (frame.place total).labelLimit) ++ "</text>\n".toList ++ rest =
      "    ".toList ++ '<' :: (frame.captionHead total ++ '>' ::
        (escape (shorten frame.label (frame.place total).labelLimit) ++
        '<' :: '/' :: ("text".toList ++ '>' :: ("\n".toList ++ rest)))) := by
      unfold captionHead
      simp
    rw [shape, tags_lead (by decide), tags_element (by simp [captionHead])
      (frame.isPlain_captionHead total) (isPlain_escape _), tags_closing (by decide),
      tags_lead (by decide)]
    rfl
  · rfl

/-- The tags that a frame adds to a picture. -/
def tags : List Tag := frame.boxTags total ++ frame.captionTags total

theorem tags_mark :
    Markup.tags (frame.mark total ++ rest) = frame.tags total ++ Markup.tags rest := by
  rw [mark, List.append_assoc, tags_box, tags_caption, tags, List.append_assoc]

theorem tags_marks (frames : List Frame) : Markup.tags (frames.flatMap (mark total) ++ rest) =
    frames.flatMap (tags total) ++ Markup.tags rest := by
  induction frames with
  | nil => rfl
  | cons frame frames ih =>
    rw [List.flatMap_cons, List.flatMap_cons, List.append_assoc, List.append_assoc, tags_mark, ih]

end Frame

/-- The tag of the whole picture. -/
def pictureHead (plan : Plan) : Text :=
  "svg".toList ++ (assign "width" "1200" ++
    (assign "height" (Text.ofNat (canvasHeight (Frame.ofPlan 0 0 plan))) ++
      assign "xmlns" "http://www.w3.org/2000/svg"))

def headingHead (y style : String) : Text :=
  "text".toList ++ (assign "x" "600" ++ (assign "y" y ++ (assign "class" style ++
    assign "text-anchor" "middle")))

/-- The rules for the looks of the frames and the headings. -/
def styleRules : Text := (styles.drop 9).takeWhile (· != '<')

theorem tags_heading (y style title : String) (more : Text)
    (plain : (isPlain y.toList && isPlain style.toList && isPlain title.toList) = true)
    (others : isPlain more = true) : tags (heading y style title more ++ rest) =
      .opening (headingHead y style) (title.toList ++ more) :: .closing "text" :: tags rest := by
  rw [Bool.and_eq_true, Bool.and_eq_true] at plain
  obtain ⟨⟨plainY, plainStyle⟩, plainTitle⟩ := plain
  have shape : heading y style title more ++ rest =
      "  ".toList ++ '<' :: (headingHead y style ++ '>' :: ((title.toList ++ more) ++
        '<' :: '/' :: ("text".toList ++ '>' :: ("\n".toList ++ rest)))) := by
    unfold heading headingHead
    simp
  have inside : isPlain (headingHead y style) = true := by
    simp only [headingHead, isPlain_append, isPlain_assign, plainY, plainStyle]
    decide
  have text : isPlain (title.toList ++ more) = true := by
    rw [isPlain_append, plainTitle, others]
    rfl
  rw [shape, tags_lead (by decide), tags_element (by simp [headingHead]) inside text,
    tags_closing (by decide), tags_lead (by decide)]

theorem styles_eq : styles = "  ".toList ++ '<' :: ("style".toList ++ '>' :: (styleRules ++
    '<' :: '/' :: ("style".toList ++ '>' :: "\n".toList))) ∧ isPlain styleRules = true := by
  decide +kernel

/-- The tags before those of the frames. -/
def headTags (plan : Plan) : List Tag :=
  [.opening ("?xml".toList ++ (assign "version" "1.0" ++ (assign "encoding" "UTF-8" ++ ['?']))) "\n",
    .opening (pictureHead plan) "\n  ", .opening "style" styleRules, .closing "style",
    .opening (headingHead "20" "title") "PostgreSQL Query Execution Plan Flamegraph", .closing "text",
    .opening (headingHead "35" "subtitle")
      ("Total Execution Time: ".toList ++ milliseconds (timeOf plan)), .closing "text"]

/-- The tag of the group that holds the frames. -/
def groupTag (text : Text) : Tag := .opening ("g".toList ++ assign "transform" "translate(0, 45)") text

theorem tags_draw (plan : Plan) : ∃ text, tags (draw plan) = headTags plan ++ groupTag text ::
    ((Frame.ofPlan 0 0 plan).shown.flatMap (Frame.tags (timeOf plan)) ++
      [.closing "g", .closing "svg"]) := by
  let marks := (Frame.ofPlan 0 0 plan).shown.flatMap (Frame.mark (timeOf plan))
  let last := "  ".toList ++ '<' :: '/' :: ("g".toList ++ '>' :: ("\n".toList ++
    '<' :: '/' :: ("svg".toList ++ '>' :: "\n".toList)))
  have shape : draw plan = '<' :: ("?xml".toList ++ (assign "version" "1.0" ++
      (assign "encoding" "UTF-8" ++ ['?'])) ++ '>' :: ("\n".toList ++
      '<' :: (pictureHead plan ++ '>' :: ("\n  ".toList ++
      '<' :: ("style".toList ++ '>' :: (styleRules ++
      '<' :: '/' :: ("style".toList ++ '>' :: ("\n".toList ++
      (heading "20" "title" "PostgreSQL Query Execution Plan Flamegraph" [] ++
      (heading "35" "subtitle" "Total Execution Time: " (milliseconds (timeOf plan)) ++
      ("  ".toList ++ '<' :: ("g".toList ++ assign "transform" "translate(0, 45)" ++ '>' ::
      ("\n".toList ++ (marks ++ last)))))))))))))) := by
    unfold draw pictureHead
    rw [styles_eq.1]
    simp [Frame.draw_root, marks, last]
  have head : isPlain (pictureHead plan) = true := by
    simp only [pictureHead, isPlain_append, isPlain_assign, isPlain_ofNat]
    decide
  refine ⟨("\n".toList ++ (marks ++ last)).takeWhile (· != '<'), ?_⟩
  rw [shape, tags_element (by decide) (by decide) (by decide),
    tags_element (by simp [pictureHead]) head (by decide),
    tags_element (by decide) (by decide) styles_eq.2, tags_closing (by decide),
    tags_lead (by decide), tags_heading _ _ _ _ (by decide) (by decide),
    tags_heading _ _ _ _ (by decide) (isPlain_milliseconds _), tags_lead (by decide),
    tags_opening (by decide) (by decide), tags_lead (by decide), Frame.tags_marks,
    tags_lead (by decide), tags_closing (by decide), tags_lead (by decide), tags_closing (by decide)]
  rfl

end Runbook.Flamegraph
