import Runbook.Text.Blank

/-! A reader of markup: the tags of a text, what they hold, and what stands behind them. It
knows of brackets, attributes and references, and of nothing that is drawn with them. -/
namespace Runbook.Markup

/-- A tag that opens an element, with the text up to the next tag, or one that closes it; what
follows that is layout. -/
inductive Tag
  | opening (inside text : Text)
  | closing (name : Text)
  deriving DecidableEq, Repr

/-- The tag in what stands behind an opening bracket. -/
def Tag.ofPiece : Text → Tag
  | '/' :: rest => .closing (rest.takeWhile (· != '>'))
  | piece => .opening (piece.takeWhile (· != '>')) ((piece.dropWhile (· != '>')).drop 1)

/-- The tags of a text in their order. -/
def tags (document : Text) : List Tag := (document.splitOn '<').tail.map Tag.ofPiece

namespace Tag

/-- What the tag begins with. That of a closing tag has a slash. -/
def name : Tag → Text
  | opening inside _ => inside.takeWhile fun c => !Text.isBlank c
  | closing name => '/' :: name

/-- The text right behind an opening tag. -/
def text : Tag → Text
  | opening _ text => text
  | closing _ => []

/-- What follows the first place where `key` is set, up to the closing quote. -/
def valueIn? (key : Text) : Text → Option Text
  | [] => none
  | c :: rest =>
    match Text.after? (' ' :: key ++ ['=', '"']) (c :: rest) with
    | some value => some (value.takeWhile (· != '"'))
    | none => valueIn? key rest

/-- The value of an attribute. -/
def value? (key : Text) : Tag → Option Text
  | opening inside _ => valueIn? key inside
  | closing _ => none

end Tag

def elements (name document : Text) : List Tag := (tags document).filter (·.name == name)

def isPlain (text : Text) : Bool := text.all fun c => c != '<' && c != '>'

section Tags

variable {lead inside name text rest document : Text} {c : Char}

theorem isPlain_append : isPlain (text ++ rest) = (isPlain text && isPlain rest) :=
  List.all_append

theorem isPlain_cons : isPlain (c :: rest) = ((c != '<' && c != '>') && isPlain rest) := rfl

theorem isPlain_nil : isPlain [] = true := rfl

theorem isPlain_iff : isPlain text = true ↔ '<' ∉ text ∧ '>' ∉ text := by
  simp only [isPlain, List.all_eq_true, Bool.and_eq_true, bne_iff_ne]
  constructor
  · exact fun plain => ⟨fun member => (plain _ member).1 rfl, fun member => (plain _ member).2 rfl⟩
  · rintro ⟨lower, upper⟩ c member
    exact ⟨fun same => lower (same ▸ member), fun same => upper (same ▸ member)⟩

theorem tags_cons (other : c ≠ '<') (rest : Text) : tags (c :: rest) = tags rest := by
  rw [tags, List.splitOn_cons_eq_if_modifyHead, if_neg (by simpa using other),
    List.tail_modifyHead]
  rfl

theorem tags_lead (plain : '<' ∉ lead) (rest : Text) : tags (lead ++ rest) = tags rest := by
  induction lead with
  | nil => rfl
  | cons c lead ih =>
    obtain ⟨other, plain⟩ : '<' ≠ c ∧ '<' ∉ lead := by simpa using plain
    rw [List.cons_append, tags_cons other.symm, ih plain]

theorem head?_splitOn (text : Text) :
    (text.splitOn '<').head? = some (text.takeWhile (· != '<')) := by
  induction text with
  | nil => rfl
  | cons c text ih =>
    rw [List.splitOn_cons_eq_if_modifyHead]
    by_cases bracket : c = '<'
    · simp [bracket]
    · have other : (c == '<') = false := by simpa using bracket
      simp [other, bracket, List.head?_modifyHead, ih]

theorem tags_bracket (rest : Text) :
    tags ('<' :: rest) = Tag.ofPiece (rest.takeWhile (· != '<')) :: tags rest := by
  have first := head?_splitOn rest
  unfold tags
  rw [List.splitOn_cons_eq_if_modifyHead, if_pos (by decide), List.tail_cons]
  cases cut : rest.splitOn '<' with
  | nil => simp [cut] at first
  | cons piece pieces =>
    rw [cut, List.head?_cons] at first
    rw [List.map_cons, Option.some.inj first]
    rfl

theorem span_stop {text : Text} (plain : c ∉ text) (rest : Text) :
    (text ++ c :: rest).takeWhile (· != c) = text ∧
      (text ++ c :: rest).dropWhile (· != c) = c :: rest := by
  have inside : ∀ d ∈ text, (d != c) = true := fun d member => by
    simpa using fun same : d = c => plain (same ▸ member)
  rw [List.takeWhile_append_of_pos inside, List.dropWhile_append_of_pos inside]
  simp

theorem takeWhile_lead (plain : '<' ∉ lead) (rest : Text) :
    (lead ++ rest).takeWhile (· != '<') = lead ++ rest.takeWhile (· != '<') :=
  List.takeWhile_append_of_pos fun d member => by
    simpa using fun same : d = '<' => plain (same ▸ member)

theorem tags_opening (first : inside.head? ≠ some '/') (plain : isPlain inside = true)
    (rest : Text) : tags ('<' :: (inside ++ '>' :: rest)) =
      .opening inside (rest.takeWhile (· != '<')) :: tags rest := by
  rw [isPlain_iff] at plain
  have lead : '<' ∉ inside ++ ['>'] := by simpa using plain.1
  have whole : inside ++ '>' :: rest = (inside ++ ['>']) ++ rest := by simp
  obtain ⟨taken, dropped⟩ := span_stop plain.2 (rest.takeWhile (· != '<'))
  rw [tags_bracket, whole, takeWhile_lead lead, tags_lead lead, List.append_assoc,
    List.singleton_append, Tag.ofPiece, taken, dropped, List.drop_one, List.tail_cons]
  rintro more same
  cases inside with
  | nil => exact absurd (List.cons.inj same).1 (by decide)
  | cons d inside => exact first (by rw [← (List.cons.inj same).1]; rfl)

theorem tags_element (first : inside.head? ≠ some '/') (plain : isPlain inside = true)
    (behind : isPlain text = true) (rest : Text) :
    tags ('<' :: (inside ++ '>' :: (text ++ '<' :: rest))) =
      .opening inside text :: tags ('<' :: rest) := by
  rw [isPlain_iff] at behind
  rw [tags_opening first plain, (span_stop behind.1 rest).1, tags_lead behind.1]

theorem tags_closing (plain : isPlain name = true) (rest : Text) :
    tags ('<' :: '/' :: (name ++ '>' :: rest)) = .closing name :: tags rest := by
  rw [isPlain_iff] at plain
  have lead : '<' ∉ '/' :: (name ++ ['>']) := by simpa using plain.1
  have whole : '/' :: (name ++ '>' :: rest) = ('/' :: (name ++ ['>'])) ++ rest := by simp
  rw [tags_bracket, whole, takeWhile_lead lead, tags_lead lead, List.cons_append,
    List.append_assoc, List.singleton_append, Tag.ofPiece, (span_stop plain.2 _).1]

theorem length_tags (document : Text) : (tags document).length = document.count '<' := by
  induction document with
  | nil => rfl
  | cons c document ih =>
    by_cases bracket : c = '<'
    · subst bracket
      rw [tags_bracket, List.length_cons, List.count_cons_self, ih]
    · rw [tags_cons bracket, List.count_cons_of_ne bracket, ih]

end Tags

namespace Tag

variable {key other value rest : Text}

theorem valueIn?_lead {lead : Text} (plain : ' ' ∉ lead) (rest : Text) :
    valueIn? key (lead ++ rest) = valueIn? key rest := by
  induction lead with
  | nil => rfl
  | cons c lead ih =>
    obtain ⟨differs, plain⟩ : ' ' ≠ c ∧ ' ' ∉ lead := by simpa using plain
    rw [List.cons_append, valueIn?, Text.after?, if_neg (by simp [differs]), ih plain]

theorem valueIn?_assigned (plain : '"' ∉ value) (rest : Text) :
    valueIn? key (' ' :: (key ++ '=' :: '"' :: (value ++ '"' :: rest))) = some value := by
  have whole : ' ' :: (key ++ '=' :: '"' :: (value ++ '"' :: rest)) =
      (' ' :: key ++ ['=', '"']) ++ (value ++ '"' :: rest) := by simp
  rw [valueIn?, whole, Text.after?_append]
  exact congrArg some (span_stop plain rest).1

/-- An attribute with another name is passed over, unless its value holds a blank. -/
theorem valueIn?_other (differs : key ≠ other) (here : '=' ∉ key) (there : '=' ∉ other)
    (single : ' ' ∉ other) (plain : ' ' ∉ value) (rest : Text) :
    valueIn? key (' ' :: (other ++ '=' :: '"' :: (value ++ '"' :: rest))) =
      valueIn? key rest := by
  have unlike : ¬ (' ' :: key ++ ['=', '"']) <+:
      ' ' :: (other ++ '=' :: '"' :: (value ++ '"' :: rest)) := by
    rintro ⟨more, same⟩
    simp only [List.cons_append, List.append_assoc, List.nil_append, List.cons.injEq,
      true_and] at same
    have names := congrArg (List.takeWhile (· != '=')) same
    rw [(span_stop here _).1, (span_stop there _).1] at names
    exact differs names
  have lead : ' ' ∉ other ++ '=' :: '"' :: (value ++ ['"']) := by simp [single, plain]
  have whole : other ++ '=' :: '"' :: (value ++ '"' :: rest) =
      (other ++ '=' :: '"' :: (value ++ ['"'])) ++ rest := by simp
  rw [valueIn?, Text.after?, if_neg (by simpa using unlike), whole, valueIn?_lead lead]

end Tag

/-! References. A bracket or a reference that is cut short makes a text unreadable. -/

/-- The character that a reference stands for, by what is between `&` and `;`: one of the five names
of XML, or a decimal number. -/
def reference? (name : Text) : Option Char :=
  if name = "amp".toList then some '&'
  else if name = "lt".toList then some '<'
  else if name = "gt".toList then some '>'
  else if name = "quot".toList then some '"'
  else if name = "apos".toList then some '\x27'
  else match name with
    | '#' :: digits =>
      if !digits.isEmpty && digits.all Char.isDigit then
        some (Char.ofNat (digits.foldl (fun n c => n * 10 + (c.toNat - '0'.toNat)) 0))
      else none
    | _ => none

/-- Reads on, inside of a reference if some of its name has been read. -/
def decodeFrom? : Option Text → Text → Option Text
  | none, [] => some []
  | some _, [] => none
  | none, c :: rest =>
    if c = '<' then none
    else if c = '&' then decodeFrom? (some []) rest
    else (decodeFrom? none rest).map (c :: ·)
  | some name, c :: rest =>
    if c = ';' then
      match reference? name with
      | some d => (decodeFrom? none rest).map (d :: ·)
      | none => none
    else decodeFrom? (some (name ++ [c])) rest

/-- The characters that a text stands for. -/
def decode? (text : Text) : Option Text := decodeFrom? none text

end Runbook.Markup
