import Mathlib
import Runbook.Flamegraph
import Runbook.Proofs.DecimalText

/-! The colours of frames. A family of operations is known by a word, and the word counts wherever
it stands on the label: in the type of the operation or in a name that it works on. Its time is
never taken for a word, but takes part in the hash by which all others get their colour. -/
namespace Runbook.Flamegraph

/-! Words within a label -/

/-- What stands between the parts of a label, blanks apart. -/
def separators : List Char := ['(', ')', '[', ']', ',', ':']

/-- A word that is no part of a time, and that the signs between the parts of a label neither
stand in nor touch. -/
structure IsWord (word : Text) : Prop where
  separate : (word.all fun c => !separators.contains c) = true
  begun : word.head? ≠ some ' '
  ended : word.getLast? ≠ some ' '
  named : word.any (fun c => c.isUpper && c != 'N') = true

/-- The words that families are known by, wherever on a label they stand. -/
def familyWords : List Text :=
  ["Seq Scan", "Hash Join", "Nested Loop", "Merge Join", "Sort", "Aggregate", "Result"]

theorem isWord_of_mem {word : Text} (member : word ∈ familyWords) : IsWord word := by
  fin_cases member <;> exact ⟨by decide, by decide, by decide, by decide⟩

theorem isWord_index : IsWord "Index" := ⟨by decide, by decide, by decide, by decide⟩

theorem isWord_scan : IsWord "Scan" := ⟨by decide, by decide, by decide, by decide⟩

section Infix

variable {word left right text : Text} {c : Char}

theorem prefix_around (absent : c ∉ word) : word <+: left ++ c :: right ↔ word <+: left := by
  constructor
  · intro start
    by_cases short : word.length ≤ left.length
    · exact List.prefix_of_prefix_length_le start (List.prefix_append _ _) short
    · have beyond : left ++ [c] <+: word :=
        List.prefix_of_prefix_length_le ⟨right, by simp⟩ start (by simp; omega)
      exact absurd (beyond.subset (List.mem_append_right _ (List.mem_singleton_self c))) absent
  · exact fun start => start.trans (List.prefix_append _ _)

/-- A text around a sign that the word has not holds the word before the sign or behind it. -/
theorem infix_around (absent : c ∉ word) :
    word <:+: left ++ c :: right ↔ word <:+: left ∨ word <:+: right := by
  induction left with
  | nil =>
    rw [List.nil_append, List.infix_cons_iff, ← List.nil_append (c :: right), prefix_around absent,
      List.prefix_nil, List.infix_nil]
  | cons d left ih =>
    rw [List.cons_append, List.infix_cons_iff, ih, ← List.cons_append, prefix_around absent,
      List.infix_cons_iff, or_assoc]

namespace IsWord

variable (isWord : IsWord word)

include isWord

theorem not_mem {c : Char} (separator : separators.contains c = true) : c ∉ word := by
  intro member
  have apart := List.all_eq_true.mp isWord.separate c member
  rw [separator] at apart
  contradiction

theorem ne_nil : word ≠ [] := by
  obtain ⟨c, member, -⟩ := List.any_eq_true.mp isWord.named
  exact List.ne_nil_of_mem member

theorem infix_blank_before : word <:+: ' ' :: text ↔ word <:+: text := by
  rw [List.infix_cons_iff, or_iff_right]
  intro start
  obtain ⟨d, rest, rfl⟩ := List.exists_cons_of_ne_nil isWord.ne_nil
  exact isWord.begun (congrArg some (List.cons_prefix_cons.mp start).1)

theorem infix_blank_behind : word <:+: text ++ [' '] ↔ word <:+: text := by
  rw [List.infix_concat_iff, or_iff_right]
  rintro ⟨lead, whole⟩
  have last := congrArg List.getLast? whole
  rw [List.getLast?_concat, List.getLast?_append_of_ne_nil _ isWord.ne_nil] at last
  exact isWord.ended last

/-- Without a capital but that of an undefined number there is no word. -/
theorem not_infix (small : ∀ c ∈ text, c.isUpper = true → c = 'N') : ¬ word <:+: text := by
  intro part
  obtain ⟨c, member, capital⟩ := List.any_eq_true.mp isWord.named
  rw [Bool.and_eq_true, bne_iff_ne] at capital
  exact capital.2 (small c (part.subset member) capital.1)

theorem infix_joined (parts : List Text) :
    word <:+: Text.joined ", " parts ↔ ∃ part ∈ parts, word <:+: part := by
  have comma := isWord.not_mem (show separators.contains ',' = true by decide)
  induction parts with
  | nil => simpa [Text.joined] using isWord.ne_nil
  | cons part parts ih =>
    cases parts with
    | nil => simp [Text.joined, List.intercalate_singleton]
    | cons next parts =>
      have shape : Text.joined ", " (part :: next :: parts) =
          part ++ ',' :: (' ' :: Text.joined ", " (next :: parts)) := by
        simp [Text.joined, List.intercalate_cons_cons]
      rw [shape, infix_around comma, isWord.infix_blank_before, List.exists_mem_cons_iff]
      exact or_congr_right ih

end IsWord

end Infix

/-! The parts of a label -/

/-- The names that an operation works on. -/
def names (node : PlanNode) : List Text :=
  node.relation.toList ++ node.index.toList ++ node.join.toList

/-- The names as they stand on the label, in parentheses. -/
def namesText (node : PlanNode) : Text :=
  let details := node.relation.toList ++ (node.index.map ("idx:".toList ++ ·)).toList ++
    node.join.toList
  if details.isEmpty then [] else " (".toList ++ Text.joined ", " details ++ [')']

/-- The time as it stands on the label, in brackets. -/
def timeText (node : PlanNode) : Text :=
  match node.time with
  | some time => " [".toList ++ milliseconds time ++ [']']
  | none => []

theorem label_eq (node : PlanNode) :
    label node = node.type.getD "Unknown" ++ namesText node ++ timeText node := rfl

theorem small_of_mem_milliseconds {time : Float} {c : Char} (member : c ∈ milliseconds time)
    (upper : c.isUpper = true) : c = 'N' := by
  rcases List.mem_append.mp member with sign | unit
  · exact Decimal.eq_of_isSign_of_isUpper (Decimal.isDecimal_shortest _ c sign) upper
  · fin_cases unit <;> contradiction

namespace IsWord

variable {word text : Text} (isWord : IsWord word)

include isWord

theorem infix_namesText (node : PlanNode) : word <:+: text ++ namesText node ↔
    word <:+: text ∨ ∃ name ∈ names node, word <:+: name := by
  have opening := isWord.not_mem (show separators.contains '(' = true by decide)
  have closing := isWord.not_mem (show separators.contains ')' = true by decide)
  have colon := isWord.not_mem (show separators.contains ':' = true by decide)
  have index (name : Text) : word <:+: "idx:".toList ++ name ↔ word <:+: name := by
    have small : ∀ c ∈ "idx".toList, c.isUpper = true → c = 'N' := fun c member upper => by
      fin_cases member <;> contradiction
    rw [show "idx:".toList ++ name = "idx".toList ++ ':' :: name from rfl, infix_around colon,
      or_iff_right (isWord.not_infix small)]
  have details (parts : List Text) : word <:+: text ++
      (if parts.isEmpty then [] else " (".toList ++ Text.joined ", " parts ++ [')']) ↔
      word <:+: text ∨ ∃ part ∈ parts, word <:+: part := by
    split
    · rename_i none
      simp [List.isEmpty_iff.mp none]
    · have shape : text ++ (" (".toList ++ Text.joined ", " parts ++ [')']) =
          (text ++ [' ']) ++ '(' :: (Text.joined ", " parts ++ ')' :: []) := by simp
      rw [shape, infix_around opening, isWord.infix_blank_behind, infix_around closing,
        isWord.infix_joined, List.infix_nil, or_iff_left isWord.ne_nil]
  unfold namesText names
  rw [details]
  simp only [List.mem_append, or_and_right, exists_or]
  cases node.index with
  | none => rfl
  | some name => simp only [Option.map_some, Option.toList_some, List.mem_singleton, exists_eq_left,
      index]

theorem infix_timeText (node : PlanNode) :
    word <:+: text ++ timeText node ↔ word <:+: text := by
  have bracket := isWord.not_mem (show separators.contains '[' = true by decide)
  unfold timeText
  split
  · rename_i time _
    have shape : text ++ (" [".toList ++ milliseconds time ++ [']']) =
        (text ++ [' ']) ++ '[' :: (milliseconds time ++ [']']) := by simp
    have small : ∀ c ∈ milliseconds time ++ [']'], c.isUpper = true → c = 'N' := by
      intro c member upper
      rcases List.mem_append.mp member with inside | last
      · exact small_of_mem_milliseconds inside upper
      · rw [List.mem_singleton.mp last] at upper
        contradiction
    rw [shape, infix_around bracket, isWord.infix_blank_behind, or_iff_left (isWord.not_infix small)]
  · rw [List.append_nil]

/-- A word on a label stands in the type or in a name. -/
theorem occursIn_label (node : PlanNode) : Text.occursIn word (label node) =
    (Text.occursIn word (node.type.getD "Unknown") || (names node).any (Text.occursIn word)) := by
  rw [Bool.eq_iff_iff, Bool.or_eq_true, List.any_eq_true, Text.occursIn_iff, Text.occursIn_iff,
    label_eq, isWord.infix_timeText, isWord.infix_namesText]
  simp only [Text.occursIn_iff]

end IsWord

/-! What precedes the names -/

theorem prefix_upTo (mark text : Text) : upTo mark text <+: text := by
  induction text with
  | nil => exact List.prefix_refl _
  | cons c text ih =>
    rw [upTo]
    split
    · exact List.nil_prefix
    · exact List.cons_prefix_cons.mpr ⟨rfl, ih⟩

/-- Of two texts, of which the second does not open with a parenthesis, the first is cut if it can
be, and else the second. -/
theorem upTo_append {rest : Text} (apart : rest.head? ≠ some '(') (text : Text) :
    upTo " (" (text ++ rest) = upTo " (" text ∨
      upTo " (" text = text ∧ upTo " (" (text ++ rest) = text ++ upTo " (" rest := by
  induction text with
  | nil => exact .inr ⟨rfl, rfl⟩
  | cons c text ih =>
    have same : " (".toList.isPrefixOf (c :: (text ++ rest)) =
        " (".toList.isPrefixOf (c :: text) := by
      cases text with
      | nil =>
        cases rest with
        | nil => rfl
        | cons d rest =>
          have differs : '(' ≠ d := fun same => apart (by rw [same, List.head?_cons])
          have other : ('(' == d) = false := beq_eq_false_iff_ne.mpr differs
          simp [List.isPrefixOf, other]
      | cons d text => rfl
    rw [List.cons_append, upTo, upTo, same]
    split
    · exact .inl rfl
    · rcases ih with before | ⟨whole, behind⟩
      · exact .inl (by rw [before])
      · exact .inr ⟨by rw [whole], by rw [behind]; rfl⟩

theorem namesText_shape (node : PlanNode) :
    namesText node = [] ∨ ∃ more, namesText node = " (".toList ++ more := by
  unfold namesText
  dsimp only
  split
  · exact .inl rfl
  · exact .inr ⟨_, List.append_assoc _ _ _⟩

theorem head?_timeText (node : PlanNode) : (timeText node).head? ≠ some '(' := by
  unfold timeText
  split <;> simp

/-- What precedes the names holds the words that it holds in the type alone. -/
theorem IsWord.occursIn_operation {word : Text} (isWord : IsWord word) (node : PlanNode) :
    Text.occursIn word (upTo " (" (label node)) =
      Text.occursIn word (upTo " (" (node.type.getD "Unknown")) := by
  rw [label_eq, List.append_assoc]
  rcases namesText_shape node with none | ⟨more, some⟩
  · rw [none, List.nil_append]
    rcases upTo_append (head?_timeText node) (node.type.getD "Unknown") with same | ⟨whole, behind⟩
    · rw [same]
    · rw [whole, behind, Bool.eq_iff_iff, Text.occursIn_iff, Text.occursIn_iff]
      constructor
      · intro part
        have lead : node.type.getD "Unknown" ++ upTo " (" (timeText node) <+:
            node.type.getD "Unknown" ++ timeText node :=
          (List.prefix_append_right_inj _).mpr (prefix_upTo _ _)
        exact (isWord.infix_timeText node).mp (part.trans lead.isInfix)
      · exact fun part => part.trans (List.prefix_append _ _).isInfix
  · rw [some, List.append_assoc]
    rcases @upTo_append (" (".toList ++ (more ++ timeText node)) (by simp)
      (node.type.getD "Unknown") with same | ⟨whole, behind⟩
    · rw [same]
    · have nothing : upTo " (" (" (".toList ++ (more ++ timeText node)) = [] := rfl
      rw [behind, nothing, List.append_nil, whole]

/-! The law of colours -/

/-- The colour of the first family whose word is held. That of index scans has two words, and
they are looked for in what precedes the names only. -/
def familyOf? (holds : Text → Bool) (operation : Text) : Option Text :=
  if holds "Seq Scan" then some "#e74c3c"
  else if Text.occursIn "Index" operation && Text.occursIn "Scan" operation then some "#2ecc71"
  else if holds "Hash Join" || holds "Nested Loop" || holds "Merge Join" then some "#3498db"
  else if holds "Sort" || holds "Aggregate" then some "#f39c12"
  else if holds "Result" then some "#95a5a6"
  else none

/-- The colour that a label without a family picks from the palette. -/
def picked (label : Text) : Text := (palette[(hash label).toNat % palette.length]?).getD []

theorem colour_eq (label : Text) : colour label =
    (familyOf? (Text.occursIn · label) (upTo " (" label)).getD (picked label) := by
  unfold colour familyOf?
  dsimp only
  split_ifs <;> rfl

theorem familyOf?_congr {holds others : Text → Bool} {operation more : Text}
    (same : ∀ word ∈ familyWords, holds word = others word)
    (index : Text.occursIn "Index" operation = Text.occursIn "Index" more)
    (scan : Text.occursIn "Scan" operation = Text.occursIn "Scan" more) :
    familyOf? holds operation = familyOf? others more := by
  unfold familyOf?
  rw [same "Seq Scan" (by decide), same "Hash Join" (by decide), same "Nested Loop" (by decide),
    same "Merge Join" (by decide), same "Sort" (by decide), same "Aggregate" (by decide),
    same "Result" (by decide), index, scan]

/-- The colour of the family that its type and its names make an operation one of. -/
def family? (type : Text) (names : List Text) : Option Text :=
  familyOf? (fun word => Text.occursIn word type || names.any (Text.occursIn word)) (upTo " (" type)

/-- The time has no part in the choice of a family, but all of the label has one in the hash. -/
theorem colour_label (node : PlanNode) : colour (label node) =
    (family? (node.type.getD "Unknown") (names node)).getD (picked (label node)) := by
  rw [colour_eq, family?, familyOf?_congr
    (fun word member => (isWord_of_mem member).occursIn_label node)
    (isWord_index.occursIn_operation node) (isWord_scan.occursIn_operation node)]

/-! Picks from the palette -/

/-- The factor of the hash is odd, so that the last bit of each byte comes through. -/
theorem mix_mod_two (state : UInt64) (byte : UInt8) :
    ((state ^^^ byte.toUInt64) * 0x00000100000001b3).toNat % 2 = (state.toNat + byte.toNat) % 2 := by
  rw [UInt64.toNat_mul, Nat.mod_mod_of_dvd _ (by decide), Nat.mul_mod, UInt64.toNat_xor,
    Nat.xor_mod_two_eq, UInt8.toNat_toUInt64]
  have odd : UInt64.toNat 0x00000100000001b3 % 2 = 1 := by decide
  rw [odd, Nat.mul_one, Nat.mod_mod]

theorem hash_mod_two (text : Text) : (hash text).toNat % 2 =
    (1 + ((text.flatMap String.utf8EncodeChar).map UInt8.toNat).sum) % 2 := by
  have mixed (bytes : List UInt8) (state : UInt64) :
      (bytes.foldl (fun hash byte => (hash ^^^ byte.toUInt64) * 0x00000100000001b3) state).toNat % 2 =
        (state.toNat + (bytes.map UInt8.toNat).sum) % 2 := by
    induction bytes generalizing state with
    | nil => rfl
    | cons byte bytes ih =>
      have first := mix_mod_two state byte
      rw [List.foldl_cons, ih, List.map_cons, List.sum_cons]
      omega
  have start : UInt64.toNat 0xcbf29ce484222325 % 2 = 1 := by decide
  rw [hash, mixed]
  omega

theorem picked_ne {first second : Text}
    (apart : (hash first).toNat % 2 ≠ (hash second).toNat % 2) : picked first ≠ picked second := by
  have size : palette.length = 10 := rfl
  have before : (hash first).toNat % palette.length < palette.length := Nat.mod_lt _ (by decide)
  have behind : (hash second).toNat % palette.length < palette.length := Nat.mod_lt _ (by decide)
  have distinct : palette.Nodup := by decide
  unfold picked
  rw [List.getElem?_eq_getElem before, List.getElem?_eq_getElem behind, Option.getD_some,
    Option.getD_some, Ne, distinct.getElem_inj_iff, size]
  omega

/-! Operations of one type -/

/-- No name of the operation holds the word of a family. -/
def Unmarked (node : PlanNode) : Prop :=
  ∀ name ∈ names node, ∀ word ∈ familyWords, Text.occursIn word name = false

theorem family?_unmarked {node : PlanNode} (unmarked : Unmarked node) (type : Text) :
    family? type (names node) = family? type [] := by
  refine familyOf?_congr (fun word member => ?_) rfl rfl
  have none : (names node).any (Text.occursIn word) = false :=
    List.any_eq_false.mpr fun name among => by simp [unmarked name among word member]
  rw [none, List.any_nil]

theorem family?_seqScan {type : Text} {names : List Text}
    (held : (Text.occursIn "Seq Scan" type || names.any (Text.occursIn "Seq Scan")) = true) :
    family? type names = some "#e74c3c".toList := by
  rw [family?, familyOf?, if_pos held]

theorem family?_hashJoin {type : Text} (other : Text.occursIn "Seq Scan" type = false) :
    ∃ colour, family? type ["Hash Join"] = some colour ∧ colour ≠ "#e74c3c".toList := by
  have noScan : (Text.occursIn "Seq Scan" type ||
      ["Hash Join".toList].any (Text.occursIn "Seq Scan")) = false := by
    rw [other]
    decide
  have join : (Text.occursIn "Hash Join" type ||
      ["Hash Join".toList].any (Text.occursIn "Hash Join")) = true := by
    rw [Bool.or_eq_true]
    exact .inr (by decide)
  rw [family?, familyOf?, if_neg (by rw [noScan]; decide)]
  split
  · exact ⟨_, rfl, by decide⟩
  · rw [if_pos (by rw [join, Bool.true_or, Bool.true_or])]
    exact ⟨_, rfl, by decide⟩

/-- An operation that works on one table. -/
def onTable (type relation : Text) : PlanNode := ⟨some type, some relation, none, none, none⟩

theorem label_onTable (type relation : Text) :
    label (onTable type relation) = type ++ (" (".toList ++ (relation ++ [')'])) := by
  simp [label, onTable, Text.joined]

theorem colour_onTable (type relation : Text) : colour (label (onTable type relation)) =
    (family? type [relation]).getD (picked (label (onTable type relation))) :=
  colour_label (onTable type relation)

theorem unmarked_onTable {type relation : Text}
    (none : familyWords.all (fun word => !Text.occursIn word relation) = true) :
    Unmarked (onTable type relation) := by
  intro name among word member
  have same : name = relation := List.mem_singleton.mp among
  rw [same]
  simpa using List.all_eq_true.mp none word member

/-- Two tables are enough to tell operations apart that are of no family. -/
theorem picked_onTable (type : Text) :
    picked (label (onTable type "a")) ≠ picked (label (onTable type "b")) := by
  refine picked_ne ?_
  rw [label_onTable, label_onTable, hash_mod_two, hash_mod_two]
  simp only [List.flatMap_append, List.map_append, List.sum_append]
  have first : (("a".toList.flatMap String.utf8EncodeChar).map UInt8.toNat).sum = 97 := by decide
  have second : (("b".toList.flatMap String.utf8EncodeChar).map UInt8.toNat).sum = 98 := by decide
  rw [first, second]
  omega

theorem colours_agree_iff (type : Text) :
    (∀ a b : PlanNode, a.type = some type → b.type = some type →
      colour (label a) = colour (label b)) ↔ Text.occursIn "Seq Scan" type = true := by
  constructor
  · intro agree
    by_contra other
    rw [Bool.not_eq_true] at other
    have same := agree (onTable type "Seq Scan") (onTable type "Hash Join") rfl rfl
    have scan : (Text.occursIn "Seq Scan" type ||
        ["Seq Scan".toList].any (Text.occursIn "Seq Scan")) = true := by
      rw [Bool.or_eq_true]
      exact .inr (by decide)
    obtain ⟨joined, found, differs⟩ := family?_hashJoin other
    rw [colour_onTable, colour_onTable, family?_seqScan scan, found] at same
    exact differs same.symm
  · intro held a b first second
    have red (node : PlanNode) (typed : node.type = some type) :
        colour (label node) = "#e74c3c".toList := by
      rw [colour_label, typed, Option.getD_some, family?_seqScan (by rw [held, Bool.true_or])]
      rfl
    rw [red a first, red b second]

theorem unmarked_colours_agree_iff (type : Text) :
    (∀ a b : PlanNode, a.type = some type → b.type = some type → Unmarked a → Unmarked b →
      colour (label a) = colour (label b)) ↔ (family? type []).isSome = true := by
  constructor
  · intro agree
    by_contra strange
    rw [Option.not_isSome_iff_eq_none] at strange
    have plain := @unmarked_onTable type "a" (by decide)
    have bare := @unmarked_onTable type "b" (by decide)
    have same := agree _ _ rfl rfl plain bare
    rw [colour_label, colour_label, family?_unmarked plain, family?_unmarked bare] at same
    change (family? type []).getD _ = (family? type []).getD _ at same
    rw [strange] at same
    exact picked_onTable type same
  · intro familiar a b first second plain bare
    obtain ⟨shared, found⟩ := Option.isSome_iff_exists.mp familiar
    rw [colour_label, colour_label, family?_unmarked plain, family?_unmarked bare, first, second,
      Option.getD_some, found]
    rfl

/-- A type says by itself what colour its operations have if sequential scans are named in it; any
other one leaves that to the names. If these hold no word of a family, the types of a family have
one colour each, at any times, and all others have several. -/
theorem colour_of_type_iff (type : Text) :
    ((∀ a b : PlanNode, a.type = some type → b.type = some type →
        colour (label a) = colour (label b)) ↔ Text.occursIn "Seq Scan" type = true) ∧
      ((∀ a b : PlanNode, a.type = some type → b.type = some type → Unmarked a → Unmarked b →
        colour (label a) = colour (label b)) ↔ (family? type []).isSome = true) :=
  ⟨colours_agree_iff type, unmarked_colours_agree_iff type⟩

/-- A table of an unlucky name turns an index scan into a sequential one. -/
theorem colour_not_of_type : ∃ a b : PlanNode,
    a.type = some "Index Scan".toList ∧ b.type = some "Index Scan".toList ∧
      a.relation = some "Seq Scan".toList ∧ b.relation = some "users".toList ∧
      a.time = some 1 ∧ b.time = some 1 ∧
      colour (label a) = "#e74c3c".toList ∧ colour (label b) = "#2ecc71".toList := by
  refine ⟨⟨some "Index Scan".toList, some "Seq Scan".toList, none, none, some 1⟩,
    ⟨some "Index Scan".toList, some "users".toList, none, none, some 1⟩,
    rfl, rfl, rfl, rfl, rfl, rfl, ?_, ?_⟩
  · rw [colour_label]
    decide
  · rw [colour_label]
    decide

end Runbook.Flamegraph
