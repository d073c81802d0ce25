import Mathlib
import Runbook.Proofs.Resolution

/-! Where the key of an option stands in a fence line that sets it. Reading a line looks for a key
from every character on that no token has taken, so what stands around a key need not separate it.
It only cannot belong to the key. In a line of tokens with blanks and commas between them, the keys
do stand by themselves. -/
namespace Runbook

namespace OptionToken

variable {tokens : List OptionToken} {token : OptionToken} {c : Char}
  {raw rest key left right text more value : Text}

/-- A word as the keys of options are formed. -/
def IsKey (key : Text) : Prop :=
  ∃ first more, key = first :: more ∧ startsKey first = true ∧ ∀ c ∈ more, continuesKey c = true

theorem IsKey.takeWhile (starts : startsKey c = true) (rest : Text) :
    IsKey (c :: rest.takeWhile continuesKey) :=
  ⟨c, _, rfl, starts, fun _ member => List.all_eq_true.mp List.all_takeWhile _ member⟩

/-- A value begins behind an equals sign, at the first character that is not blank. -/
theorem assigned?_eq_some_iff : assigned? text = some more ↔
    ∃ blanks gap, text = blanks ++ '=' :: (gap ++ more) ∧ Text.isBlankText blanks = true ∧
      Text.isBlankText gap = true ∧ ∀ c ∈ more.head?, Text.isBlank c = false := by
  constructor
  · intro found
    unfold assigned? at found
    split at found
    · rename_i rest shape
      obtain rfl := Option.some.inj found
      refine ⟨text.takeWhile Text.isBlank, rest.takeWhile Text.isBlank, ?_, List.all_takeWhile,
        List.all_takeWhile, fun c lead => ?_⟩
      · have whole := List.takeWhile_append_dropWhile (p := Text.isBlank) (l := text)
        rw [Text.trimStart] at shape
        rw [Text.trimStart, List.takeWhile_append_dropWhile, ← shape, whole]
      · have stops := List.head?_dropWhile_not Text.isBlank rest
        rw [Text.trimStart] at lead
        simpa [Option.mem_def.mp lead] using stops
    · contradiction
  · rintro ⟨blanks, gap, rfl, white, blank, lead⟩
    have sign : Text.isBlank '=' = false := by decide
    have stops : more.dropWhile Text.isBlank = more := by
      cases more with
      | nil => rfl
      | cons c more => simp [lead c rfl]
    rw [Text.isBlankText, List.all_eq_true] at white blank
    simp [assigned?, Text.trimStart, List.dropWhile_append_of_pos white,
      List.dropWhile_append_of_pos blank, sign, stops]

theorem head?_dropWhile_not (p : Char → Bool) (text : Text) :
    ∀ c ∈ (text.dropWhile p).head?, p c = false := by
  intro c lead
  have stops := List.head?_dropWhile_not p text
  simpa [Option.mem_def.mp lead] using stops

theorem getLast?_append_forall {front : Text} {p : Char → Prop}
    (edge : left = [] → ∀ c ∈ front.getLast?, p c) (last : ∀ c ∈ left.getLast?, p c) :
    ∀ c ∈ (front ++ left).getLast?, p c := by
  by_cases nothing : left = []
  · simpa [nothing] using edge nothing
  · rwa [List.getLast?_append_of_ne_nil _ nothing]

theorem assigned?_append_left (bare : assigned? (left ++ right) = none) :
    assigned? left = none := by
  cases found : assigned? left with
  | none => rfl
  | some more =>
    obtain ⟨blanks, gap, rfl, white, blank, -⟩ := assigned?_eq_some_iff.mp found
    rw [Text.isBlankText, List.all_eq_true] at white
    have sign : Text.isBlank '=' = false := by decide
    simp [assigned?, Text.trimStart, List.dropWhile_append_of_pos white, sign] at bare

theorem scan_key (formed : IsKey key) (behind : ∀ c ∈ right.head?, continuesKey c = false) :
    scan (key ++ right) = match assigned? right with
      | some more => ⟨key, some (more.takeWhile inValue)⟩ :: scan (more.dropWhile inValue)
      | none => ⟨key, none⟩ :: scan right := by
  obtain ⟨first, more, rfl, starts, continues⟩ := formed
  have stops : right.takeWhile continuesKey = [] ∧ right.dropWhile continuesKey = right := by
    cases right with
    | nil => exact ⟨rfl, rfl⟩
    | cons c right => simp [behind c rfl]
  have past : (more ++ right).dropWhile continuesKey = right := by
    rw [List.dropWhile_append_of_pos continues, stops.2]
  have taken : (more ++ right).takeWhile continuesKey = more := by
    rw [List.takeWhile_append_of_pos continues, stops.1, List.append_nil]
  cases sign : assigned? right with
  | none =>
    have found := scan_bare starts (past.symm ▸ sign)
    rwa [past, taken] at found
  | some value =>
    have found := scan_assigned starts (past.symm ▸ sign)
    rwa [taken] at found

theorem scan_value {blanks gap : Text} (formed : IsKey key)
    (white : Text.isBlankText blanks = true) (blank : Text.isBlankText gap = true)
    (inside : ∀ c ∈ value, inValue c = true)
    (lead : ∀ c ∈ (value ++ rest).head?, Text.isBlank c = false)
    (stops : ∀ c ∈ rest.head?, inValue c = false) :
    scan (key ++ (blanks ++ '=' :: (gap ++ value)) ++ rest) = ⟨key, some value⟩ :: scan rest := by
  have behind :
      ∀ c ∈ (blanks ++ '=' :: (gap ++ (value ++ rest))).head?, continuesKey c = false := by
    intro c first
    cases blanks with
    | nil =>
      obtain rfl : '=' = c := Option.some.inj first
      decide
    | cons d blanks =>
      obtain rfl : d = c := Option.some.inj first
      exact not_continuesKey (by simp [inValue, List.all_eq_true.mp white d List.mem_cons_self])
  have sign : assigned? (blanks ++ '=' :: (gap ++ (value ++ rest))) = some (value ++ rest) :=
    assigned?_eq_some_iff.mpr ⟨blanks, gap, rfl, white, blank, lead⟩
  have ends : rest.takeWhile inValue = [] ∧ rest.dropWhile inValue = rest := by
    cases rest with
    | nil => exact ⟨rfl, rfl⟩
    | cons c rest => simp [stops c rfl]
  have found := scan_key formed behind
  rw [sign] at found
  dsimp only at found
  rw [List.takeWhile_append_of_pos inside, List.dropWhile_append_of_pos inside, ends.1, ends.2,
    List.append_nil] at found
  simpa using found

/-- A place where the scan of a text begins a token. The text before it is read by itself. -/
structure Begins (token : OptionToken) (raw left right : Text) : Prop where
  text : raw = left ++ (token.key ++ right)
  apart : scan raw = scan left ++ scan (token.key ++ right)
  first : ∃ more, scan (token.key ++ right) = token :: more
  formed : IsKey token.key
  before : ∀ c ∈ left.getLast?, startsKey c = false
  behind : ∀ c ∈ right.head?, continuesKey c = false

theorem Begins.here (formed : IsKey token.key) (behind : ∀ c ∈ right.head?, continuesKey c = false)
    (first : ∃ more, scan (token.key ++ right) = token :: more) :
    Begins token (token.key ++ right) [] right where
  text := rfl
  apart := by rw [scan, List.nil_append]
  first := first
  formed := formed
  before := by simp
  behind := behind

/-- A token further on stands behind what the scan passes before, if the scan stops there in any
case. -/
theorem Begins.onward {front : Text} (begins : Begins token rest left right)
    (passed : List OptionToken) (whole : scan (front ++ rest) = passed ++ scan rest)
    (cut : scan (front ++ left) = passed ++ scan left)
    (edge : left = [] → ∀ c ∈ front.getLast?, startsKey c = false) :
    Begins token (front ++ rest) (front ++ left) right where
  text := by rw [begins.text, List.append_assoc]
  apart := by rw [whole, cut, begins.apart, List.append_assoc]
  first := begins.first
  formed := begins.formed
  before := getLast?_append_forall edge begins.before
  behind := begins.behind

/-- A text in which a token begins further on has a first character of its own, if the token's key
cannot be at its beginning. -/
theorem Begins.left_ne_nil (begins : Begins token rest left right)
    (stops : ∀ c ∈ rest.head?, continuesKey c = false) : left ≠ [] := by
  rintro rfl
  obtain ⟨first, more, key, starts, -⟩ := begins.formed
  have lead := stops first (by rw [begins.text, key]; rfl)
  rw [continuesKey_of_startsKey starts] at lead
  contradiction

theorem Begins.head? (begins : Begins token rest left right) (nonempty : left ≠ []) :
    left.head? = rest.head? := by
  obtain ⟨c, more, rfl⟩ := List.exists_cons_of_ne_nil nonempty
  rw [begins.text]
  rfl

theorem Begins.past_value (formed : IsKey key) (sign : assigned? text = some more)
    (begins : Begins token (more.dropWhile inValue) left right) :
    ∃ front, Begins token (key ++ text) front right := by
  obtain ⟨blanks, gap, rfl, white, blank, lead⟩ := assigned?_eq_some_iff.mp sign
  have closes := head?_dropWhile_not inValue more
  have inside : ∀ c ∈ more.takeWhile inValue, inValue c = true :=
    fun _ member => List.all_eq_true.mp List.all_takeWhile _ member
  have value := List.takeWhile_append_dropWhile (p := inValue) (l := more)
  have nonempty := begins.left_ne_nil fun c first => not_continuesKey (closes c first)
  have heads := begins.head? nonempty
  have start : ∀ c ∈ (more.takeWhile inValue ++ left).head?, Text.isBlank c = false := by
    rwa [List.head?_append, heads, ← List.head?_append, value]
  have parts : key ++ (blanks ++ '=' :: (gap ++ more)) =
      key ++ (blanks ++ '=' :: (gap ++ more.takeWhile inValue)) ++ more.dropWhile inValue := by
    simp only [List.append_assoc, List.cons_append, value]
  rw [parts]
  exact ⟨_, begins.onward [_]
    (scan_value formed white blank inside (by rwa [value]) closes)
    (scan_value formed white blank inside start (heads ▸ closes))
    fun nothing => absurd nothing nonempty⟩

theorem Begins.past_key (formed : IsKey key)
    (stops : ∀ c ∈ text.head?, continuesKey c = false) (bare : assigned? text = none)
    (begins : Begins token text left right) : Begins token (key ++ text) (key ++ left) right := by
  have nonempty := begins.left_ne_nil stops
  have shorter : assigned? left = none := assigned?_append_left (begins.text ▸ bare)
  refine begins.onward [⟨key, none⟩] ?_ ?_ fun nothing => absurd nothing nonempty
  · rw [scan_key formed stops, bare]
    rfl
  · rw [scan_key formed (begins.head? nonempty ▸ stops), shorter]
    rfl

/-- Every token of a text begins somewhere in it. -/
theorem exists_begins (member : token ∈ scan raw) :
    ∃ left right, Begins token raw left right := by
  have cut (c : Char) (rest : Text) :
      c :: rest = (c :: rest.takeWhile continuesKey) ++ rest.dropWhile continuesKey := by
    rw [List.cons_append, List.takeWhile_append_dropWhile]
  fun_induction scan raw with
  | case1 => simp at member
  | case2 c rest starts more sign ih =>
    have formed := IsKey.takeWhile starts rest
    have stops := head?_dropWhile_not continuesKey rest
    rw [cut c rest]
    rcases List.mem_cons.mp member with rfl | member
    · exact ⟨[], _, .here formed stops ⟨_, by rw [scan_key formed stops, sign]⟩⟩
    · obtain ⟨left, right, begins⟩ := ih member
      obtain ⟨front, begins⟩ := begins.past_value formed sign
      exact ⟨front, right, begins⟩
  | case3 c rest starts bare ih =>
    have formed := IsKey.takeWhile starts rest
    have stops := head?_dropWhile_not continuesKey rest
    rw [cut c rest]
    rcases List.mem_cons.mp member with rfl | member
    · exact ⟨[], _, .here formed stops ⟨_, by rw [scan_key formed stops, bare]⟩⟩
    · obtain ⟨left, right, begins⟩ := ih member
      exact ⟨_, right, begins.past_key formed stops bare⟩
  | case4 c rest foreign ih =>
    obtain ⟨left, right, begins⟩ := ih member
    have skips (text : Text) : scan ([c] ++ text) = [] ++ scan text := by
      rw [List.singleton_append, scan, if_neg foreign, List.nil_append]
    refine ⟨[c] ++ left, right, begins.onward [] (skips rest) (skips left) fun _ d last => ?_⟩
    obtain rfl := by simpa using last
    simpa using foreign

theorem Spells.apart (spelled : Spells tokens raw) (member : token ∈ tokens) :
    ∃ left right, raw = left ++ (token.key ++ right) ∧ (∀ c ∈ left.getLast?, inValue c = false) ∧
      ∀ c ∈ right.head?, c = '=' ∨ inValue c = false := by
  have behind (token : OptionToken) {rest : Text} (stops : ∀ c ∈ rest.head?, inValue c = false) :
      ∃ right, token.text ++ rest = token.key ++ right ∧
        ∀ c ∈ right.head?, c = '=' ∨ inValue c = false := by
    obtain ⟨key, value⟩ := token
    cases value with
    | none => exact ⟨rest, by simp [text], fun c first => .inr (stops c first)⟩
    | some value => exact ⟨'=' :: (value ++ rest), by simp [text], by simp⟩
  induction spelled with
  | nil => simp at member
  | @separator c tokens rest parts _ ih =>
    obtain ⟨left, right, rfl, before, after⟩ := ih member
    exact ⟨[c] ++ left, right, rfl,
      getLast?_append_forall (fun _ => by simpa using parts) before, after⟩
  | @last only =>
    obtain rfl := List.mem_singleton.mp member
    obtain ⟨right, shape, after⟩ := @behind token [] (by simp)
    exact ⟨[], right, by simpa using shape, by simp, after⟩
  | @cons first tokens rest c plain parts _ ih =>
    rcases List.mem_cons.mp member with rfl | member
    · obtain ⟨right, shape, after⟩ := @behind token (c :: rest) (by simpa using parts)
      exact ⟨[], right, shape, by simp, after⟩
    · obtain ⟨left, right, rfl, before, after⟩ := ih member
      exact ⟨first.text ++ [c] ++ left, right, by simp,
        getLast?_append_forall (fun _ => by simpa using parts) before, after⟩

end OptionToken

open OptionToken (scan assigned? startsKey continuesKey inValue IsKey)

variable {option : BlockOption} {tokens : List OptionToken} {raw key left right : Text}

theorem BlockOption.isKey_of_agrees (agrees : Text.agrees option.key key = true) : IsKey key := by
  have letters : ∀ c ∈ key, c.isAlpha = true := by
    intro c member
    have small : option.key.map Char.toLower = option.key := by
      cases option <;> decide
    have known : option.key.all Char.isAlpha = true := by
      cases option <;> decide
    rw [← Char.isAlpha_toLower_eq_isAlpha]
    apply List.all_eq_true.mp known
    rw [← small, beq_iff_eq.mp agrees]
    exact List.mem_map_of_mem member
  cases key with
  | nil => cases option <;> exact absurd agrees (by decide +kernel)
  | cons first more =>
    refine ⟨first, more, rfl, ?_, fun c member => ?_⟩
    · rw [startsKey, letters first List.mem_cons_self, Bool.true_or]
    · simp [continuesKey, Char.isAlphanum, letters c (List.mem_cons_of_mem _ member)]

namespace HeaderOptions

theorem said?_ne_none_iff : said? option tokens ≠ none ↔ ∃ token ∈ tokens,
    token.names option = true ∧ token.value.all (fun value => (flag? value).isSome) = true := by
  have speaks (token : OptionToken) : token.names option = true ∧
      token.value.all (fun value => (flag? value).isSome) = true ↔
        (token.truth? option).isSome = true ∨
          (token.names option && token.value.isNone) = true := by
    by_cases named : token.names option = true
    · cases value : token.value <;> simp [OptionToken.truth?, named, value]
    · simp [OptionToken.truth?, named]
  simp only [said?, speaks, and_or_left, exists_or]
  rw [ne_eq, Option.or_eq_none_iff, not_and_or]
  refine or_congr ?_ ?_
  · rw [← ne_eq, ← Option.isSome_iff_ne_none, List.findSome?_isSome_iff]
  · rw [← List.any_eq_true]
    split <;> simp_all

theorem parse_ne_none_iff : parse raw option ≠ none ↔ ∃ token ∈ scan raw,
    token.names option = true ∧ token.value.all (fun value => (flag? value).isSome) = true := by
  have said : (parse raw option).map Setting.holds = said? option (scan raw) := by
    rw [parse, foldl_record (.inl rfl), said?]
    simp [empty]
  rw [← said?_ne_none_iff, ← said]
  simp

/-- The key of an option at a place where it counts. No token from before reaches over it, it is no
part of a longer key, and if it has a value, this is a truth value. -/
structure Mentions (option : BlockOption) (left key right : Text) : Prop where
  named : Text.agrees option.key key = true
  apart : scan (left ++ (key ++ right)) = scan left ++ scan (key ++ right)
  before : ∀ c ∈ left.getLast?, startsKey c = false
  behind : ∀ c ∈ right.head?, continuesKey c = false
  value : ∀ more ∈ assigned? right, (flag? (more.takeWhile inValue)).isSome = true

/-- The key of the option stands somewhere as a word of its own. Blanks, commas and the ends of the
line set words off, and behind a key an equals sign does too. -/
def StandsAlone (option : BlockOption) (raw : Text) : Prop :=
  ∃ left key right, raw = left ++ (key ++ right) ∧ Text.agrees option.key key = true ∧
    (∀ c ∈ left.getLast?, inValue c = false) ∧ ∀ c ∈ right.head?, c = '=' ∨ inValue c = false

theorem mentions_of_begins {token : OptionToken} (begins : OptionToken.Begins token raw left right)
    (named : token.names option = true)
    (reads : token.value.all (fun value => (flag? value).isSome) = true) :
    Mentions option left token.key right where
  named := named
  apart := begins.text ▸ begins.apart
  before := begins.before
  behind := begins.behind
  value := by
    intro more sign
    obtain ⟨later, found⟩ := begins.first
    rw [OptionToken.scan_key begins.formed begins.behind, Option.mem_def.mp sign] at found
    rw [← (List.cons.inj found).1] at reads
    simpa using reads

theorem Mentions.token (mentions : Mentions option left key right) :
    ∃ token ∈ scan (left ++ (key ++ right)), token.names option = true ∧
      token.value.all (fun value => (flag? value).isSome) = true := by
  have found := OptionToken.scan_key (BlockOption.isKey_of_agrees mentions.named) mentions.behind
  rw [mentions.apart]
  cases sign : assigned? right with
  | none =>
    rw [sign] at found
    exact ⟨⟨key, none⟩, by simp [found], mentions.named, rfl⟩
  | some more =>
    rw [sign] at found
    exact ⟨⟨key, some (more.takeWhile inValue)⟩, by simp [found], mentions.named,
      mentions.value more sign⟩

/-- A line sets an option exactly if it mentions it. In a line of tokens with blanks and commas
between them, the key is then a word of its own. -/
theorem parse_set_iff (raw : Text) (option : BlockOption) :
    (parse raw option ≠ none ↔
      ∃ left key right, raw = left ++ (key ++ right) ∧ Mentions option left key right) ∧
    ((∃ tokens, OptionToken.Spells tokens raw) → parse raw option ≠ none →
      StandsAlone option raw) := by
  rw [parse_ne_none_iff]
  constructor
  · constructor
    · rintro ⟨token, member, named, reads⟩
      obtain ⟨left, right, begins⟩ := OptionToken.exists_begins member
      exact ⟨left, token.key, right, begins.text, mentions_of_begins begins named reads⟩
    · rintro ⟨left, key, right, rfl, mentions⟩
      exact mentions.token
  · rintro ⟨tokens, spelled⟩ ⟨token, member, named, -⟩
    rw [spelled.scan] at member
    obtain ⟨left, right, shape, before, after⟩ := spelled.apart member
    exact ⟨left, token.key, right, shape, named, before, after⟩

/-- Of `rerun, explain=false` every option that it sets is a word. -/
theorem parse_set_words :
    (∃ tokens, OptionToken.Spells tokens "rerun, explain=false") ∧
      parse "rerun, explain=false" .explain ≠ none ∧
      StandsAlone .explain "rerun, explain=false" := by
  have spelled : OptionToken.Spells [⟨"rerun", none⟩, ⟨"explain", some "false"⟩]
      "rerun, explain=false" :=
    @OptionToken.Spells.cons _ _ " explain=false" ',' (by decide) (by decide)
      (.separator (by decide) (.last (by decide)))
  have set : parse "rerun, explain=false" .explain ≠ none := by decide +kernel
  exact ⟨⟨_, spelled⟩, set, (parse_set_iff _ .explain).2 ⟨_, spelled⟩ set⟩

/-- The last part of a path is read as an option, though it is no word of its own. -/
theorem parse_within_path :
    parse "docs/rerun" .rerun = some .present ∧ ¬ StandsAlone .rerun "docs/rerun" := by
  refine ⟨by decide +kernel, ?_⟩
  rintro ⟨left, key, right, shape, agrees, before, -⟩
  have size : key.length = 5 := by
    have same := congrArg List.length (beq_iff_eq.mp agrees)
    rw [List.length_map, List.length_map] at same
    exact same.symm
  have place : left.length < 6 := by
    have whole := congrArg List.length shape
    simp only [List.length_append, size] at whole
    have : ("docs/rerun" : Text).length = 10 := by decide
    omega
  have taken : key = (("docs/rerun" : Text).drop left.length).take 5 := by
    rw [shape, List.drop_left, ← size, List.take_left]
  have only : ∀ n < 6, Text.agrees BlockOption.rerun.key
      ((("docs/rerun" : Text).drop n).take 5) = true → n = 5 := by
    decide
  have five := only left.length place (taken ▸ agrees)
  have front : left = "docs/" := by
    have start := congrArg (List.take left.length) shape
    rw [List.take_left, five] at start
    exact start.symm
  subst front
  exact absurd (before '/' (by decide)) (by decide)

end HeaderOptions
end Runbook
