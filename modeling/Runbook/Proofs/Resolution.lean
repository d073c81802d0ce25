import Runbook.Config

/-! What the words of a fence line come to. The line is a list of tokens with blanks and commas
between them; reading it finds these tokens again. Merging them keeps for each option the first
truth value, or else a bare mention, and what the line leaves open is left to the document and
then to the built-in values. -/
namespace Runbook

namespace OptionToken

/-- The key is formed as the keys of options are, and the value, where there is one, has a
character and none that separates. -/
structure IsPlain (token : OptionToken) : Prop where
  starts : token.key.head?.any startsKey = true
  continues : token.key.tail.all continuesKey = true
  value : token.value.all (fun value => !value.isEmpty && value.all inValue) = true

instance (token : OptionToken) : Decidable token.IsPlain :=
  decidable_of_iff (token.key.head?.any startsKey = true ∧ token.key.tail.all continuesKey = true ∧
      token.value.all (fun value => !value.isEmpty && value.all inValue) = true)
    ⟨fun ⟨starts, continues, value⟩ => ⟨starts, continues, value⟩,
      fun ⟨starts, continues, value⟩ => ⟨starts, continues, value⟩⟩

/-- A token as it stands on a fence line. -/
def text (token : OptionToken) : Text :=
  token.key ++ match token.value with
    | some value => '=' :: value
    | none => []

/-- The text is the tokens in order. At least one blank or comma stands between two of them; any
number may stand before the first and behind the last. -/
inductive Spells : List OptionToken → Text → Prop
  | nil : Spells [] []
  | separator {c tokens rest} (parts : inValue c = false) (spelled : Spells tokens rest) :
      Spells tokens (c :: rest)
  | last {token} (plain : IsPlain token) : Spells [token] token.text
  | cons {token tokens rest c} (plain : IsPlain token) (parts : inValue c = false)
      (spelled : Spells tokens rest) : Spells (token :: tokens) (token.text ++ c :: rest)

variable {tokens : List OptionToken} {token : OptionToken} {c : Char} {rest raw : Text}

theorem continuesKey_of_startsKey (starts : startsKey c = true) : continuesKey c = true := by
  simp only [startsKey, continuesKey, Char.isAlphanum, Bool.or_eq_true] at *
  rcases starts with letter | line
  · exact .inl (.inl (.inl letter))
  · exact .inl (.inr line)

theorem inValue_of_continuesKey (continues : continuesKey c = true) : inValue c = true := by
  rw [continuesKey] at continues
  delta Char.isAlphanum Char.isAlpha Char.isUpper Char.isLower Char.isDigit at continues
  simp only [Bool.or_eq_true, Bool.and_eq_true, decide_eq_true_eq, beq_iff_eq,
    UInt32.le_iff_toNat_le, ge_iff_le] at continues
  change ((((65 ≤ c.toNat ∧ c.toNat ≤ 90) ∨ (97 ≤ c.toNat ∧ c.toNat ≤ 122)) ∨
    (48 ≤ c.toNat ∧ c.toNat ≤ 57)) ∨ c = '_') ∨ c = '-' at continues
  rcases continues with (range | rfl) | rfl
  · have comma : c ≠ ',' := by
      rintro rfl
      exact absurd range (by decide)
    simp only [inValue, Text.isBlank, Bool.and_eq_true, bne_iff_ne, Bool.not_eq_true',
      Bool.or_eq_false_iff, Bool.and_eq_false_iff, beq_eq_false_iff_ne, decide_eq_false_iff_not]
    refine ⟨comma, ?_⟩
    omega
  · decide
  · decide

theorem isBlank_of_inValue (inside : inValue c = true) : Text.isBlank c = false := by
  simp only [inValue, Bool.and_eq_true, Bool.not_eq_true'] at inside
  exact inside.2

theorem not_continuesKey (parts : inValue c = false) : continuesKey c = false :=
  Bool.eq_false_iff.mpr fun continues => by simp [inValue_of_continuesKey continues] at parts

theorem not_startsKey (parts : inValue c = false) : startsKey c = false :=
  Bool.eq_false_iff.mpr fun starts => by
    simp [inValue_of_continuesKey (continuesKey_of_startsKey starts)] at parts

theorem IsPlain.key_eq (plain : token.IsPlain) :
    ∃ first more, token.key = first :: more ∧ startsKey first = true ∧
      ∀ c ∈ more, continuesKey c = true := by
  obtain ⟨starts, continues, -⟩ := plain
  cases shape : token.key with
  | nil => simp [shape] at starts
  | cons first more =>
    exact ⟨first, more, rfl, by simpa [shape] using starts, by simpa [shape] using continues⟩

theorem assigned?_startsKey (starts : startsKey c = true) : assigned? (c :: rest) = none := by
  have black := isBlank_of_inValue (inValue_of_continuesKey (continuesKey_of_startsKey starts))
  have sign : c ≠ '=' := by
    rintro rfl
    exact absurd starts (by decide)
  unfold assigned?
  split
  · rename_i shape
    simp only [Text.trimStart, List.dropWhile_cons, black] at shape
    exact absurd (List.cons.inj shape).1 sign
  · rfl

/-- No value begins where a spelled text does, so a bare key before it stays bare. -/
theorem Spells.assigned? (spelled : Spells tokens rest) : OptionToken.assigned? rest = none := by
  induction spelled with
  | nil => rfl
  | @separator c tokens rest parts spelled ih =>
    by_cases blank : Text.isBlank c = true
    · unfold OptionToken.assigned? at ih ⊢
      simpa only [Text.trimStart, List.dropWhile_cons, blank, if_true] using ih
    · obtain rfl : c = ',' := by simpa [inValue, blank] using parts
      rfl
  | last plain =>
    obtain ⟨first, more, key, starts, -⟩ := plain.key_eq
    rw [text, key]
    exact assigned?_startsKey starts
  | cons plain parts spelled ih =>
    obtain ⟨first, more, key, starts, -⟩ := plain.key_eq
    rw [text, key]
    exact assigned?_startsKey starts

theorem scan_separator (parts : inValue c = false) : scan (c :: rest) = scan rest := by
  rw [scan, if_neg (by simp [not_startsKey parts])]

theorem scan_bare (starts : startsKey c = true)
    (bare : assigned? (rest.dropWhile continuesKey) = none) :
    scan (c :: rest) =
      ⟨c :: rest.takeWhile continuesKey, none⟩ :: scan (rest.dropWhile continuesKey) := by
  rw [scan, if_pos starts]
  split
  · simp_all
  · rfl

theorem scan_assigned {more : Text} (starts : startsKey c = true)
    (sign : assigned? (rest.dropWhile continuesKey) = some more) :
    scan (c :: rest) = ⟨c :: rest.takeWhile continuesKey, some (more.takeWhile inValue)⟩ ::
      scan (more.dropWhile inValue) := by
  rw [scan, if_pos starts]
  split
  · simp_all
  · simp_all

/-- A token is found where it stands, if nothing behind it belongs to it. -/
theorem scan_text (plain : token.IsPlain) (parts : ∀ c ∈ rest.head?, inValue c = false)
    (bare : assigned? rest = none) : scan (token.text ++ rest) = token :: scan rest := by
  have closes : (rest.dropWhile inValue = rest ∧ rest.takeWhile inValue = []) ∧
      rest.dropWhile continuesKey = rest ∧ rest.takeWhile continuesKey = [] := by
    cases rest with
    | nil => exact ⟨⟨rfl, rfl⟩, rfl, rfl⟩
    | cons c rest =>
      have parts := parts c rfl
      simp [parts, not_continuesKey parts]
  obtain ⟨⟨pastValue, untilValue⟩, pastKey, untilKey⟩ := closes
  obtain ⟨key, value⟩ := token
  obtain ⟨first, more, rfl, starts, continues⟩ := plain.key_eq
  cases value with
  | none =>
    have past : (more ++ rest).dropWhile continuesKey = rest := by
      rw [List.dropWhile_append_of_pos continues, pastKey]
    have key : (more ++ rest).takeWhile continuesKey = more := by
      rw [List.takeWhile_append_of_pos continues, untilKey, List.append_nil]
    have bare : assigned? ((more ++ rest).dropWhile continuesKey) = none := by rwa [past]
    have found := scan_bare starts bare
    rw [past, key] at found
    simpa [text] using found
  | some value =>
    have inside : value ≠ [] ∧ ∀ c ∈ value, inValue c = true := by simpa using plain.value
    obtain ⟨head, tail, rfl⟩ := List.exists_cons_of_ne_nil inside.1
    have past : (more ++ ('=' :: (head :: tail ++ rest))).dropWhile continuesKey =
        '=' :: (head :: tail ++ rest) := by
      rw [List.dropWhile_append_of_pos continues]
      rfl
    have key : (more ++ ('=' :: (head :: tail ++ rest))).takeWhile continuesKey = more := by
      rw [List.takeWhile_append_of_pos continues]
      exact List.append_nil more
    have sign : assigned? ('=' :: (head :: tail ++ rest)) = some (head :: tail ++ rest) := by
      have black := isBlank_of_inValue (inside.2 head (by simp))
      have equals : Text.isBlank '=' = false := by decide
      simp [assigned?, Text.trimStart, equals, black]
    have found := scan_assigned starts (past ▸ sign)
    rw [key, List.dropWhile_append_of_pos inside.2, List.takeWhile_append_of_pos inside.2,
      pastValue, untilValue, List.append_nil] at found
    simpa [text] using found

theorem Spells.scan (spelled : Spells tokens raw) : OptionToken.scan raw = tokens := by
  induction spelled with
  | nil => rw [OptionToken.scan]
  | separator parts spelled ih => rw [scan_separator parts, ih]
  | @last token plain =>
    have found : OptionToken.scan (token.text ++ []) = token :: OptionToken.scan [] :=
      scan_text plain (by simp) rfl
    rwa [List.append_nil, OptionToken.scan] at found
  | @cons token c tokens rest plain parts spelled ih =>
    have bare := (Spells.separator parts spelled).assigned?
    rw [scan_text plain (by simpa using parts) bare, scan_separator parts, ih]

/-- The token speaks of the option, in whatever case its key is written. -/
def names (option : BlockOption) (token : OptionToken) : Bool := Text.agrees option.key token.key

/-- The truth value that the token gives to the option. -/
def truth? (option : BlockOption) (token : OptionToken) : Option Bool :=
  if token.names option then token.value.bind HeaderOptions.flag? else none

/-- The token speaks of some option and has no value that is not a truth value. -/
def counts (token : OptionToken) : Bool :=
  (BlockOption.ofKey? token.key).isSome &&
    token.value.all fun value => (HeaderOptions.flag? value).isSome

end OptionToken

variable {tokens others : List OptionToken} {token : OptionToken} {option other : BlockOption}
  {options : HeaderOptions} {raw text : Text}

theorem BlockOption.agrees_unique {key : Text} (first : Text.agrees option.key key = true)
    (second : Text.agrees other.key key = true) : option = other := by
  have same : Text.agrees option.key other.key = true := by
    simp only [Text.agrees, beq_iff_eq] at *
    rw [first, second]
  revert same
  cases option <;> cases other <;> decide

theorem BlockOption.agrees_of_ofKey? {key : Text} (found : ofKey? key = some option) :
    Text.agrees option.key key = true := by
  unfold ofKey? at found
  simpa using List.find?_some found

theorem BlockOption.ofKey?_eq_some_iff {key : Text} :
    ofKey? key = some option ↔ Text.agrees option.key key = true := by
  constructor
  · exact agrees_of_ofKey?
  · intro agrees
    have listed : option ∈ all := by cases option <;> decide
    cases found : ofKey? key with
    | none => exact absurd agrees (List.find?_eq_none.mp found option listed)
    | some first => rw [agrees_unique (agrees_of_ofKey? found) agrees]

def Setting.holds : Setting → Bool
  | .explicit value => value
  | .present => true

namespace HeaderOptions

/-- What the tokens say of an option: the first truth value that one of them gives to it, or
else that it holds if one of them names it without a value. -/
def said? (option : BlockOption) (tokens : List OptionToken) : Option Bool :=
  (tokens.findSome? (OptionToken.truth? option)).or
    (if tokens.any fun token => token.names option && token.value.isNone then some true else none)

theorem record_apply : record options token option =
    if token.names option then improve (options option) token.value else options option := by
  by_cases named : token.names option = true
  · have found := BlockOption.ofKey?_eq_some_iff.mpr named
    simp [record, found, named]
  · rw [if_neg named]
    cases found : BlockOption.ofKey? token.key with
    | none => simp [record, found]
    | some first =>
      have apart : option ≠ first := by
        rintro rfl
        exact named (BlockOption.ofKey?_eq_some_iff.mp found)
      simp [record, found, apart]

theorem foldl_record_explicit {value : Bool} (known : options option = some (.explicit value)) :
    tokens.foldl record options option = some (.explicit value) := by
  induction tokens generalizing options with
  | nil => exact known
  | cons token tokens ih =>
    refine ih ?_
    rw [record_apply, known]
    cases token.value with
    | none => simp [improve]
    | some text => cases flag : flag? text <;> simp [improve, flag]

/-- Where no truth value is recorded yet, the first of the tokens' counts, and a bare mention
counts if there is none. -/
theorem foldl_record (unset : options option = none ∨ options option = some .present) :
    (tokens.foldl record options option).map Setting.holds =
      (tokens.findSome? (OptionToken.truth? option)).or (((options option).map Setting.holds).or
        (if tokens.any fun token => token.names option && token.value.isNone
          then some true else none)) := by
  -- A token keeps `unset` as long as it gives no truth value, and nothing counts after one that does.
  induction tokens generalizing options with
  | nil => simp
  | cons token tokens ih =>
    rw [List.foldl_cons, List.findSome?_cons, List.any_cons]
    by_cases named : token.names option = true
    · have step : record options token option = improve (options option) token.value := by
        rw [record_apply, if_pos named]
      cases value : token.value with
      | none =>
        have bare : record options token option = some .present := by
          rcases unset with unset | unset <;> rw [step, value, unset] <;> rfl
        have quiet : token.truth? option = none := by simp [OptionToken.truth?, value]
        rw [ih (.inr bare), bare, quiet]
        rcases unset with unset | unset <;> simp [unset, named, Setting.holds]
      | some text =>
        cases read : flag? text with
        | none =>
          have same : record options token option = options option := by
            rw [step, value]
            simp [improve, read]
          have quiet : token.truth? option = none := by simp [OptionToken.truth?, value, read]
          rw [ih (by rwa [same]), same, quiet]
          simp
        | some flag =>
          have given : record options token option = some (.explicit flag) := by
            rcases unset with unset | unset <;> rw [step, value, unset] <;> simp [improve, read]
          have speaks : token.truth? option = some flag := by
            simp [OptionToken.truth?, named, value, read]
          rw [foldl_record_explicit given, speaks]
          rfl
    · have same : record options token option = options option := by
        rw [record_apply, if_neg named]
      rw [ih (by rwa [same]), same]
      simp [OptionToken.truth?, named]

/-- What a spelled fence line sets is what its tokens say. -/
theorem parse_spelled (spelled : OptionToken.Spells tokens raw) :
    (parse raw option).map Setting.holds = said? option tokens := by
  rw [parse, spelled.scan, foldl_record (.inl rfl), said?]
  simp [empty]

theorem silent_of_not_counts (idle : token.counts = false) :
    token.truth? option = none ∧ (token.names option && token.value.isNone) = false := by
  by_cases named : token.names option = true
  · have found := BlockOption.ofKey?_eq_some_iff.mpr named
    cases value : token.value with
    | none => simp [OptionToken.counts, found, value] at idle
    | some text =>
      have unread : flag? text = none := by simpa [OptionToken.counts, found, value] using idle
      simp [OptionToken.truth?, value, unread]
  · simp [OptionToken.truth?, named]

theorem said?_filter : said? option (tokens.filter OptionToken.counts) = said? option tokens := by
  have truths : (tokens.filter OptionToken.counts).findSome? (OptionToken.truth? option) =
      tokens.findSome? (OptionToken.truth? option) := by
    rw [← List.head?_filterMap, ← List.head?_filterMap, List.filterMap_filter]
    congr 2
    funext token
    by_cases counts : token.counts = true
    · rw [if_pos counts]
    · rw [if_neg counts, (silent_of_not_counts (by simpa using counts)).1]
  have bare : (fun token : OptionToken =>
      token.counts && (token.names option && token.value.isNone)) =
        fun token => token.names option && token.value.isNone := by
    funext token
    cases counts : token.counts with
    | true => rfl
    | false => rw [(silent_of_not_counts counts).2, Bool.and_false]
  rw [said?, said?, truths, List.any_filter, bare]

end HeaderOptions

namespace BlockConfig

variable {language : Text} {defaults : Defaults}

def flag (config : BlockConfig) : BlockOption → Bool
  | .run => config.run
  | .rerun => config.rerun
  | .explain => config.explain
  | .flamegraph => config.flamegraph
  | .result => config.showResult

theorem resolve_flag (header : HeaderOptions) :
    (resolve language header defaults).flag option =
      (((header option).map Setting.holds).or (defaults.value? option language)).getD
        option.builtin := by
  have single : resolveOption option language header defaults =
      (((header option).map Setting.holds).or (defaults.value? option language)).getD
        option.builtin := by
    unfold resolveOption
    rcases header option with _ | (value | _) <;> rfl
  rw [← single]
  cases option <;> rfl

theorem ext_flag {first second : BlockConfig} (language : first.language = second.language)
    (flags : ∀ option, first.flag option = second.flag option) : first = second := by
  obtain ⟨_, _, _, _, _, _⟩ := first
  obtain ⟨_, _, _, _, _, _⟩ := second
  simp only [flag] at language flags
  have run := flags .run
  have rerun := flags .rerun
  have explain := flags .explain
  have flamegraph := flags .flamegraph
  have result := flags .result
  simp_all

/-- An option of a block is what the tokens of its fence line say: the first truth value given to
it, or else a bare mention. What they leave open is what the document says for the language, or
else for all of them, and the built-in value comes last. A token with an unknown key or with
a value that is not a truth value makes no difference anywhere. -/
theorem resolve_spelled (spelled : OptionToken.Spells tokens raw) (language : Text)
    (defaults : Defaults) :
    (∀ option, (resolve language (HeaderOptions.parse raw) defaults).flag option =
      (((HeaderOptions.said? option tokens).or
        ((defaults.languages.lookup language).bind fun layer => layer option)).or
          (defaults.global option)).getD option.builtin) ∧
    ∀ others text, OptionToken.Spells others text →
      others.filter OptionToken.counts = tokens.filter OptionToken.counts →
        resolve language (HeaderOptions.parse text) defaults =
          resolve language (HeaderOptions.parse raw) defaults := by
  have flags {tokens raw} (spelled : OptionToken.Spells tokens raw) (option : BlockOption) :
      (resolve language (HeaderOptions.parse raw) defaults).flag option =
        ((HeaderOptions.said? option tokens).or (defaults.value? option language)).getD
          option.builtin := by
    rw [resolve_flag, HeaderOptions.parse_spelled spelled]
  refine ⟨fun option => ?_, fun others text other same => ext_flag rfl fun option => ?_⟩
  · rw [flags spelled, Defaults.value?, Option.or_assoc]
  · rw [flags other, flags spelled, ← HeaderOptions.said?_filter, same, HeaderOptions.said?_filter]

/-- A bare mention in capitals, a value that is none, two truth values for one option and an
unknown key, in a document with defaults of its own for the language. -/
theorem resolve_spelled_defaults :
    let tokens : List OptionToken := [⟨"Explain", none⟩, ⟨"RUN", some "no"⟩,
      ⟨"run", some "FALSE"⟩, ⟨"colour", some "red"⟩, ⟨"run", some "true"⟩, ⟨"rerun", none⟩]
    let raw := ",\t Explain RUN=no run=FALSE,, colour=red\trun=true , rerun".toList
    let text := "Explain,run=FALSE run=true rerun ".toList
    let defaults : Defaults := {
      global := (Layer.empty.set .rerun false).set .flamegraph false
      languages := [("psql", (Layer.empty.set .run true).set .flamegraph true)] }
    let config : BlockConfig := {
      language := "psql", run := false, rerun := true, explain := true, flamegraph := true
      showResult := true }
    OptionToken.Spells tokens raw ∧
      resolve "psql" (HeaderOptions.parse raw) defaults = config ∧
      OptionToken.Spells (tokens.filter OptionToken.counts) text ∧
      resolve "psql" (HeaderOptions.parse text) defaults = config := by
  intro tokens raw text defaults config
  have spelled : OptionToken.Spells tokens raw := by
    have shape : raw = ',' :: '\t' :: ' ' :: (OptionToken.text ⟨"Explain", none⟩ ++
        ' ' :: (OptionToken.text ⟨"RUN", some "no"⟩ ++
        ' ' :: (OptionToken.text ⟨"run", some "FALSE"⟩ ++
        ',' :: ',' :: ' ' :: (OptionToken.text ⟨"colour", some "red"⟩ ++
        '\t' :: (OptionToken.text ⟨"run", some "true"⟩ ++
        ' ' :: ',' :: ' ' :: OptionToken.text ⟨"rerun", none⟩))))) := by
      decide +kernel
    rw [shape]
    exact .separator (by decide) <| .separator (by decide) <| .separator (by decide) <|
      .cons (by decide) (by decide) <| .cons (by decide) (by decide) <|
      .cons (by decide) (by decide) <| .separator (by decide) <| .separator (by decide) <|
      .cons (by decide) (by decide) <| .cons (by decide) (by decide) <|
      .separator (by decide) <| .separator (by decide) <| .last (by decide)
  have counting : OptionToken.Spells (tokens.filter OptionToken.counts) text := by
    have shape : text = OptionToken.text ⟨"Explain", none⟩ ++
        ',' :: (OptionToken.text ⟨"run", some "FALSE"⟩ ++
        ' ' :: (OptionToken.text ⟨"run", some "true"⟩ ++
        ' ' :: (OptionToken.text ⟨"rerun", none⟩ ++ [' ']))) := by
      decide +kernel
    have kept : tokens.filter OptionToken.counts =
        [⟨"Explain", none⟩, ⟨"run", some "FALSE"⟩, ⟨"run", some "true"⟩, ⟨"rerun", none⟩] := by
      decide
    rw [shape, kept]
    exact .cons (by decide) (by decide) <| .cons (by decide) (by decide) <|
      .cons (by decide) (by decide) <| .cons (by decide) (by decide) .nil
  obtain ⟨flags, unmoved⟩ := resolve_spelled spelled "psql" defaults
  have first : resolve "psql" (HeaderOptions.parse raw) defaults = config :=
    ext_flag rfl fun option => (flags option).trans (by cases option <;> decide)
  refine ⟨spelled, first, counting, ?_⟩
  rw [unmoved _ _ counting (by decide), first]

end BlockConfig
end Runbook
