import Mathlib
import Runbook.Proofs.Resolution
import Runbook.Proofs.Pieces

/-! Which defaults of a document a block gets when its language has several tags. The document's
sections are looked up under the tag itself, aliases replaced. A language's name is one of its tags,
and the others have sections of their own. -/
namespace Runbook

namespace Text

variable {c : Char} {text passed : Text}

theorem not_isUpper_of_lt (high : 90 < c.toNat) : c.isUpper = false := by
  apply Bool.eq_false_iff.mpr
  intro upper
  simp only [Char.isUpper, decide_eq_true_eq, UInt32.le_iff_toNat_le] at upper
  exact absurd upper.2 (by simpa using high)

/-- Small letters outside ASCII lie above the capitals of ASCII. -/
theorem lowerRuns_high : ∀ run ∈ lowerRuns, 90 < (run.1 : Int) + run.2.2.2 := by
  decide +kernel

theorem not_isUpper_lowerChar (c : Char) : (lowerChar c).isUpper = false := by
  unfold lowerChar
  dsimp only
  split
  · exact Char.isUpper_toLower_eq_false c
  · rename_i wide
    split
    · rename_i first last step offset found
      have high := lowerRuns_high _ (List.mem_of_find?_eq_some found)
      have within := List.find?_some found
      simp only [Bool.and_eq_true, decide_eq_true_eq] at high within
      have reached : 90 < (c.toNat + offset).toNat := by omega
      unfold Char.ofNat
      split
      · exact not_isUpper_of_lt (by simpa using reached)
      · decide
    · exact not_isUpper_of_lt (by omega)

theorem not_isUpper_lowerAfter (member : c ∈ lowerAfter passed text) : c.isUpper = false := by
  induction text generalizing passed with
  | nil => simp [lowerAfter] at member
  | cons first rest ih =>
    rcases List.mem_append.mp member with small | member
    · split at small
      · fin_cases small <;> decide
      · split at small
        · split at small <;> (rw [List.mem_singleton.mp small]; decide)
        · rw [List.mem_singleton.mp small]
          exact not_isUpper_lowerChar first
    · exact ih member

theorem map_toLower_lower (text : Text) : (lower text).map Char.toLower = lower text := by
  refine (List.map_congr_left fun c member => ?_).trans (List.map_id _)
  exact Char.toLower_eq_of_not_isUpper (by simp [not_isUpper_lowerAfter member])

end Text

theorem Fence.Header.lower_tag {line : Line} {header : Fence.Header}
    (opens : Fence.Header.parse? line = some header) :
    header.tag.map Char.toLower = header.tag := by
  unfold Fence.Header.parse? at opens
  split at opens
  · contradiction
  · dsimp only at opens
    split at opens
    · contradiction
    · obtain ⟨options, -, rfl⟩ := Option.map_eq_some_iff.mp opens
      exact Text.map_toLower_lower _

namespace Language

variable {language : Language} {tag : Text}

theorem lower_tags (listed : tag ∈ language.tags) : tag.map Char.toLower = tag := by
  cases language <;> fin_cases listed <;> decide

theorem mem_tags_of_lookup (known : lookup tag = some language)
    (lowered : tag.map Char.toLower = tag) : tag ∈ language.tags := by
  have found := List.find?_some known
  obtain ⟨listed, member, agrees⟩ := List.any_eq_true.mp found
  rw [Text.agrees, beq_iff_eq, lower_tags member, lowered] at agrees
  exact agrees ▸ member

/-- The tags that are no language's name. -/
def furtherTags : List Text := ["javascript", "sql", "sqlite3"]

theorem eq_name_of_mem_tags (listed : tag ∈ language.tags) (other : tag ∉ furtherTags) :
    tag = language.name := by
  revert other
  cases language <;> fin_cases listed <;> decide

end Language

namespace OpenBlock

variable {line plain : Line} {header canonical : Fence.Header} {language : Language}
  {defaults : Defaults} {tag : Text}

/-- Without an alias the document is asked for the tag as it stands. -/
theorem ofHeader?_bare (known : Language.lookup tag = some language)
    (bare : defaults.aliases.lookup tag = none) (raw : Text) :
    ofHeader? defaults ⟨tag, raw⟩ =
      some { language, config := .resolve tag (.parse raw) defaults } := by
  simp [ofHeader?, Defaults.resolveTag, bare, known]

theorem flag_eq_iff (header : HeaderOptions) (first second : Text) (option : BlockOption) :
    (BlockConfig.resolve first header defaults).flag option =
        (BlockConfig.resolve second header defaults).flag option ↔
      header option ≠ none ∨ (defaults.value? option first).getD option.builtin =
        (defaults.value? option second).getD option.builtin := by
  rw [BlockConfig.resolve_flag, BlockConfig.resolve_flag]
  cases header option <;> simp

/-- A tag of a language and the language's name open blocks of the language. An option that the
fence line leaves open has one value in both exactly where the document comes to one value for the
two words. It does so for every tag that is the name, and for two words without sections of their
own or with the same. -/
theorem ofHeader?_tags (tagged : Fence.Header.parse? line = some header)
    (named : Fence.Header.parse? plain = some canonical)
    (known : Language.lookup header.tag = some language) (name : canonical.tag = language.name)
    (options : canonical.rawOptions = header.rawOptions)
    (bare : defaults.aliases.lookup header.tag = none)
    (bare' : defaults.aliases.lookup language.name = none) :
    header.tag ∈ language.tags ∧
    ∃ block twin, ofHeader? defaults header = some block ∧
      ofHeader? defaults canonical = some twin ∧
      block.language = language ∧ twin.language = language ∧
      (∀ option, block.config.flag option = twin.config.flag option ↔
        HeaderOptions.parse header.rawOptions option ≠ none ∨
          (defaults.value? option header.tag).getD option.builtin =
            (defaults.value? option language.name).getD option.builtin) ∧
      (header.tag ∉ Language.furtherTags → block = twin) ∧
      (defaults.languages.lookup header.tag = defaults.languages.lookup language.name →
        ∀ option, block.config.flag option = twin.config.flag option) := by
  obtain ⟨tag, raw⟩ := header
  obtain ⟨tag', raw'⟩ := canonical
  dsimp only at known name options bare ⊢
  subst name options
  have listed := Language.mem_tags_of_lookup known (Fence.Header.lower_tag tagged)
  have law := @flag_eq_iff defaults (.parse raw') tag language.name
  refine ⟨listed, _, _, ofHeader?_bare known bare raw',
    ofHeader?_bare (Language.lookup_name language) bare' raw', rfl, rfl, law, fun other => ?_,
    fun same option => (law option).mpr (.inr ?_)⟩
  · rw [Language.eq_name_of_mem_tags listed other]
  · rw [Defaults.value?, Defaults.value?, same]

/-- The section under a language's name keeps its blocks from running, but not those with another
tag. What the document sets for all languages, and what the fence lines set, is the same. -/
theorem ofHeader?_tags_sqlite :
    let front := Frontmatter.split (Text.lines
      "---\nmarkdown-run:\n  defaults:\n    explain: true\n  sqlite:\n    run: false\n---\n".toList)
    let header : Fence.Header := ⟨"sqlite3", "rerun"⟩
    let canonical : Fence.Header := ⟨"sqlite", "rerun"⟩
    Fence.Header.parse? "```SQLite3 rerun\n".toList = some header ∧
      Fence.Header.parse? "```sqlite  rerun\n".toList = some canonical ∧
      ∃ block twin, ofHeader? front.defaults header = some block ∧
        ofHeader? front.defaults canonical = some twin ∧
        block.language = .sqlite ∧ twin.language = .sqlite ∧
        ∀ option, block.config.flag option = twin.config.flag option ↔ option ≠ .run := by
  intro front header canonical
  have tagged : Fence.Header.parse? "```SQLite3 rerun\n".toList = some header := by
    decide +kernel
  have named : Fence.Header.parse? "```sqlite  rerun\n".toList = some canonical := by
    decide +kernel
  have known : Language.lookup header.tag = some .sqlite := by decide +kernel
  have bare : front.defaults.aliases.lookup header.tag = none := by decide +kernel
  have bare' : front.defaults.aliases.lookup Language.sqlite.name = none := by decide +kernel
  obtain ⟨-, block, twin, opened, alike, kind, same, law, -, -⟩ :=
    ofHeader?_tags tagged named known rfl rfl bare bare'
  have differs : ∀ option ∈ BlockOption.all, (HeaderOptions.parse "rerun" option ≠ none ∨
      (front.defaults.value? option "sqlite3").getD option.builtin =
        (front.defaults.value? option "sqlite").getD option.builtin) ↔ option ≠ .run := by
    decide +kernel
  exact ⟨tagged, named, block, twin, opened, alike, kind, same, fun option =>
    (law option).trans (differs option (by cases option <;> decide))⟩

/-- What a document sets under a language's name does not reach the language's other tags. -/
theorem ofHeader?_further_tag :
    let front := Frontmatter.split
      (Text.lines "---\nmarkdown-run:\n  js:\n    run: false\n---\n".toList)
    front.defaults.aliases = [] ∧ Language.lookup "javascript" = some .js ∧
      Fence.Header.parse? "```javascript\n".toList = some ⟨"javascript", []⟩ ∧
      Fence.Header.parse? "```js\n".toList = some ⟨Language.js.name, []⟩ ∧
      (ofHeader? front.defaults ⟨"javascript", []⟩).map (·.config.run) = some true ∧
      (ofHeader? front.defaults ⟨Language.js.name, []⟩).map (·.config.run) = some false := by
  decide +kernel

end OpenBlock

end Runbook
