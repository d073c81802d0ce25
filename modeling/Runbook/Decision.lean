import Runbook.Annotation
import Runbook.Artifact

/-! Whether a closed block runs, and what becomes of the lines after it. Only the block's
own artifacts and the blank lines around them are read; all else is left unread. -/
namespace Runbook

inductive Reason
  | runDisabled
  | emptyContent
  | alreadyAnnotated
  | reannotate
  | noArtifact
  | artifactPresent
  | rerun
  | autoReplace
  deriving DecidableEq, Repr

def Reason.describe : Reason → Text
  | .runDisabled => "run=false"
  | .emptyContent => "empty block"
  | .alreadyAnnotated => "block already annotated"
  | .reannotate => "rerun of annotated block"
  | .noArtifact => "no existing result"
  | .artifactPresent => "existing result kept"
  | .rerun => "rerun requested"
  | .autoReplace => "link-only result refreshed"

structure Decision where
  execute : Bool
  reason : Reason
  /-- The artifact whose presence was asked for. -/
  artifact : ArtifactKind
  /-- Lines that were read and are dropped. -/
  consumed : List Line
  /-- Lines that were read and are copied, after any new artifact. -/
  passThrough : List Line
  /-- The first blank line after the closing fence. -/
  separator : Option Line
  unread : List Line
  deriving DecidableEq, Repr

/-- What the search for artifacts of an earlier run has gathered so far. -/
structure Search where
  /-- Complete artifacts, and the blank lines before and between them. -/
  kept : List Line := []
  /-- An artifact that the end of the lines cut short. -/
  trailing : List Line := []
  /-- A complete artifact was found. -/
  stale : Bool := false
  unread : List Line
  deriving DecidableEq, Repr

namespace Search

def skipBlank (search : Search) : Search :=
  { search with
    kept := search.kept ++ search.unread.takeWhile Line.isBlank
    unread := search.unread.dropWhile Line.isBlank }

/-- Takes an artifact of this kind if the next line opens one. -/
def take (kind : ArtifactKind) (search : Search) : Search :=
  match search.unread with
  | [] => search
  | line :: _ =>
    if kind.opens line then
      let body := kind.takeBody search.unread
      if body.complete then
        { search with kept := search.kept ++ body.lines, stale := true, unread := body.rest }
      else { search with trailing := body.lines, unread := body.rest }
    else search

/-- Looks for one more kind, unless a cut artifact has ended the search. -/
def takeNext (search : Search) (kind : ArtifactKind) : Search :=
  if search.trailing.isEmpty then search.skipBlank.take kind else search

end Search

namespace Decision

/-- Nothing after the closing fence is read. -/
def untouched (execute : Bool) (reason : Reason) (artifact : ArtifactKind)
    (following : List Line) : Decision :=
  ⟨execute, reason, artifact, [], [], none, following⟩

def verdict (config : BlockConfig) (plan : ArtifactPlan) (primaryPresent : Bool) : Bool × Reason :=
  if !primaryPresent then (true, .noArtifact)
  else if config.rerun then (true, .rerun)
  else if plan.autoReplace then (true, .autoReplace)
  else (false, .artifactPresent)

/-- Searches the lines after the closing fence. The first blank line separates; the blank
lines right after it are surplus and dropped in any case. -/
def inspect (config : BlockConfig) (plan : ArtifactPlan) (following : List Line) : Decision :=
  let blanks := following.takeWhile Line.isBlank
  let separator := blanks.head?
  let surplus := blanks.tail
  let primary := Search.take plan.primary { unread := following.dropWhile Line.isBlank }
  let (execute, reason) := verdict config plan primary.stale
  let all := plan.secondaries.foldl Search.takeNext primary
  let found := if execute && all.stale && all.trailing.isEmpty then all.skipBlank else all
  if execute then
    ⟨true, reason, plan.primary, separator.toList ++ surplus ++ found.kept, found.trailing,
      separator, found.unread⟩
  else
    ⟨false, reason, plan.primary, surplus, separator.toList ++ found.kept ++ found.trailing,
      separator, found.unread⟩

end Decision

/-- Decides on a block with this content from the lines that follow its closing fence. -/
def Decision.forBlock (config : BlockConfig) (plan : ArtifactPlan) (content : Text)
    (following : List Line) : Decision :=
  if !config.run then .untouched false .runDisabled plan.primary following
  else if Text.isBlankText content then .untouched false .emptyContent plan.primary following
  else if plan.inline && Annotation.isAnnotated content then
    .untouched config.rerun (if config.rerun then .reannotate else .alreadyAnnotated)
      plan.primary following
  else .inspect config plan following

namespace Search

theorem skipBlank_unread (search : Search) : search.skipBlank.unread <:+ search.unread :=
  List.dropWhile_suffix _

theorem take_unread (kind : ArtifactKind) (search : Search) :
    (search.take kind).unread <:+ search.unread := by
  have body : (kind.takeBody search.unread).rest <:+ search.unread :=
    ⟨_, kind.takeBody_append search.unread⟩
  unfold take
  split
  · exact List.suffix_refl _
  · rename_i line more shape
    split
    · dsimp only
      split <;> exact body
    · exact List.suffix_refl _

theorem takeNext_unread (search : Search) (kind : ArtifactKind) :
    (search.takeNext kind).unread <:+ search.unread := by
  unfold takeNext
  split
  · exact (take_unread kind _).trans search.skipBlank_unread
  · exact List.suffix_refl _

theorem foldl_takeNext_unread (kinds : List ArtifactKind) (search : Search) :
    (kinds.foldl takeNext search).unread <:+ search.unread := by
  induction kinds generalizing search with
  | nil => exact List.suffix_refl _
  | cons kind more ih => exact (ih _).trans (search.takeNext_unread kind)

end Search

theorem Decision.inspect_unread (config : BlockConfig) (plan : ArtifactPlan)
    (following : List Line) : (inspect config plan following).unread <:+ following := by
  have start := List.dropWhile_suffix (l := following) Line.isBlank
  have primary := Search.take_unread plan.primary { unread := following.dropWhile Line.isBlank }
  have all := Search.foldl_takeNext_unread plan.secondaries
    (Search.take plan.primary { unread := following.dropWhile Line.isBlank })
  have found := (all.trans primary).trans start
  unfold inspect
  dsimp only
  split <;> split
  · exact (Search.skipBlank_unread _).trans found
  · exact found
  · exact (Search.skipBlank_unread _).trans found
  · exact found

/-- What is left unread is an end of what followed the block. -/
theorem Decision.forBlock_unread (config : BlockConfig) (plan : ArtifactPlan) (content : Text)
    (following : List Line) : (forBlock config plan content following).unread <:+ following := by
  unfold forBlock
  split
  · exact List.suffix_refl _
  · split
    · exact List.suffix_refl _
    · split
      · exact List.suffix_refl _
      · exact inspect_unread config plan following

end Runbook
