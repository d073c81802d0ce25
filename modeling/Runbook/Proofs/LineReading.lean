import Runbook.Cursor
import Runbook.Proofs.ArtifactShape

/-! Artifacts that are read from a cursor, one line at a time. Nothing beyond the next line is seen
and nothing is given back, and still these are the lines that are taken when all that follow are
known. The cursor has counted them. -/
namespace Runbook

namespace Cursor

/-- Lines that are read for as long as the next one is accepted. -/
inductive Passes (accepts : Line → Bool) : Cursor → List Line → Cursor → Prop
  | stop {cursor : Cursor} : cursor.nextIf accepts = (none, cursor) →
      Passes accepts cursor [] cursor
  | onward {cursor after last : Cursor} {line : Line} {lines : List Line} :
      cursor.nextIf accepts = (some line, after) → Passes accepts after lines last →
      Passes accepts cursor (line :: lines) last

/-- Lines that are read up to a closing fence, and whether there is one. -/
inductive Closes : Cursor → List Line → Bool → Cursor → Prop
  | ended {cursor : Cursor} : cursor.next = (none, cursor) → Closes cursor [] false cursor
  | close {cursor last : Cursor} {line : Line} : cursor.next = (some line, last) →
      Fence.isClose line = true → Closes cursor [line] true last
  | onward {cursor after last : Cursor} {line : Line} {lines : List Line} {complete : Bool} :
      cursor.next = (some line, after) → Fence.isClose line = false →
      Closes after lines complete last → Closes cursor (line :: lines) complete last

variable {accepts : Line → Bool} {cursor last : Cursor} {lines : List Line} {complete : Bool}

theorem passes_takeWhile (accepts : Line → Bool) (ahead : List Line) (passed : Nat) :
    Passes accepts ⟨ahead, passed⟩ (ahead.takeWhile accepts)
      ⟨ahead.dropWhile accepts, passed + (ahead.takeWhile accepts).length⟩ := by
  induction ahead generalizing passed with
  | nil => exact .stop rfl
  | cons line more ih =>
    by_cases accepted : accepts line = true
    · have onward := ih (passed + 1)
      rw [Nat.add_assoc, Nat.add_comm 1] at onward
      rw [List.takeWhile_cons_of_pos accepted, List.dropWhile_cons_of_pos accepted]
      exact .onward (nextIf_eq_some_iff.mpr ⟨accepted, rfl⟩) onward
    · rw [List.takeWhile_cons_of_neg accepted, List.dropWhile_cons_of_neg accepted]
      exact .stop (nextIf_eq_none_iff.mpr ⟨by simpa using accepted, rfl⟩)

theorem Passes.exact (passes : Passes accepts cursor lines last) :
    cursor.ahead.takeWhile accepts = lines ∧ cursor.ahead.dropWhile accepts = last.ahead ∧
      last.passed = cursor.passed + lines.length := by
  induction passes with
  | @stop cursor stops =>
    obtain ⟨refused, -⟩ := nextIf_eq_none_iff.mp stops
    cases shape : cursor.ahead with
    | nil => simp
    | cons line more => simp [refused line (by simp [shape])]
  | @onward cursor after last line lines reads passes ih =>
    obtain ⟨accepted, next⟩ := nextIf_eq_some_iff.mp reads
    obtain ⟨shape, counted⟩ := next_eq_some_iff.mp next
    obtain ⟨taken, dropped, passed⟩ := ih
    rw [shape, List.takeWhile_cons_of_pos accepted, List.dropWhile_cons_of_pos accepted]
    exact ⟨by rw [taken], dropped, by rw [passed, counted, List.length_cons]; omega⟩

theorem closes_fenced (first : Line) (ahead : List Line) (passed : Nat) :
    ∃ lines, (ArtifactBody.fenced first ahead).lines = first :: lines ∧
      Closes ⟨ahead, passed⟩ lines (ArtifactBody.fenced first ahead).complete
        ⟨(ArtifactBody.fenced first ahead).rest, passed + lines.length⟩ := by
  induction ahead generalizing first passed with
  | nil => exact ⟨[], rfl, .ended rfl⟩
  | cons line more ih =>
    by_cases closes : Fence.isClose line = true
    · rw [ArtifactKind.fenced_cons_of_close closes]
      exact ⟨[line], rfl, .close rfl closes⟩
    · have stillOpen := Bool.eq_false_iff.mpr closes
      obtain ⟨lines, shape, onward⟩ := ih line (passed + 1)
      rw [Nat.add_assoc, Nat.add_comm 1] at onward
      rw [ArtifactKind.fenced_cons_of_open stillOpen]
      exact ⟨line :: lines, by rw [shape], .onward rfl stillOpen onward⟩

theorem Closes.exact (closes : Closes cursor lines complete last) (first : Line) :
    ArtifactBody.fenced first cursor.ahead = ⟨first :: lines, complete, last.ahead⟩ ∧
      last.passed = cursor.passed + lines.length := by
  induction closes generalizing first with
  | ended ends =>
    obtain ⟨nothing, -⟩ := next_eq_none_iff.mp ends
    rw [nothing]
    exact ⟨rfl, rfl⟩
  | close reads closes =>
    obtain ⟨shape, counted⟩ := next_eq_some_iff.mp reads
    rw [shape, ArtifactKind.fenced_cons_of_close closes]
    exact ⟨rfl, counted⟩
  | @onward cursor after last line lines complete reads stillOpen closes ih =>
    obtain ⟨shape, counted⟩ := next_eq_some_iff.mp reads
    obtain ⟨body, passed⟩ := ih line
    rw [shape, ArtifactKind.fenced_cons_of_open stillOpen, body]
    exact ⟨rfl, by rw [passed, counted, List.length_cons]; omega⟩

end Cursor

namespace ArtifactKind

open Cursor

/-- An artifact that is read from a cursor: its first line, and then what its kind goes on to. -/
inductive Reads : ArtifactKind → Cursor → ArtifactBody → Cursor → Prop
  | nothing {kind : ArtifactKind} {cursor : Cursor} : cursor.next = (none, cursor) →
      Reads kind cursor ⟨[], false, []⟩ cursor
  | fenced {kind : ArtifactKind} {cursor after last : Cursor} {first : Line} {lines : List Line}
      {complete : Bool} : kind.isFenced = true → cursor.next = (some first, after) →
      Closes after lines complete last →
      Reads kind cursor ⟨first :: lines, complete, last.ahead⟩ last
  | image {cursor last : Cursor} {line : Line} : cursor.next = (some line, last) →
      Reads image cursor ⟨[line], true, last.ahead⟩ last
  | linked {kind : ArtifactKind} {cursor after last : Cursor} {first : Line} {lines : List Line} :
      kind.isLinked = true → cursor.next = (some first, after) →
      Passes kind.continues after lines last →
      Reads kind cursor ⟨first :: lines, true, last.ahead⟩ last

variable {kind : ArtifactKind} {cursor last : Cursor} {body : ArtifactBody}

theorem reads_takeBody (kind : ArtifactKind) (ahead : List Line) (passed : Nat) :
    kind.Reads ⟨ahead, passed⟩ (kind.takeBody ahead)
      ⟨(kind.takeBody ahead).rest, passed + (kind.takeBody ahead).lines.length⟩ := by
  cases ahead with
  | nil => exact .nothing rfl
  | cons first more =>
    rcases kind.isFenced_or_image_or_isLinked with fenced | rfl | linked
    · rw [takeBody_of_fenced fenced]
      obtain ⟨lines, shape, closes⟩ := closes_fenced first more (passed + 1)
      have reads : (⟨first :: more, passed⟩ : Cursor).next = (some first, ⟨more, passed + 1⟩) := rfl
      have whole := Reads.fenced fenced reads closes
      rw [← shape, Nat.add_assoc, Nat.add_comm 1, ← List.length_cons, ← shape] at whole
      exact whole
    · have reads : (⟨first :: more, passed⟩ : Cursor).next = (some first, ⟨more, passed + 1⟩) := rfl
      exact .image reads
    · rw [takeBody_of_linked linked]
      have passes := passes_takeWhile kind.continues more (passed + 1)
      rw [Nat.add_assoc, Nat.add_comm 1] at passes
      exact .linked linked rfl passes

/-- Reading from a cursor takes what is taken of the lines ahead, leaves what is left of them, and
counts the lines. -/
theorem reads_iff : kind.Reads cursor body last ↔ kind.takeBody cursor.ahead = body ∧
    last.ahead = body.rest ∧ last.passed = cursor.passed + body.lines.length := by
  constructor
  · intro reads
    cases reads with
    | nothing ends =>
      obtain ⟨nothing, -⟩ := next_eq_none_iff.mp ends
      rw [nothing]
      exact ⟨rfl, rfl, rfl⟩
    | @fenced _ _ after last first lines complete fenced reads closes =>
      obtain ⟨shape, counted⟩ := next_eq_some_iff.mp reads
      obtain ⟨body, passed⟩ := closes.exact first
      rw [shape, takeBody_of_fenced fenced]
      exact ⟨body, rfl, by rw [passed, counted, List.length_cons]; omega⟩
    | image reads =>
      obtain ⟨shape, counted⟩ := next_eq_some_iff.mp reads
      rw [shape]
      exact ⟨rfl, rfl, counted⟩
    | linked linked reads passes =>
      obtain ⟨shape, counted⟩ := next_eq_some_iff.mp reads
      obtain ⟨taken, dropped, passed⟩ := passes.exact
      rw [shape, takeBody_of_linked linked, taken, dropped]
      exact ⟨rfl, rfl, by rw [passed, counted, List.length_cons]; omega⟩
  · rintro ⟨rfl, ahead, passed⟩
    have same : last = ⟨(kind.takeBody cursor.ahead).rest,
        cursor.passed + (kind.takeBody cursor.ahead).lines.length⟩ := by
      rw [← ahead, ← passed]
    rw [same]
    exact kind.reads_takeBody cursor.ahead cursor.passed

end ArtifactKind
end Runbook
