import Runbook.Text.Line

/-! A forward reader over lines. It looks one line ahead, never goes back, and counts
what it has passed. -/
namespace Runbook

structure Cursor where
  ahead : List Line
  passed : Nat
  deriving DecidableEq, Repr

namespace Cursor

def ofText (text : Text) : Cursor := ⟨Text.lines text, 0⟩

def peek (cursor : Cursor) : Option Line := cursor.ahead.head?

def next (cursor : Cursor) : Option Line × Cursor :=
  match cursor.ahead with
  | [] => (none, cursor)
  | line :: more => (some line, ⟨more, cursor.passed + 1⟩)

/-- Passes the next line only if it is accepted. -/
def nextIf (accepts : Line → Bool) (cursor : Cursor) : Option Line × Cursor :=
  match cursor.ahead with
  | [] => (none, cursor)
  | line :: more => if accepts line then (some line, ⟨more, cursor.passed + 1⟩) else (none, cursor)

def rest (cursor : Cursor) : Text × Cursor :=
  (cursor.ahead.flatten, ⟨[], cursor.passed + cursor.ahead.length⟩)

variable {accepts : Line → Bool} {cursor after : Cursor} {line : Line}

theorem next_eq_none_iff : cursor.next = (none, after) ↔ cursor.ahead = [] ∧ after = cursor := by
  obtain ⟨ahead, passed⟩ := cursor
  cases ahead <;> simp [next, eq_comm]

/-- A line that is read was the next one, and it is counted. -/
theorem next_eq_some_iff : cursor.next = (some line, after) ↔
    cursor.ahead = line :: after.ahead ∧ after.passed = cursor.passed + 1 := by
  obtain ⟨ahead, passed⟩ := cursor
  obtain ⟨left, count⟩ := after
  cases ahead with
  | nil => simp [next]
  | cons first more => simp [next, eq_comm, and_assoc]

theorem nextIf_eq_some_iff : cursor.nextIf accepts = (some line, after) ↔
    accepts line = true ∧ cursor.next = (some line, after) := by
  obtain ⟨ahead, passed⟩ := cursor
  cases ahead with
  | nil => simp [nextIf, next]
  | cons first more =>
    by_cases accepted : accepts first = true
    · simp only [nextIf, next, if_pos accepted]
      constructor
      · intro same
        exact ⟨Option.some.inj (Prod.mk.inj same).1 ▸ accepted, same⟩
      · exact fun ⟨_, same⟩ => same
    · simp only [nextIf, next, if_neg accepted]
      constructor
      · intro same
        cases same
      · rintro ⟨other, same⟩
        obtain rfl := Option.some.inj (Prod.mk.inj same).1
        contradiction

theorem nextIf_eq_none_iff : cursor.nextIf accepts = (none, after) ↔
    (∀ line, cursor.ahead.head? = some line → accepts line = false) ∧ after = cursor := by
  obtain ⟨ahead, passed⟩ := cursor
  cases ahead with
  | nil => simp [nextIf, @eq_comm Cursor]
  | cons first more =>
    by_cases accepted : accepts first = true
    · simp [nextIf, accepted]
    · simp [nextIf, accepted, @eq_comm Cursor]

end Cursor
end Runbook
