import Runbook.Text

/-! Spans of time, written in the largest unit that they fill: `1.5µs`, `20ms`, `3s`. -/
namespace Runbook

structure Duration where
  nanoseconds : Nat
  deriving DecidableEq, Repr

namespace Duration

def ofSeconds (seconds : Nat) : Duration := ⟨seconds * 1000000000⟩

/-- The digits after the point of `part / 10 ^ places`, without zeros at the end. -/
def fraction (part places : Nat) : Text :=
  let digits := Text.ofNat part
  let padded := List.replicate (places - digits.length) '0' ++ digits
  match (padded.reverse.dropWhile (· == '0')).reverse with
  | [] => []
  | shown => '.' :: shown

def inUnits (duration : Duration) (places : Nat) (unit : Text) : Text :=
  Text.ofNat (duration.nanoseconds / Nat.pow 10 places) ++
    fraction (duration.nanoseconds % Nat.pow 10 places) places ++ unit

def render (duration : Duration) : Text :=
  if 1000000000 ≤ duration.nanoseconds then duration.inUnits 9 "s"
  else if 1000000 ≤ duration.nanoseconds then duration.inUnits 6 "ms"
  else if 1000 ≤ duration.nanoseconds then duration.inUnits 3 "µs"
  else duration.inUnits 0 "ns"

end Duration
end Runbook
