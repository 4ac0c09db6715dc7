/-!
# Durations in words

A duration is written in its largest unit and the next smaller one, both rounded
down.
-/

namespace EpochVoting
namespace Text
namespace Duration

/-- The text of a number of seconds. -/
def format (secs : UInt64) : String :=
  let n := secs.toNat
  if n < 60 then s!"{n}s"
  else if n < 3600 then s!"{n / 60}m {n % 60}s"
  else if n < 86400 then s!"{n / 3600}h {n % 3600 / 60}m"
  else s!"{n / 86400}d {n % 86400 / 3600}h"

/-- The time left until a due time, in words. -/
def countdown (now due : UInt64) : String :=
  if due ≤ now then "due now" else s!"in {format (due - now)}"

end Duration
end Text
end EpochVoting
