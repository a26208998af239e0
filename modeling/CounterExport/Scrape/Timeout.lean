import CounterExport.Decimal.Binary64

/-!
# Seconds as a duration

`nanosOfSeconds x` converts a number of seconds given as a double into whole nanoseconds, the
way a duration is made from a float: the exact value of `x` times `10^9`, rounded to the
nearest integer with ties to even. A negative value (negative zero excepted) is refused, and
so are NaN, the infinities and every value of `2^64` seconds or more.
-/

set_option autoImplicit false

namespace CounterExport.Scrape

open Decimal

/-- Why seconds could not be made a duration. -/
inductive DurationError
  | negative
  | tooBigOrNaN
  deriving DecidableEq, Repr

def DurationError.message : DurationError → String
  | .negative => "cannot convert float seconds to Duration: value is negative"
  | .tooBigOrNaN => "cannot convert float seconds to Duration: value is either too big or NaN"

/-- Nanoseconds in a second. -/
def nanosPerSecond : Nat := 1000000000

/-- The largest number of whole seconds a duration holds, plus one. -/
def secondsLimit : Nat := 18446744073709551616

/-- The nanoseconds of `m * 2^q` seconds, rounded to nearest, ties to even. -/
def nanosOfDyadic (m : Nat) (q : Int) : Nat :=
  if 0 ≤ q then m * Nat.pow 2 q.toNat * nanosPerSecond
  else Binary64.roundDiv (m * nanosPerSecond) (Nat.pow 2 (-q).toNat)

/-- A number of seconds as whole nanoseconds. -/
def nanosOfSeconds (x : Binary64) : Except DurationError Nat :=
  match x.kind with
  | .nan => .error .tooBigOrNaN
  | .infinite => if x.negative then .error .negative else .error .tooBigOrNaN
  | .finite m q =>
    if x.negative ∧ m ≠ 0 then .error .negative
    else
      let n := nanosOfDyadic m q
      if n / nanosPerSecond ≥ secondsLimit then .error .tooBigOrNaN else .ok n

end CounterExport.Scrape
