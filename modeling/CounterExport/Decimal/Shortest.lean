import CounterExport.Decimal.Binary64

/-!
# Shortest decimal digits

For a finite non-zero `m * 2^q`, `shortest` finds the decimal `d * 10^k` with the fewest
significant digits that reads back as the same value, and of those the nearest to it.

Reading back means lying in the rounding interval of the value: the reals whose nearest double
is `m * 2^q`. It reaches half a unit in the last place to either side (a quarter of a unit below
a power of two, where the binade below is finer), with both ends included exactly when `m` is
even, since a tie there goes to the even significand.

The search is exact `Nat` arithmetic. With `E` the decimal exponent of the leading digit, the
grid of `n`-digit decimals has spacing `10^(E - n + 1)`. If a point of that grid lies in the
interval, then so does one of the two grid points next to the value, because the interval holds
the value and is connected. So each `n` from 1 to 17 tests only those two neighbours; the first
`n` with a hit wins, of two hits the nearer one, and an exact tie goes to the upper neighbour or
to the even one, as the caller asks (seventeen digits always hit).
-/

set_option autoImplicit false

namespace CounterExport.Decimal

/-- A decimal `digits * 10^exponent`. -/
structure Scientific where
  digits : Nat
  exponent : Int
  deriving DecidableEq, Repr

/-- The rounding interval of a finite positive value `m * 2^q` over a common denominator:
the value is `center / den`, the interval runs from `low / den` to `high / den`, and `closed`
tells whether the ends belong to it. -/
structure Interval where
  low : Nat
  center : Nat
  high : Nat
  den : Nat
  closed : Bool
  deriving Repr

/-- The rounding interval of `m * 2^q`, `m > 0`. Everything is scaled by 4 so that quarter units
stay integral. The gap below is a quarter unit only at the bottom of a binade above the
subnormals. -/
def Interval.ofDyadic (m : Nat) (q : Int) : Interval :=
  let below := if m = Binary64.hidden ∧ q > -1074 then 1 else 2
  let scale := if 2 ≤ q then Nat.pow 2 (q - 2).toNat else 1
  let den := if 2 ≤ q then 1 else Nat.pow 2 (2 - q).toNat
  { low := (4 * m - below) * scale, center := 4 * m * scale, high := (4 * m + 2) * scale,
    den := den, closed := m % 2 == 0 }

/-- `10^t` split as a multiplier of the left side or of the right side of a comparison. -/
def powUp (t : Int) : Nat := if 0 ≤ t then Nat.pow 10 t.toNat else 1

def powDown (t : Int) : Nat := if 0 ≤ t then 1 else Nat.pow 10 (-t).toNat

/-- Whether the value reaches `10^t`. -/
def Interval.reaches (iv : Interval) (t : Int) : Bool :=
  iv.center * powDown t ≥ iv.den * powUp t

/-- The decimal exponent of the leading digit: the `E` with `10^E ≤ center / den < 10^(E+1)`.
The binary exponent gives it up to one either way (`78913 / 2^18` is just below `log10 2`). -/
def Interval.decimalExponent (iv : Interval) : Int :=
  let e2 := Binary64.binaryExponent iv.center iv.den
  let e := Int.fdiv (e2 * 78913) 262144
  if iv.reaches (e + 1) then e + 1 else if iv.reaches e then e else e - 1

/-- Whether the grid point `c * 10^t` lies in the interval. -/
def Interval.holds (iv : Interval) (c : Nat) (t : Int) : Bool :=
  let point := c * powUp t * iv.den
  let lo := iv.low * powDown t
  let hi := iv.high * powDown t
  if iv.closed then lo ≤ point && point ≤ hi else lo < point && point < hi

/-- The nearest of the grid points on the grid `10^t` that lie in the interval, if there is one:
the value's lower neighbour `c`, its upper neighbour `c + 1`, the nearer of both, or on a tie
the upper one when `tiesUp` holds and the even one otherwise. -/
def Interval.pick (tiesUp : Bool) (iv : Interval) (t : Int) : Option Nat :=
  let num := iv.center * powDown t
  let unit := iv.den * powUp t
  let c := num / unit
  let lowIn := iv.holds c t
  let highIn := num % unit != 0 && iv.holds (c + 1) t
  if lowIn && highIn then
    let below := num - c * unit
    let above := (c + 1) * unit - num
    if below < above then some c
    else if above < below then some (c + 1)
    else if tiesUp || c % 2 == 1 then some (c + 1) else some c
  else if lowIn then some c
  else if highIn then some (c + 1)
  else none

/-- Removes trailing zeros from the digits, raising the exponent. -/
def Scientific.normalize (fuel : Nat) (s : Scientific) : Scientific :=
  match fuel with
  | 0 => s
  | fuel + 1 =>
    if s.digits ≠ 0 ∧ s.digits % 10 = 0 then
      Scientific.normalize fuel ⟨s.digits / 10, s.exponent + 1⟩
    else s

/-- The first digit count from `n` on (up to 17) whose grid has a point in the interval. -/
def Interval.search (tiesUp : Bool) (iv : Interval) (e : Int) : Nat → Nat → Option Scientific
  | 0, _ => none
  | fuel + 1, n =>
    let t := e - (n : Int) + 1
    match iv.pick tiesUp t with
    | some c => some ⟨c, t⟩
    | none => Interval.search tiesUp iv e fuel (n + 1)

/-- The shortest, nearest decimal of `m * 2^q` (`m > 0`), without trailing zeros; of two
nearest, the upper one when `tiesUp` holds and the even one otherwise. -/
def shortest (tiesUp : Bool) (m : Nat) (q : Int) : Scientific :=
  let iv := Interval.ofDyadic m q
  let e := iv.decimalExponent
  match iv.search tiesUp e 17 1 with
  | some s => s.normalize 20
  | none => (⟨Binary64.roundDiv (iv.center * powDown (e - 16)) (iv.den * powUp (e - 16)),
      e - 16⟩ : Scientific).normalize 20

end CounterExport.Decimal
