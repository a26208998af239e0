/-!
# Binary64 values

IEEE 754 double precision values, kept as their three fields: a sign, an 11-bit biased exponent
and a 52-bit fraction. A finite value is `m * 2^q` with an integer significand `m`; every rule
below is stated on `m` and `q`, never on a hardware float.

The one way to make a value from a number is `ofRatio`: the value nearest to `num / den`, a
tie going to the even significand (IEEE 754 round to nearest, ties to even), with infinity past
the largest finite value. Widening an unsigned integer (`ofNat`), reading decimal text and the
products and quotients that a decimal reader performs all go through it.
-/

set_option autoImplicit false

namespace CounterExport.Decimal

/-- A double precision value, by its fields. -/
structure Binary64 where
  negative : Bool
  exponent : Fin 2048
  fraction : Fin 4503599627370496
  deriving DecidableEq, Repr

/-- What a double precision value denotes. A finite value is `m * 2^q`, zero included
(`m = 0`). -/
inductive Binary64.Kind
  | nan
  | infinite
  | finite (m : Nat) (q : Int)
  deriving DecidableEq, Repr

namespace Binary64

/-- `2^52`, the weight of the hidden bit. -/
def hidden : Nat := 4503599627370496

/-- The value with the given sign, exponent field and fraction field, each field taken modulo
its width. -/
def ofFields (negative : Bool) (exponent fraction : Nat) : Binary64 :=
  ⟨negative, ⟨exponent % 2048, Nat.mod_lt _ (by decide)⟩,
    ⟨fraction % hidden, Nat.mod_lt _ (by decide)⟩⟩

def zero : Binary64 := ofFields false 0 0
def negZero : Binary64 := ofFields true 0 0
def one : Binary64 := ofFields false 1023 0
def infinity : Binary64 := ofFields false 2047 0
def nan : Binary64 := ofFields false 2047 (hidden / 2)

/-- Zero with the given sign. -/
def signedZero (negative : Bool) : Binary64 := ofFields negative 0 0

/-- Infinity with the given sign. -/
def signedInfinity (negative : Bool) : Binary64 := ofFields negative 2047 0

/-- What the fields denote: an all-ones exponent is infinity (zero fraction) or NaN, a zero
exponent is `fraction * 2^-1074`, any other `(2^52 + fraction) * 2^(exponent - 1075)`. -/
def kind (x : Binary64) : Kind :=
  if x.exponent.val = 2047 then
    if x.fraction.val = 0 then .infinite else .nan
  else if x.exponent.val = 0 then .finite x.fraction.val (-1074)
  else .finite (hidden + x.fraction.val) ((x.exponent.val : Int) - 1075)

def isNaN (x : Binary64) : Bool := x.kind == .nan

def isFinite (x : Binary64) : Bool :=
  match x.kind with
  | .finite _ _ => true
  | _ => false

/-- Zero of either sign. -/
def isZero (x : Binary64) : Bool := x.exponent.val == 0 && x.fraction.val == 0

/-- The same value with the sign cleared. -/
def abs (x : Binary64) : Binary64 := { x with negative := false }

/-- The nearest integer to `n / d`, a tie going to the even one. -/
def roundDiv (n d : Nat) : Nat :=
  let q := n / d
  let r := n % d
  if 2 * r > d ∨ (2 * r = d ∧ q % 2 = 1) then q + 1 else q

/-- `num / den < 2^e`. -/
def belowPow (num den : Nat) (e : Int) : Bool :=
  if 0 ≤ e then num < den * Nat.pow 2 e.toNat else num * Nat.pow 2 (-e).toNat < den

/-- The `e` with `2^e ≤ num / den < 2^(e+1)`, for positive `num` and `den`. The bit lengths
give it up to one. -/
def binaryExponent (num den : Nat) : Int :=
  let e : Int := (Nat.log2 num : Int) - (Nat.log2 den : Int)
  if belowPow num den e then e - 1 else e

/-- Packs `m * 2^q` where `q ≥ -1074` and `m ≤ 2^53`, with `m ≥ 2^52` unless `q = -1074`. A
significand that a rounding carried to `2^53` moves one binade up; an exponent past the
largest finite binade gives infinity. -/
def pack (negative : Bool) (m : Nat) (q : Int) : Binary64 :=
  let (m, q) := if m = 2 * hidden then (hidden, q + 1) else (m, q)
  if m < hidden then ofFields negative 0 m
  else if q + 1075 ≥ 2047 then signedInfinity negative
  else ofFields negative (q + 1075).toNat (m - hidden)

/-- The nearest value to `num / den` (with the given sign), ties to the even significand, and
infinity beyond the finite range. A zero numerator (or denominator) gives zero. -/
def ofRatio (negative : Bool) (num den : Nat) : Binary64 :=
  if num = 0 ∨ den = 0 then signedZero negative
  else
    let q : Int := max (binaryExponent num den - 52) (-1074)
    let m :=
      if 0 ≤ q then roundDiv num (den * Nat.pow 2 q.toNat) else roundDiv (num * Nat.pow 2 (-q).toNat) den
    pack negative m q

/-- Widening an unsigned integer: the nearest value, ties to even. -/
def ofNat (n : Nat) : Binary64 := ofRatio false n 1

/-- The nearest value to `m * 2^q`. -/
def ofDyadic (negative : Bool) (m : Nat) (q : Int) : Binary64 :=
  if 0 ≤ q then ofRatio negative (m * Nat.pow 2 q.toNat) 1 else ofRatio negative m (Nat.pow 2 (-q).toNat)

/-- The rounded product of two values. Infinities and NaN propagate as IEEE 754 says for the
cases a decimal reader reaches (a finite factor times a finite factor). -/
def mul (x y : Binary64) : Binary64 :=
  let negative := x.negative != y.negative
  match x.kind, y.kind with
  | .finite a p, .finite b r => ofDyadic negative (a * b) (p + r)
  | .nan, _ => nan
  | _, .nan => nan
  | _, _ => signedInfinity negative

/-- The rounded quotient of two values, for a finite dividend and a finite non-zero divisor;
other cases follow IEEE 754 loosely (a zero divisor gives infinity or NaN). -/
def div (x y : Binary64) : Binary64 :=
  let negative := x.negative != y.negative
  match x.kind, y.kind with
  | .finite a p, .finite b r =>
    if b = 0 then (if a = 0 then nan else signedInfinity negative)
    else
      let e := p - r
      if 0 ≤ e then ofRatio negative (a * Nat.pow 2 e.toNat) b else ofRatio negative a (b * Nat.pow 2 (-e).toNat)
  | .nan, _ => nan
  | _, .nan => nan
  | .infinite, _ => signedInfinity negative
  | _, .infinite => signedZero negative

/-- The value with the sign flipped. -/
def neg (x : Binary64) : Binary64 := { x with negative := !x.negative }

/-- The exact value `n * 2^q` of a finite value, with the sign on `n`. -/
def signedDyadic (x : Binary64) : Option (Int × Int) :=
  match x.kind with
  | .finite m q => some (if x.negative then -(m : Int) else m, q)
  | _ => none

/-- The rounded sum of two values. An exact zero sum is positive zero unless both terms are
negative; infinities and NaN follow IEEE 754. -/
def add (x y : Binary64) : Binary64 :=
  match x.signedDyadic, y.signedDyadic with
  | some (a, p), some (b, r) =>
    let q := min p r
    let n := a * Nat.pow 2 (p - q).toNat + b * Nat.pow 2 (r - q).toNat
    if n = 0 then signedZero (x.negative && y.negative) else ofDyadic (n < 0) n.natAbs q
  | _, _ =>
    if x.isNaN || y.isNaN then nan
    else match x.kind, y.kind with
      | .infinite, .infinite => if x.negative == y.negative then x else nan
      | .infinite, _ => x
      | _, _ => y

/-- Whether `x < y`, for values that are not NaN. -/
def lt (x y : Binary64) : Bool :=
  match x.signedDyadic, y.signedDyadic with
  | some (a, p), some (b, r) =>
    let q := min p r
    a * Nat.pow 2 (p - q).toNat < b * Nat.pow 2 (r - q).toNat
  | _, _ =>
    match x.kind, y.kind with
    | .infinite, .infinite => x.negative && !y.negative
    | .infinite, _ => x.negative
    | _, .infinite => !y.negative
    | _, _ => false

end Binary64

end CounterExport.Decimal
