import CounterExport.Decimal.Shortest

/-!
# Writing a double as text

A `Layout` is the part of a number format that is a decision rather than a computation: where
positional notation ends and exponent notation starts, whether an integral value keeps a `.0`,
how the exponent is marked, which of two equally near shortest decimals is written, and the
words for zero, infinity and NaN. The digits themselves are
always the shortest ones that read back (`Decimal.shortest`).

Three layouts are in use:

* `Layout.plain` — sample values, in answers and in the exposition text: always positional, no
  `.0`, `-0` for negative zero (`1e-7` is `0.0000001`, `2^64` is `18446744073709552000`);
* `Layout.field` — a number logged as a field value: positional from `1e-4` up to (not
  including) `1e16`, with `.0` kept, exponent notation `1e16` or `1.5e-7` outside;
* `Layout.message` — a number quoted in a row decoding error: positional from `1e-5` up to (not
  including) `1e16`, with `.0` kept, exponent notation with an explicit sign outside
  (`1.8446744073709552e+19`).

The first two write the upper of two equally near shortest decimals (`1059438285926254.25`
is `1059438285926254.3`); the third writes the one with the even last digit.
-/

set_option autoImplicit false

namespace CounterExport.Decimal

/-- The decisions of a number format. -/
structure Layout where
  /-- Smallest decimal exponent of the leading digit written positionally; `none`: no bound. -/
  lowest : Option Int
  /-- Largest decimal exponent of the leading digit written positionally; `none`: no bound. -/
  highest : Option Int
  /-- An integral value written positionally ends in `.0`. -/
  pointZero : Bool
  /-- A non-negative exponent carries a `+`. -/
  plusExponent : Bool
  /-- Of two shortest decimals equally near the value, the upper one is written (otherwise
  the one with the even last digit). -/
  tiesUp : Bool
  zeroText : String
  infText : String
  nanText : String

/-- Sample values: always positional, shortest digits, no `.0`. -/
def Layout.plain : Layout :=
  { lowest := none, highest := none, pointZero := false, plusExponent := false, tiesUp := true,
    zeroText := "0", infText := "inf", nanText := "NaN" }

/-- Numbers logged as field values. -/
def Layout.field : Layout :=
  { lowest := some (-4), highest := some 15, pointZero := true, plusExponent := false,
    tiesUp := true, zeroText := "0.0", infText := "inf", nanText := "NaN" }

/-- Numbers quoted in row decoding errors. -/
def Layout.message : Layout :=
  { lowest := some (-5), highest := some 15, pointZero := true, plusExponent := true,
    tiesUp := false, zeroText := "0.0", infText := "inf", nanText := "NaN" }

/-- `n` zeros. -/
def zeros (n : Nat) : String := String.ofList (List.replicate n '0')

/-- The decimal digits of `n`. -/
def digitText (n : Nat) : String := String.ofList (Nat.toDigits 10 n)

/-- The positional text of the digit string `ds` whose leading digit has decimal exponent `e`. -/
def positional (pointZero : Bool) (ds : String) (e : Int) : String :=
  let len := ds.length
  if e < 0 then "0." ++ zeros (-e - 1).toNat ++ ds
  else if (e + 1).toNat < len then
    String.ofList (ds.toList.take (e + 1).toNat) ++ "." ++ String.ofList (ds.toList.drop (e + 1).toNat)
  else ds ++ zeros ((e + 1).toNat - len) ++ (if pointZero then ".0" else "")

/-- The exponent text of the digit string `ds` whose leading digit has decimal exponent `e`. -/
def exponential (plus : Bool) (ds : String) (e : Int) : String :=
  let head := String.ofList (ds.toList.take 1)
  let tail := String.ofList (ds.toList.drop 1)
  let mantissa := if tail.isEmpty then head else head ++ "." ++ tail
  let sign := if e < 0 then "-" else if plus then "+" else ""
  mantissa ++ "e" ++ sign ++ digitText e.natAbs

/-- Whether the layout writes a leading digit of decimal exponent `e` positionally. -/
def Layout.isPositional (l : Layout) (e : Int) : Bool :=
  (match l.lowest with | some lo => lo ≤ e | none => true) &&
  (match l.highest with | some hi => e ≤ hi | none => true)

/-- The text of a finite positive `m * 2^q` under the layout. -/
def Layout.magnitude (l : Layout) (m : Nat) (q : Int) : String :=
  if m = 0 then l.zeroText
  else
    let s := shortest l.tiesUp m q
    let ds := digitText s.digits
    let e := s.exponent + ds.length - 1
    if l.isPositional e then positional l.pointZero ds e else exponential l.plusExponent ds e

/-- The text of a double under the layout: a minus sign for every negative value (negative zero
included), then the magnitude. -/
def Layout.render (l : Layout) (x : Binary64) : String :=
  match x.kind with
  | .nan => l.nanText
  | .infinite => (if x.negative then "-" else "") ++ l.infText
  | .finite m q => (if x.negative then "-" else "") ++ l.magnitude m q

end CounterExport.Decimal
