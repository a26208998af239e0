import CounterExport.Decimal.Binary64

/-!
# Reading numbers from text

Three readers of decimal text:

* `readFloat` — a floating point literal of a command-line option: an optional sign, then either
  `inf`, `infinity` or `nan` in any letter case, or digits with at most one point and at least
  one digit, optionally followed by `e` or `E`, an optional sign and at least one digit. The
  value is the double nearest to the decimal (ties to even), so it is correctly rounded however
  many digits the text has.
* `readUnsigned` — an unsigned 64-bit option value: an optional `+`, then decimal digits only,
  read left to right so that a value too large is reported before a bad character after it.
* `scaleByPowerOfTen` — how a document reader turns a decimal significand and exponent into a
  double: the significand is rounded to a double first, then multiplied (or divided) by the
  double nearest to the power of ten, one rounding per step. It is not always correctly
  rounded; documents are read that way, so it is kept as it is.
-/

set_option autoImplicit false

namespace CounterExport.Decimal

/-- Why a floating point literal was refused. -/
inductive FloatError
  | empty
  | invalid
  deriving DecidableEq, Repr

def FloatError.message : FloatError → String
  | .empty => "cannot parse float from empty string"
  | .invalid => "invalid float literal"

/-- Why an unsigned integer literal was refused. -/
inductive IntError
  | empty
  | invalidDigit
  | overflow
  deriving DecidableEq, Repr

def IntError.message : IntError → String
  | .empty => "cannot parse integer from empty string"
  | .invalidDigit => "invalid digit found in string"
  | .overflow => "number too large to fit in target type"

/-- The value of a list of decimal digit characters. -/
def digitsValue (cs : List Char) : Nat :=
  cs.foldl (fun n c => 10 * n + (c.toNat - '0'.toNat)) 0

def isDigit (c : Char) : Bool := '0' ≤ c && c ≤ '9'

/-- The nearest double to `digits * 10^exponent`, ties to even. Exponents far outside the
range of doubles give zero or infinity without computing the power. -/
def nearestDecimal (negative : Bool) (digits : Nat) (exponent : Int) : Binary64 :=
  let width : Int := (Nat.toDigits 10 digits).length
  if digits = 0 then Binary64.signedZero negative
  else if exponent + width > 310 then Binary64.signedInfinity negative
  else if exponent + width < -330 then Binary64.signedZero negative
  else if 0 ≤ exponent then Binary64.ofRatio negative (digits * Nat.pow 10 exponent.toNat) 1
  else Binary64.ofRatio negative digits (Nat.pow 10 (-exponent).toNat)

/-- The exponent part after `e`: an optional sign and at least one digit, nothing else. -/
def readExponent (cs : List Char) : Option Int :=
  let (negative, ds) := match cs with
    | '+' :: r => (false, r)
    | '-' :: r => (true, r)
    | r => (false, r)
  if ds.isEmpty || !ds.all isDigit then none
  else
    let v : Int := digitsValue ds
    some (if negative then -v else v)

/-- A decimal literal without sign: digits with at most one point, at least one digit, and an
optional exponent part. Gives the digits as a number and the power of ten to scale them by. -/
def readDecimal (cs : List Char) : Option (Nat × Int) :=
  let whole := cs.takeWhile isDigit
  let rest := cs.dropWhile isDigit
  let (frac, rest) := match rest with
    | '.' :: r => (r.takeWhile isDigit, r.dropWhile isDigit)
    | r => ([], r)
  if whole.isEmpty && frac.isEmpty then none
  else
    let exp := match rest with
      | [] => some 0
      | c :: r => if c = 'e' || c = 'E' then readExponent r else none
    exp.map fun e => (digitsValue (whole ++ frac), e - frac.length)

/-- The special words, compared without regard to letter case. -/
def readSpecial (negative : Bool) (cs : List Char) : Option Binary64 :=
  let w := String.ofList (cs.map Char.toLower)
  if w = "inf" || w = "infinity" then some (Binary64.signedInfinity negative)
  else if w = "nan" then some Binary64.nan
  else none

/-- A floating point literal, as a command-line option value is read. -/
def readFloat (s : String) : Except FloatError Binary64 :=
  match s.toList with
  | [] => .error .empty
  | c :: r =>
    let (negative, body) :=
      if c = '-' then (true, r) else if c = '+' then (false, r) else (false, c :: r)
    if body.isEmpty then .error .invalid
    else match readDecimal body with
      | some (d, e) => .ok (nearestDecimal negative d e)
      | none => match readSpecial negative body with
        | some x => .ok x
        | none => .error .invalid

/-- The largest unsigned 64-bit value. -/
def maxUnsigned : Nat := 18446744073709551615

/-- Appends digits to the value `n` read so far, left to right. The first character that is not
a digit, or that takes the value past `maxUnsigned`, ends the reading with that error, so
of two faults the earlier one is reported. -/
def appendDigits (n : Nat) : List Char → Except IntError Nat
  | [] => .ok n
  | c :: r =>
    if !isDigit c then .error .invalidDigit
    else
      let m := 10 * n + (c.toNat - '0'.toNat)
      if m > maxUnsigned then .error .overflow else appendDigits m r

/-- Every value `appendDigits` gives fits in 64 bits, as long as the value it starts from does. -/
theorem appendDigits_le : ∀ (n : Nat) (cs : List Char) (v : Nat),
    n ≤ maxUnsigned → appendDigits n cs = .ok v → v ≤ maxUnsigned
  | n, [], v, h, e => by
    simp only [appendDigits, Except.ok.injEq] at e
    omega
  | n, c :: r, v, h, e => by
    simp only [appendDigits] at e
    split at e
    · cases e
    · split at e
      · cases e
      · exact appendDigits_le _ r v (by omega) e

/-- An unsigned 64-bit literal: an optional `+` then digits only. -/
def readUnsigned (s : String) : Except IntError Nat :=
  match s.toList with
  | [] => .error .empty
  | ['+'] => .error .invalidDigit
  | ['-'] => .error .invalidDigit
  | c :: r => appendDigits 0 (if c = '+' then r else c :: r)

/-- The double nearest to `10^i`. -/
def powerOfTen (i : Nat) : Binary64 := Binary64.ofRatio false (Nat.pow 10 i) 1

/-- `significand * 10^exponent` computed as a document reader does: the significand rounded to
a double, then one rounded multiplication or division by the double nearest to `10^|exponent|`
(by `10^308` at a time while the exponent is below `-308`). `none` when the product overflows:
the number is out of range. The sign is applied last. -/
def scaleByPowerOfTen (negative : Bool) (significand : Nat) (exponent : Int) : Option Binary64 :=
  let start := Binary64.ofNat significand
  let rec go (fuel : Nat) (f : Binary64) (e : Int) : Option Binary64 :=
    match fuel with
    | 0 => some f
    | fuel + 1 =>
      if e.natAbs ≤ 308 then
        if 0 ≤ e then
          let g := Binary64.mul f (powerOfTen e.natAbs)
          if g.isFinite then some g else none
        else some (Binary64.div f (powerOfTen e.natAbs))
      else if f.isZero then some f
      else if 0 ≤ e then none
      else go fuel (Binary64.div f (powerOfTen 308)) (e + 308)
  (go (exponent.natAbs / 308 + 2) start exponent).map fun x =>
    if negative then x.neg else x

/-- A value read by `readUnsigned` fits in 64 bits. -/
theorem readUnsigned_le (s : String) (v : Nat) (h : readUnsigned s = .ok v) : v ≤ maxUnsigned := by
  unfold readUnsigned at h
  split at h
  · cases h
  · cases h
  · cases h
  · exact appendDigits_le 0 _ v (by decide) h

end CounterExport.Decimal
