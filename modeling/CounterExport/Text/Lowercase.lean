import CounterExport.Text.CaseTables

/-!
# Full lowercasing

`lowercase s` maps every character of `s` to its lowercase form, with the full (possibly
several characters long) mapping of the Unicode standard:

* `İ` (U+0130) becomes `i` followed by a combining dot above (U+0307), the one unconditional
  mapping that writes two characters;
* a capital sigma `Σ` becomes the final form `ς` when it ends a word and `σ` otherwise. It ends a
  word when, looking through case-ignorable characters, a cased character stands before it and
  none after it. The context is read in the text being lowercased, not in its result;
* every other character follows the simple mapping of `lowerRuns`, or stays as it is.
-/

set_option autoImplicit false

namespace CounterExport.Text

/-- Whether the code point `n` lies in one of the sorted, disjoint `ranges`. -/
def inRanges (ranges : Array (Nat × Nat)) (n : Nat) : Bool :=
  match ranges.find? (fun r => n ≤ r.2) with
  | some r => r.1 ≤ n
  | none => false

/-- The `Cased` property. -/
def isCased (c : Char) : Bool := inRanges casedRanges c.toNat

/-- The `Case_Ignorable` property. -/
def isCaseIgnorable (c : Char) : Bool := inRanges caseIgnorableRanges c.toNat

/-- Whether the run maps the code point `n`. -/
def LowerRun.maps (r : LowerRun) (n : Nat) : Bool :=
  r.first ≤ n && n < r.first + r.count * r.step && (n - r.first) % r.step == 0

/-- The simple lowercase mapping of one character. -/
def lowerSimple (c : Char) : Char :=
  if 0x41 ≤ c.toNat ∧ c.toNat ≤ 0x5A then Char.ofNat (c.toNat + 32)
  else if c.toNat < 0xC0 then c
  else match lowerRuns.find? (fun r => r.maps c.toNat) with
    | some r => Char.ofNat (Int.toNat (c.toNat + r.shift))
    | none => c

/-- The full lowercase mapping of one character outside a sigma context. -/
def lowerChar (c : Char) : List Char :=
  if c = '\u0130' then ['i', '\u0307'] else [lowerSimple c]

/-- Reading outward from a capital sigma, whether the first character that is not
case-ignorable is cased. -/
def casedBeyond (cs : List Char) : Bool :=
  match cs.dropWhile isCaseIgnorable with
  | c :: _ => isCased c
  | [] => false

/-- The lowercase of a capital sigma, given the characters before it (nearest first) and the
characters after it. -/
def lowerSigma (before after : List Char) : Char :=
  if casedBeyond before && !casedBeyond after then '\u03C2' else '\u03C3'

/-- Lowercases `rest`, where `before` holds the characters already passed, nearest first. -/
def lowerFrom (before : List Char) : List Char → List Char
  | [] => []
  | c :: cs =>
    (if c = '\u03A3' then [lowerSigma before cs] else lowerChar c) ++ lowerFrom (c :: before) cs

/-- The full lowercase form of `s`. -/
def lowercase (s : String) : String := String.ofList (lowerFrom [] s.toList)

end CounterExport.Text
