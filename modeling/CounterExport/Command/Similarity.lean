import CounterExport.Decimal.Binary64

/-!
# String similarity for suggestions

When an unknown long option is given, the option whose name is most similar to it is
suggested, if any is similar enough. Similarity is the Jaro similarity of the two names, over
characters, computed in double precision exactly as written (each quotient and sum rounded):

`((m / |a| + m / |b|) + (m - t) / m) / 3`

where `m` counts the characters of `a` matched with equal, not yet matched characters of `b` at
most `max(|a|, |b|) / 2 - 1` positions away, and `t` is half the number of matched positions
whose characters differ when both sides' matches are read in order. A name is suggested when
its similarity exceeds the double nearest to `0.7`; of several, the most similar, and of equally
similar ones the last in option order.
-/

set_option autoImplicit false

namespace CounterExport.Command

open Decimal

/-- The first position `j` in `[lo, hi)` where `b` has `c` and is not matched yet. -/
def firstFree (b : Array Char) (matched : Array Bool) (c : Char) (lo hi : Nat) : Option Nat :=
  (List.range' lo (hi - lo)).find? fun j => b[j]? == some c && !(matched.getD j true)

/-- Matches the characters of `a` in order: which of `a` and which of `b` are matched. -/
def matchChars (a b : Array Char) (window : Nat) : Array Bool × Array Bool :=
  (List.range a.size).foldl (fun (fa, fb) i =>
    let lo := i - window
    let hi := min b.size (i + window + 1)
    match a[i]? with
    | none => (fa, fb)
    | some c =>
      match firstFree b fb c lo hi with
      | some j => (fa.setIfInBounds i true, fb.setIfInBounds j true)
      | none => (fa, fb))
    (Array.replicate a.size false, Array.replicate b.size false)

/-- The matched characters of a word, in order. -/
def matchedChars (w : Array Char) (flags : Array Bool) : List Char :=
  ((w.toList.zip flags.toList).filter (·.2)).map (·.1)

/-- The Jaro similarity of two strings. -/
def jaro (a b : String) : Binary64 :=
  let as := a.toList.toArray
  let bs := b.toList.toArray
  if as.size = 0 ∧ bs.size = 0 then Binary64.one
  else if as.size = 0 ∨ bs.size = 0 then Binary64.zero
  else
    let window := max as.size bs.size / 2 - 1
    let (fa, fb) := matchChars as bs window
    let ma := matchedChars as fa
    let mb := matchedChars bs fb
    let m := ma.length
    if m = 0 then Binary64.zero
    else
      let t := ((ma.zip mb).filter fun p => p.1 != p.2).length / 2
      let q := fun (n d : Nat) => Binary64.div (Binary64.ofNat n) (Binary64.ofNat d)
      Binary64.div (Binary64.add (Binary64.add (q m as.size) (q m bs.size)) (q (m - t) m))
        (Binary64.ofNat 3)

/-- The threshold a similarity must exceed. -/
def similarEnough : Binary64 := Binary64.ofRatio false 7 10

/-- The candidate most similar to `w`, if one is similar enough; of equally similar ones the
last. -/
def mostSimilar (w : String) (candidates : List String) : Option String :=
  let scored := (candidates.map fun c => (jaro w c, c)).filter fun s => similarEnough.lt s.1
  (scored.foldl (fun best s =>
    match best with
    | none => some s
    | some b => if s.1.lt b.1 then some b else some s) none).map (·.2)

end CounterExport.Command
