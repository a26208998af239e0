/-!
# Blank characters

The Unicode `White_Space` property, and the two operations built on it: cutting blanks from
both ends of a text (`trim`) and splitting a text into the runs of characters between blanks
(`words`). Instance names are split this way when they become label values, and the entries of
a comma separated collector list are trimmed this way.

`White_Space` is wider than the ASCII blanks: it holds NEL (U+0085), the no-break space
(U+00A0), the ideographic space (U+3000), the line and paragraph separators and the other
spaces of the U+2000 block, but not the zero width space (U+200B).
-/

set_option autoImplicit false

namespace CounterExport.Text

/-- Code point ranges (both ends included) of the `White_Space` property, in increasing order. -/
def blankRanges : List (Nat × Nat) :=
  [(0x9, 0xD), (0x20, 0x20), (0x85, 0x85), (0xA0, 0xA0), (0x1680, 0x1680), (0x2000, 0x200A),
   (0x2028, 0x2029), (0x202F, 0x202F), (0x205F, 0x205F), (0x3000, 0x3000)]

/-- A character is blank when its code point lies in one of the `White_Space` ranges. -/
def isBlank (c : Char) : Bool :=
  blankRanges.any fun r => r.1 ≤ c.toNat && c.toNat ≤ r.2

/-- The word runs of a character list, given the reversed characters of the word being read.
A blank closes the current word (if any); the end of the list closes the last one. -/
def wordsFrom : List Char → List Char → List (List Char)
  | [], acc => if acc.isEmpty then [] else [acc.reverse]
  | c :: cs, acc =>
    if isBlank c then
      if acc.isEmpty then wordsFrom cs [] else acc.reverse :: wordsFrom cs []
    else wordsFrom cs (c :: acc)

/-- The maximal runs of non-blank characters of `s`, in order. Blanks only separate words, so
no word is empty and no word holds a blank. -/
def words (s : String) : List String :=
  (wordsFrom s.toList []).map String.ofList

/-- `s` without its leading and trailing blanks. -/
def trim (s : String) : String :=
  String.ofList ((s.toList.dropWhile isBlank).reverse.dropWhile isBlank).reverse

end CounterExport.Text
