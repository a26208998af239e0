import CounterExport.Text.Blank
import CounterExport.Text.Lowercase

/-!
# Label values from instance names

A counter class with one row per instance (a process pool, a queue, a database) names each row.
The name becomes the value of the `name` label:

* `labelName` lowercases the whole name (full Unicode mapping), splits it at runs of blanks,
  joins the words with `_` and turns every `.` into `_`: `"Edge.Transport.exe"` gives
  `edge_transport_exe`, `"  normal   priority\t"` gives `normal_priority`;
* `hasIndexSuffix` recognises the extra copies that the counter provider numbers with `#` and
  one or two digits: only the text after the last `#` counts (`pool#a#12` has one, `pool#12 east`
  and `w3wp#123` do not);
* `instanceLabel` skips the aggregate row (`_Total`, or any name whose label ends in `_total`)
  and numbered copies, and otherwise gives the label name.
-/

set_option autoImplicit false

namespace CounterExport.Label

open Text

/-- The instance name of the aggregate row. -/
def totalInstance : String := "_Total"

/-- The label value derived from an instance name. -/
def labelName (name : String) : String :=
  String.ofList (("_".intercalate (words (lowercase name))).toList.map
    fun c => if c = '.' then '_' else c)

/-- The characters after the last `#`, if the text has one. -/
def afterLastHash (cs : List Char) : Option (List Char) :=
  if '#' ∈ cs then some (cs.reverse.takeWhile (· ≠ '#')).reverse else none

/-- Whether the text after the last `#` is one or two ASCII digits. -/
def hasIndexSuffix (name : String) : Bool :=
  match afterLastHash name.toList with
  | some s => (s.length == 1 || s.length == 2) && s.all fun c => '0' ≤ c && c ≤ '9'
  | none => false

/-- The label of an instance row, or `none` when the row is skipped: the aggregate row and
numbered copies. -/
def instanceLabel (name : String) : Option String :=
  if name = totalInstance ∨ hasIndexSuffix name then none
  else
    let label := labelName name
    if label.endsWith "_total" then none else some label

end CounterExport.Label
