import CounterExport.Metric.Family
import CounterExport.Decimal.Layout

/-!
# The text exposition format

Each family is written as

```
# HELP <name> <help>
# TYPE <name> counter|gauge
<name>{k="v",...} <value>
```

with the `HELP` line only for a non-empty help text, one line per metric, and no braces for a
metric without labels. In the help text a backslash and a line feed are escaped; in a label
value the double quote is escaped as well. Values use `Layout.plain`.
-/

set_option autoImplicit false

namespace CounterExport.Metric

open Decimal

/-- Escapes a backslash and a line feed, and a double quote when `quote` is set. -/
def escapeText (quote : Bool) (s : String) : String :=
  String.join <| s.toList.map fun c =>
    if c = '\\' then "\\\\"
    else if c = '\n' then "\\n"
    else if quote && c = '"' then "\\\""
    else c.toString

/-- The label part of a metric line. -/
def labelText (labels : List (String × String)) : String :=
  if labels.isEmpty then ""
  else "\x7b" ++ ",".intercalate (labels.map fun (k, v) => k ++ "=\"" ++ escapeText true v ++ "\"") ++ "\x7d"

/-- The lines of one family. -/
def Family.text (f : Family) : String :=
  (if f.help.isEmpty then "" else "# HELP " ++ f.name ++ " " ++ escapeText false f.help ++ "\n") ++
  "# TYPE " ++ f.name ++ " " ++ f.kind.name ++ "\n" ++
  String.join (f.points.toList.map fun p =>
    f.name ++ labelText p.labels ++ " " ++ Layout.plain.render (f.reading p) ++ "\n")

/-- The exposition text of families, in order. -/
def exposition (families : List Family) : String := String.join (families.map Family.text)

end CounterExport.Metric
