/-!
# Metric and label names

A metric's full name joins a namespace, a subsystem and a name with `_`, leaving out empty
parts: `wmi`, `exchange`, `ldap_read_time` give `wmi_exchange_ldap_read_time`, and `wmi`, ``,
`up` give `wmi_up`.

The text exposition format admits metric names matching `[a-zA-Z_:][a-zA-Z0-9_:]*` and label
names matching `[a-zA-Z_][a-zA-Z0-9_]*` (no colon); the empty text is neither.
-/

set_option autoImplicit false

namespace CounterExport.Metric

/-- The namespace of every metric of this exporter. -/
def exporterNamespace : String := "wmi"

/-- The full name: the non-empty parts joined with `_`. -/
def fqName (ns subsystem name : String) : String :=
  "_".intercalate ([ns, subsystem, name].filter (· ≠ ""))

def isAsciiLetter (c : Char) : Bool := ('a' ≤ c && c ≤ 'z') || ('A' ≤ c && c ≤ 'Z')

def isAsciiDigit (c : Char) : Bool := '0' ≤ c && c ≤ '9'

/-- A valid metric name: a letter, `_` or `:`, then letters, digits, `_` or `:`. -/
def isMetricName (s : String) : Bool :=
  match s.toList with
  | [] => false
  | c :: cs =>
    (isAsciiLetter c || c = '_' || c = ':') &&
      cs.all fun c => isAsciiLetter c || isAsciiDigit c || c = '_' || c = ':'

/-- A valid label name: a letter or `_`, then letters, digits or `_`. -/
def isLabelName (s : String) : Bool :=
  match s.toList with
  | [] => false
  | c :: cs =>
    (isAsciiLetter c || c = '_') && cs.all fun c => isAsciiLetter c || isAsciiDigit c || c = '_'

end CounterExport.Metric
