import CounterExport.Json.Basic
import CounterExport.Decimal.Layout

/-!
# Writing JSON text

`Json.render` writes a value on one line with no blanks. A string escapes the quote, the
backslash and every control character (the usual short escapes where there is one, `\u00XX`
otherwise); any other character, non-ASCII included, is written as itself. A float is written
with `Layout.message`, and a float that is not finite as `null`.
-/

set_option autoImplicit false

namespace CounterExport.Json

open Decimal

/-- The four lowercase hexadecimal digits of `n < 65536`. -/
def hexDigits (n : Nat) : String :=
  let d := fun (k : Nat) => "0123456789abcdef".toList.getD ((n / Nat.pow 16 k) % 16) '0'
  String.ofList [d 3, d 2, d 1, d 0]

/-- One character inside a string literal. -/
def escapeChar (c : Char) : String :=
  if c = '"' then "\\\""
  else if c = '\\' then "\\\\"
  else if c = '\n' then "\\n"
  else if c = '\r' then "\\r"
  else if c = '\t' then "\\t"
  else if c = '\x08' then "\\b"
  else if c = '\x0c' then "\\f"
  else if c.toNat < 0x20 then "\\u" ++ hexDigits c.toNat
  else c.toString

/-- A string literal. -/
def quote (s : String) : String :=
  "\"" ++ String.join (s.toList.map escapeChar) ++ "\""

end Json

/-- A number. -/
def Number.render : Number → String
  | .unsigned n => Decimal.digitText n
  | .negative n => toString n
  | .float x => if x.isFinite then Decimal.Layout.message.render x else "null"

namespace Json

mutual

/-- The text of a value. -/
def render : Json → String
  | .null => "null"
  | .bool b => if b then "true" else "false"
  | .number n => n.render
  | .string s => quote s
  | .array items => "[" ++ renderItems items ++ "]"
  | .object members => "\x7b" ++ renderMembers members ++ "\x7d"

/-- Array items, comma separated. -/
def renderItems : List Json → String
  | [] => ""
  | [j] => render j
  | j :: rest => render j ++ "," ++ renderItems rest

/-- Object members, comma separated. -/
def renderMembers : List (String × Json) → String
  | [] => ""
  | [(k, j)] => quote k ++ ":" ++ render j
  | (k, j) :: rest => quote k ++ ":" ++ render j ++ "," ++ renderMembers rest

end

end CounterExport.Json
