import CounterExport.Text.EscapeTables
import CounterExport.Text.Lowercase

/-!
# Quoting text for debugging output

`debugQuote s` writes `s` between double quotes so that the result reads back as the same
string literal and shows every invisible character:

* the tab, carriage return, line feed, NUL, backslash and double quote get their short escapes
  (`\t`, `\r`, `\n`, `\0`, `\\`, `\"`);
* a character that extends a grapheme, or that is not printable (see `unprintableRanges`), is
  written as `\u{...}` with its code point in lowercase hexadecimal, no leading zeros;
* every other character, non-ASCII included, is written as itself.

The same quoting is used wherever a log line or an error message shows a string value.
-/

set_option autoImplicit false

namespace CounterExport.Text

/-- The lowercase hexadecimal digits of `n`, without leading zeros. -/
def hexText (n : Nat) : String := String.ofList (Nat.toDigits 16 n)

/-- Whether a character is written as a `\u{...}` escape. -/
def needsUnicodeEscape (c : Char) : Bool :=
  inRanges graphemeExtendRanges c.toNat || inRanges unprintableRanges c.toNat

/-- The quoted form of one character inside a string. -/
def debugChar (c : Char) : String :=
  if c = '\t' then "\\t"
  else if c = '\r' then "\\r"
  else if c = '\n' then "\\n"
  else if c = '\x00' then "\\0"
  else if c = '\\' then "\\\\"
  else if c = '"' then "\\\""
  else if c.toNat < 0x7F && 0x20 ≤ c.toNat then c.toString
  else if needsUnicodeEscape c then "\\u\x7b" ++ hexText c.toNat ++ "\x7d"
  else c.toString

/-- A string between double quotes, escaped for debugging output. -/
def debugQuote (s : String) : String :=
  "\"" ++ String.join (s.toList.map debugChar) ++ "\""

end CounterExport.Text
