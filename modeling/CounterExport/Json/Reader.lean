import CounterExport.Json.Basic
import CounterExport.Decimal.Reading

/-!
# Reading JSON text

`Json.parse` reads one JSON value, with blanks (space, tab, line feed, carriage return) around
it and nothing else. Strings take the escapes of the standard, `\u` escapes joining surrogate
pairs. Numbers are typed as `Number` says; a float literal is turned into a double the way
`Decimal.scaleByPowerOfTen` does it, after collecting at most as many significand digits as fit
64 unsigned bits:

* integer digits that no longer fit are not added to the significand but raise the exponent;
* fraction digits are added while they fit, lowering the exponent; the first one that does not
  fit ends the significand, and the rest are skipped;
* an exponent is read up to the first digit that takes it past the largest signed 32-bit value;
  such an exponent gives zero when it is negative or the significand is zero, and is out of
  range otherwise.

Arrays and objects nest at most 127 deep inside one another. A text that is not a document is
refused with a `SyntaxError` and the place where reading stopped, given as a line and a column
counted in bytes: either the last byte read, or the next one when the reader stopped before a
character it looked at.

Reading is total: every step consumes text, and a fuel of one more than the length of the text
bounds the nesting.
-/

set_option autoImplicit false

namespace CounterExport.Json

open Decimal

/-- The largest unsigned 64-bit value. -/
def u64Max : Nat := 18446744073709551615

/-- The largest signed 32-bit value. -/
def i32Max : Nat := 2147483647

/-- How many arrays and objects may be open at once, plus one. -/
def nestingRoom : Nat := 128

/-- Why a text is not a JSON document. -/
inductive SyntaxError
  | eofInList
  | eofInObject
  | eofInString
  | eofInValue
  | expectedColon
  | expectedListCommaOrEnd
  | expectedObjectCommaOrEnd
  | expectedIdent
  | expectedValue
  | invalidEscape
  | invalidNumber
  | numberOutOfRange
  | controlCharacter
  | keyMustBeString
  | loneSurrogate
  | trailingComma
  | trailingCharacters
  | unexpectedEndOfHexEscape
  | recursionLimit
  deriving DecidableEq, Repr

def SyntaxError.message : SyntaxError → String
  | .eofInList => "EOF while parsing a list"
  | .eofInObject => "EOF while parsing an object"
  | .eofInString => "EOF while parsing a string"
  | .eofInValue => "EOF while parsing a value"
  | .expectedColon => "expected `:`"
  | .expectedListCommaOrEnd => "expected `,` or `]`"
  | .expectedObjectCommaOrEnd => "expected `,` or `\x7d`"
  | .expectedIdent => "expected ident"
  | .expectedValue => "expected value"
  | .invalidEscape => "invalid escape"
  | .invalidNumber => "invalid number"
  | .numberOutOfRange => "number out of range"
  | .controlCharacter => "control character (\\u0000-\\u001F) found while parsing a string"
  | .keyMustBeString => "key must be a string"
  | .loneSurrogate => "lone leading surrogate in hex escape"
  | .trailingComma => "trailing comma"
  | .trailingCharacters => "trailing characters"
  | .unexpectedEndOfHexEscape => "unexpected end of hex escape"
  | .recursionLimit => "recursion limit exceeded"

/-- Where reading stopped: the error, the text not consumed at that point, and how many bytes
of that text count as read (one when the reader stopped at a character it looked at, four
inside a hex escape). -/
structure Fault where
  error : SyntaxError
  rest : List Char
  ahead : Nat
  deriving Repr

/-- A reader of a prefix of the text: the value and the text after it. -/
abbrev Reading (α : Type) := Except Fault (α × List Char)

/-- The number of bytes of the characters. -/
def bytesOf (cs : List Char) : Nat := cs.foldl (fun n c => n + c.utf8Size) 0

/-- Blanks between tokens. -/
def isSpace (c : Char) : Bool := c = ' ' || c = '\t' || c = '\n' || c = '\r'

def skipSpace (cs : List Char) : List Char := cs.dropWhile isSpace

/-- The value of a hexadecimal digit. -/
def hexValue (c : Char) : Option Nat :=
  if '0' ≤ c && c ≤ '9' then some (c.toNat - '0'.toNat)
  else if 'a' ≤ c && c ≤ 'f' then some (c.toNat - 'a'.toNat + 10)
  else if 'A' ≤ c && c ≤ 'F' then some (c.toNat - 'A'.toNat + 10)
  else none

/-- The four bytes of a hex escape. Fewer than four bytes left end the string early; four bytes
that are not all hexadecimal digits are an invalid escape, reported after them. -/
def hexEscape (cs : List Char) : Reading Nat :=
  let refused : Fault :=
    if bytesOf cs ≥ 4 then ⟨.invalidEscape, cs, 4⟩ else ⟨.eofInString, [], 0⟩
  match cs with
  | a :: b :: c :: d :: rest =>
    match hexValue a, hexValue b, hexValue c, hexValue d with
    | some a, some b, some c, some d => .ok (((a * 16 + b) * 16 + c) * 16 + d, rest)
    | _, _, _, _ => .error refused
  | _ => .error refused

/-- The character of a `\u` escape, after the `u`. A leading surrogate must be followed at once
by the escape of a trailing one; a trailing surrogate alone is refused. -/
def unicodeEscape (cs : List Char) : Except Fault (Char × List Char) := do
  let (n, r) ← hexEscape cs
  if 0xDC00 ≤ n ∧ n ≤ 0xDFFF then throw ⟨.loneSurrogate, r, 0⟩
  else if n < 0xD800 ∨ 0xDBFF < n then pure (Char.ofNat n, r)
  else
    match r with
    | [] => throw ⟨.eofInString, [], 0⟩
    | '\\' :: r1 =>
      match r1 with
      | [] => throw ⟨.eofInString, [], 0⟩
      | 'u' :: r2 =>
        let (lo, r3) ← hexEscape r2
        if lo < 0xDC00 ∨ 0xDFFF < lo then throw ⟨.loneSurrogate, r3, 0⟩
        else pure (Char.ofNat (0x10000 + (n - 0xD800) * 0x400 + (lo - 0xDC00)), r3)
      | _ :: _ => throw ⟨.unexpectedEndOfHexEscape, r1, 1⟩
    | _ :: _ => throw ⟨.unexpectedEndOfHexEscape, r, 1⟩

/-- The character of a one-letter escape. -/
def shortEscape : Char → Option Char
  | '"' => some '"'
  | '\\' => some '\\'
  | '/' => some '/'
  | 'b' => some '\x08'
  | 'f' => some '\x0c'
  | 'n' => some '\n'
  | 'r' => some '\r'
  | 't' => some '\t'
  | _ => none

/-- The rest of a string literal after the opening quote: its characters (reversed onto `acc`)
and the text after the closing quote. Control characters must be escaped. Each step consumes
text, so a fuel of the text's length suffices. -/
def readString : Nat → List Char → List Char → Reading String
  | _, [], _ => .error ⟨.eofInString, [], 0⟩
  | 0, cs, _ => .error ⟨.eofInString, cs, 0⟩
  | _ + 1, '"' :: rest, acc => .ok (String.ofList acc.reverse, rest)
  | fuel + 1, '\\' :: rest, acc =>
    match rest with
    | [] => .error ⟨.eofInString, [], 0⟩
    | e :: r =>
      match shortEscape e with
      | some c => readString fuel r (c :: acc)
      | none =>
        if e = 'u' then
          match unicodeEscape r with
          | .error f => .error f
          | .ok (c, r1) => readString fuel r1 (c :: acc)
        else .error ⟨.invalidEscape, r, 0⟩
  | fuel + 1, c :: rest, acc =>
    if c.toNat < 0x20 then .error ⟨.controlCharacter, rest, 0⟩
    else readString fuel rest (c :: acc)

/-- Whether `10 * s + d` no longer fits 64 unsigned bits. -/
def overflows (s d : Nat) : Bool := 10 * s + d > u64Max

/-- Fraction digits added to the significand while they fit; the first that does not fit ends
it and the remaining digits are dropped. Gives the significand and the exponent change. -/
def fractionDigits : List Char → Nat → Int → Nat × Int
  | [], s, e => (s, e)
  | c :: cs, s, e =>
    let d := c.toNat - '0'.toNat
    if overflows s d then (s, e) else fractionDigits cs (10 * s + d) (e - 1)

/-- Integer digits added to the significand while they fit; from the first that does not fit
on, each digit raises the exponent instead. Gives the significand and whether some digit did
not fit, with the exponent it raised. -/
def integerDigits : List Char → Nat → Nat × Option Nat
  | [], s => (s, none)
  | c :: cs, s =>
    let d := c.toNat - '0'.toNat
    if overflows s d then (s, some (c :: cs).length) else integerDigits cs (10 * s + d)

/-- The double of a float literal from its significand and exponent; `none` when it is out of
range. -/
def floatOf (negative : Bool) (s : Nat) (e : Int) : Option Number :=
  (scaleByPowerOfTen negative s e).map Number.float

/-- The digits of an exponent, read while the exponent stays within 32 signed bits: its value
and the text after it, or (`Except.error`) the text after the digit that took it past. -/
def exponentDigits : List Char → Nat → Except (List Char) (Nat × List Char)
  | [], e => .ok (e, [])
  | c :: cs, e =>
    if isDigit c then
      let e' := 10 * e + (c.toNat - '0'.toNat)
      if e' > i32Max then .error cs else exponentDigits cs e'
    else .ok (e, c :: cs)

/-- What follows the digits and fraction of a number literal. -/
inductive ExponentPart
  /-- No exponent was written. -/
  | none
  /-- An exponent of this sign and value. -/
  | given (negative : Bool) (value : Nat)
  /-- An exponent too large for 32 signed bits that makes the number zero. -/
  | vanishing

/-- A number literal from its parts: sign, integer digits, fraction digits (if a point was
written) and exponent. `none` when it is out of range. -/
def Number.ofParts (negative : Bool) (whole : List Char) (frac : Option (List Char))
    (exp : ExponentPart) : Option Number :=
  let (s0, raised) := integerDigits whole 0
  let e0 : Int := raised.getD 0
  let (s, e1) := match frac with
    | some fs => fractionDigits fs s0 e0
    | none => (s0, e0)
  match exp with
  | .vanishing => some (.float (Binary64.signedZero negative))
  | .given expNegative v => floatOf negative s (if expNegative then e1 - v else e1 + v)
  | .none =>
    if frac.isSome ∨ raised.isSome then floatOf negative s e1
    else if !negative then some (.unsigned s)
    else if s = 0 ∨ s > 9223372036854775808 then some (.float (Binary64.ofNat s).neg)
    else some (.negative (-(s : Int)))

/-- The significand a number literal collects (as `Number.ofParts` does), to tell whether it
is zero. -/
def significandOf (whole : List Char) (frac : Option (List Char)) : Nat :=
  let (s0, raised) := integerDigits whole 0
  match frac with
  | some fs => (fractionDigits fs s0 (raised.getD 0)).1
  | none => s0

/-- The fraction part after the integer digits, if a point follows them; a point must be
followed by a digit. -/
def readFraction (cs : List Char) : Reading (Option (List Char)) :=
  match cs with
  | '.' :: r =>
    let fs := r.takeWhile isDigit
    if fs.isEmpty then
      match r with
      | [] => .error ⟨.eofInValue, [], 1⟩
      | _ :: _ => .error ⟨.invalidNumber, r, 1⟩
    else .ok (some fs, r.dropWhile isDigit)
  | r => .ok (none, r)

/-- The exponent part, if `e` or `E` follows; `significand` is the significand collected so far,
which decides what an exponent too large for 32 signed bits means. -/
def readExponent (significand : Nat) (cs : List Char) : Reading ExponentPart :=
  match cs with
  | c :: r =>
    if c = 'e' ∨ c = 'E' then
      let (negative, r) := match r with
        | '+' :: r' => (false, r')
        | '-' :: r' => (true, r')
        | r' => (false, r')
      match r with
      | [] => .error ⟨.eofInValue, [], 0⟩
      | d :: r' =>
        if !isDigit d then .error ⟨.invalidNumber, r', 0⟩
        else
          match exponentDigits (d :: r') 0 with
          | .ok (v, after) => .ok (.given negative v, after)
          | .error after =>
            if significand ≠ 0 ∧ !negative then .error ⟨.numberOutOfRange, after, 0⟩
            else .ok (.vanishing, after.dropWhile isDigit)
    else .ok (.none, c :: r)
  | [] => .ok (.none, [])

/-- A number literal at the head of the text (after an optional minus sign). -/
def readNumber (cs : List Char) : Except Fault (Number × List Char) :=
  let (negative, body) := match cs with
    | '-' :: r => (true, r)
    | r => (false, r)
  match body with
  | [] => .error ⟨.eofInValue, [], 0⟩
  | c :: r =>
    if !isDigit c then .error ⟨.invalidNumber, r, 0⟩
    else if c = '0' ∧ (r.head?.map isDigit) = some true then .error ⟨.invalidNumber, r, 1⟩
    else do
      let whole := (c :: r).takeWhile isDigit
      let (frac, rest) ← readFraction ((c :: r).dropWhile isDigit)
      let (exp, rest) ← readExponent (significandOf whole frac) rest
      match Number.ofParts negative whole frac exp with
      | some n => pure (n, rest)
      | none => throw ⟨.numberOutOfRange, rest, 0⟩

/-- The rest of a literal word (`null`, `true`, `false`) after its first letter. -/
def readWord (w : List Char) (v : Json) (cs : List Char) : Reading Json :=
  match w, cs with
  | [], cs => .ok (v, cs)
  | _ :: _, [] => .error ⟨.eofInValue, [], 0⟩
  | x :: w, c :: cs => if x = c then readWord w v cs else .error ⟨.expectedIdent, cs, 0⟩

mutual

/-- One value at the head of the text (blanks before it skipped); `room` is how many more
arrays and objects may open, plus one. -/
def readValue : Nat → Nat → List Char → Reading Json
  | 0, _, cs => .error ⟨.recursionLimit, cs, 1⟩
  | fuel + 1, room, cs =>
    match skipSpace cs with
    | [] => .error ⟨.eofInValue, [], 1⟩
    | c :: rest =>
      if c = '\x7b' then
        if room ≤ 1 then .error ⟨.recursionLimit, c :: rest, 1⟩
        else readMembers fuel (room - 1) true rest []
      else if c = '[' then
        if room ≤ 1 then .error ⟨.recursionLimit, c :: rest, 1⟩
        else readItems fuel (room - 1) true rest []
      else if c = '"' then (readString rest.length rest []).map fun (s, r) => (.string s, r)
      else if c = 'n' then readWord ['u', 'l', 'l'] .null rest
      else if c = 't' then readWord ['r', 'u', 'e'] (.bool true) rest
      else if c = 'f' then readWord ['a', 'l', 's', 'e'] (.bool false) rest
      else if c = '-' || isDigit c then (readNumber (c :: rest)).map fun (n, r) => (.number n, r)
      else .error ⟨.expectedValue, c :: rest, 1⟩

/-- The items of an array after `[`, collected in reverse; `first` until an item was read. -/
def readItems : Nat → Nat → Bool → List Char → List Json → Reading Json
  | 0, _, _, cs, _ => .error ⟨.recursionLimit, cs, 1⟩
  | fuel + 1, room, first, cs, acc =>
    match skipSpace cs with
    | ']' :: rest => .ok (.array acc.reverse, rest)
    | [] => .error ⟨.eofInList, [], 1⟩
    | c :: rest =>
      let next : Except Fault (List Char) :=
        if c = ',' ∧ !first then .ok (skipSpace rest)
        else if first then .ok (c :: rest)
        else .error ⟨.expectedListCommaOrEnd, c :: rest, 1⟩
      match next with
      | .error f => .error f
      | .ok item =>
        match item with
        | ']' :: _ => .error ⟨.trailingComma, item, 1⟩
        | [] => .error ⟨.eofInValue, [], 1⟩
        | _ :: _ =>
          match readValue fuel room item with
          | .error f => .error f
          | .ok (v, r) => readItems fuel room false r (v :: acc)

/-- The members of an object after its opening brace, collected in reverse; `first` until a
member was read. -/
def readMembers : Nat → Nat → Bool → List Char → List (String × Json) → Reading Json
  | 0, _, _, cs, _ => .error ⟨.recursionLimit, cs, 1⟩
  | fuel + 1, room, first, cs, acc =>
    match skipSpace cs with
    | '\x7d' :: rest => .ok (ofMembers acc.reverse, rest)
    | [] => .error ⟨.eofInObject, [], 1⟩
    | c :: rest =>
      let next : Except Fault (List Char) :=
        if c = ',' ∧ !first then .ok (skipSpace rest)
        else if first then .ok (c :: rest)
        else .error ⟨.expectedObjectCommaOrEnd, c :: rest, 1⟩
      match next with
      | .error f => .error f
      | .ok member =>
        match member with
        | '"' :: r =>
          match readString r.length r [] with
          | .error f => .error f
          | .ok (k, r1) =>
            match skipSpace r1 with
            | ':' :: r2 =>
              match readValue fuel room r2 with
              | .error f => .error f
              | .ok (v, r3) => readMembers fuel room false r3 ((k, v) :: acc)
            | [] => .error ⟨.eofInObject, [], 1⟩
            | r2 => .error ⟨.expectedColon, r2, 1⟩
        | '\x7d' :: _ => .error ⟨.trailingComma, member, 1⟩
        | [] => .error ⟨.eofInValue, [], 1⟩
        | _ :: _ => .error ⟨.keyMustBeString, member, 1⟩

end

/-- The line and column (in bytes, counted from one; zero right after a line feed) of the
place where reading of `cs` stopped. -/
def Fault.place (f : Fault) (cs : List Char) : Nat × Nat :=
  let total := bytesOf cs
  let index := min total (total - bytesOf f.rest + f.ahead)
  let rec scan (fuel : Nat) (line lineStart offset : Nat) : List Char → Nat × Nat
    | [] => (line, index - lineStart)
    | c :: rest =>
      match fuel with
      | 0 => (line, index - lineStart)
      | fuel + 1 =>
        if offset ≥ index then (line, index - lineStart)
        else if c = '\n' then scan fuel (line + 1) (offset + 1) (offset + 1) rest
        else scan fuel line lineStart (offset + c.utf8Size) rest
  scan cs.length 1 0 0 cs

/-- The text of a refusal: the error, then its line and column. -/
def Fault.describe (f : Fault) (cs : List Char) : String :=
  let (line, column) := f.place cs
  f.error.message ++ " at line " ++ toString line ++ " column " ++ toString column

/-- Reads a whole text as one JSON value. -/
def parse (s : String) : Except String Json :=
  let cs := s.toList
  match readValue (cs.length + 1) nestingRoom cs with
  | .error f => .error (f.describe cs)
  | .ok (v, rest) =>
    let rest := skipSpace rest
    if rest.isEmpty then .ok v else .error (Fault.describe ⟨.trailingCharacters, rest, 1⟩ cs)

end CounterExport.Json
