import CounterExport.Counter.Class
import CounterExport.Json.Basic
import CounterExport.Decimal.Layout
import CounterExport.Text.Debug

/-!
# Reading rows from documents

`decodeRow c j` reads a row of class `c` from a JSON value, starting from the class's default
row:

* an object sets the properties its keys name, by primary name or by the alternate spelling;
  keys are visited in increasing order (`Json` keeps them so), keys that name no property are
  skipped, and a property named a second time (by its other spelling) is refused as a
  duplicate under its primary name;
* an array sets the properties in declaration order, one item each; missing trailing items
  leave the default, and more items than properties are refused after the items that fit have
  been read;
* anything else is refused as not a record.

A counter takes an unsigned integer that fits its width; the instance name takes a string or
`null` (absent). The error messages name what was found and what was expected, with a float
written by `Layout.message` and a string quoted by `debugQuote`.
-/

set_option autoImplicit false

namespace CounterExport.Counter

open Decimal

/-- What a document held where something else was expected. -/
inductive Unexpected
  | null
  | bool (b : Bool)
  | unsigned (n : Nat)
  | signed (n : Int)
  | float (x : Binary64)
  | string (s : String)
  | sequence
  | map
  deriving DecidableEq, Repr

/-- How an error message names what was found. -/
def Unexpected.describe : Unexpected → String
  | .null => "null"
  | .bool b => "boolean `" ++ toString b ++ "`"
  | .unsigned n => "integer `" ++ toString n ++ "`"
  | .signed n => "integer `" ++ toString n ++ "`"
  | .float x => "floating point `" ++ Layout.message.render x ++ "`"
  | .string s => "string " ++ Text.debugQuote s
  | .sequence => "sequence"
  | .map => "map"

/-- What a JSON value is, as an error message names it. -/
def Unexpected.ofJson : Json → Unexpected
  | .null => .null
  | .bool b => .bool b
  | .number (.unsigned n) => .unsigned n
  | .number (.negative n) => .signed n
  | .number (.float x) => .float x
  | .string s => .string s
  | .array _ => .sequence
  | .object _ => .map

/-- What was expected instead. -/
inductive Expected
  | u64
  | u32
  | text
  | record (typeName : String)
  deriving DecidableEq, Repr

def Expected.describe : Expected → String
  | .u64 => "u64"
  | .u32 => "u32"
  | .text => "a string"
  | .record t => "struct " ++ t

/-- Why a row could not be read. -/
inductive RowError
  /-- A value of the wrong kind. -/
  | invalidType (found : Unexpected) (expected : Expected)
  /-- A value of the right kind out of range. -/
  | invalidValue (found : Unexpected) (expected : Expected)
  /-- A property set twice, named by its primary name. -/
  | duplicateField (primary : String)
  /-- An array with more items than the class has properties. -/
  | invalidLength (length : Nat)
  deriving DecidableEq, Repr

def RowError.message : RowError → String
  | .invalidType u e => "invalid type: " ++ u.describe ++ ", expected " ++ e.describe
  | .invalidValue u e => "invalid value: " ++ u.describe ++ ", expected " ++ e.describe
  | .duplicateField p => "duplicate field `" ++ p ++ "`"
  | .invalidLength n => "invalid length " ++ toString n ++ ", expected fewer elements in array"

/-- The largest unsigned 32-bit value. -/
def u32Max : Nat := 4294967295

/-- A counter of the given width. -/
def decodeCount (expected : Expected) (limit : Option Nat) : Json → Except RowError Nat
  | .number (.unsigned n) =>
    match limit with
    | some m => if n > m then .error (.invalidValue (.unsigned n) expected) else .ok n
    | none => .ok n
  | .number (.negative n) => .error (.invalidValue (.signed n) expected)
  | j => .error (.invalidType (.ofJson j) expected)

/-- An instance name: a string, or `null` for none. -/
def decodeName : Json → Except RowError (Option String)
  | .null => .ok none
  | .string s => .ok (some s)
  | j => .error (.invalidType (.ofJson j) .text)

/-- Sets one property of a row from a JSON value. -/
def Row.decodeProperty (r : Row) (p : Property) (j : Json) : Except RowError Row :=
  match p.type with
  | .text => (decodeName j).map fun n => { r with name := n }
  | .u64 => (decodeCount .u64 none j).map (r.setCount p.field)
  | .u32 => (decodeCount .u32 (some u32Max) j).map (r.setCount p.field)

/-- Whether a document key names a property. -/
def Property.answers (p : Property) (k : String) : Bool := p.primary == k || p.alternate == some k

/-- Object members in key order; `seen` holds the record keys already set. -/
def decodeMembers (props : List Property) (seen : List String) (r : Row) :
    List (String × Json) → Except RowError Row
  | [] => .ok r
  | (k, v) :: rest =>
    match props.find? (·.answers k) with
    | none => decodeMembers props seen r rest
    | some p =>
      if p.field ∈ seen then .error (.duplicateField p.primary)
      else match r.decodeProperty p v with
        | .error e => .error e
        | .ok r2 => decodeMembers props (p.field :: seen) r2 rest

/-- Array items against properties in declaration order, as far as both go. -/
def decodeItems (r : Row) : List Property → List Json → Except RowError Row
  | p :: ps, j :: js =>
    match r.decodeProperty p j with
    | .error e => .error e
    | .ok r2 => decodeItems r2 ps js
  | _, _ => .ok r

/-- Reads a row of class `c`. -/
def decodeRow (c : CounterClass) : Json → Except RowError Row
  | .object members => decodeMembers c.properties [] c.defaultRow members
  | .array items => do
    let r ← decodeItems c.defaultRow c.properties items
    if items.length > c.properties.length then throw (.invalidLength items.length) else pure r
  | j => .error (.invalidType (.ofJson j) (.record c.typeName))

/-- Reads every row of a list, or gives the index of the first that fails with its error. -/
def decodeRows (c : CounterClass) : List Json → Except (Nat × RowError) (List Row)
  | [] => .ok []
  | j :: js =>
    match decodeRow c j, decodeRows c js with
    | .error e, _ => .error (0, e)
    | .ok _, .error (i, e) => .error (i + 1, e)
    | .ok r, .ok rs => .ok (r :: rs)

end CounterExport.Counter
