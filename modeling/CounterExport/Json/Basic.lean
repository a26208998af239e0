import CounterExport.Decimal.Binary64

/-!
# JSON values

A JSON value as a document reader hands it on. Two decisions are made when the text is read and
are visible in the value:

* a number is typed: an integer literal that fits 64 unsigned bits is `unsigned`, a negative one
  that fits 64 signed bits is `negative`, and everything else (a point, an exponent, a larger
  integer, `-0`) is a `float`;
* an object keeps its members in increasing key order with no key twice (a later duplicate
  replaces the earlier), so anyone walking the members meets them sorted.
-/

set_option autoImplicit false

namespace CounterExport

open Decimal

/-- A typed JSON number. -/
inductive Number
  | unsigned (n : Nat)
  | negative (n : Int)
  | float (x : Binary64)
  deriving DecidableEq, Repr

/-- A JSON value. -/
inductive Json
  | null
  | bool (b : Bool)
  | number (n : Number)
  | string (s : String)
  | array (items : List Json)
  | object (members : List (String × Json))
  deriving Repr

namespace Json

/-- Inserts a member into a member list kept in increasing key order, replacing a member of
the same key. -/
def insertMember (k : String) (v : Json) : List (String × Json) → List (String × Json)
  | [] => [(k, v)]
  | (k', v') :: rest =>
    if k < k' then (k, v) :: (k', v') :: rest
    else if k = k' then (k, v) :: rest
    else (k', v') :: insertMember k v rest

/-- An object from members in any order; a later duplicate replaces an earlier one. -/
def ofMembers (ms : List (String × Json)) : Json :=
  .object (ms.foldl (fun acc m => insertMember m.1 m.2 acc) [])

/-- The member named `k` of an object. -/
def field? (j : Json) (k : String) : Option Json :=
  match j with
  | .object ms => (ms.find? (fun m => m.1 == k)).map Prod.snd
  | _ => none

def str (s : String) : Json := .string s

def nat (n : Nat) : Json := .number (.unsigned n)

def strs (ss : List String) : Json := .array (ss.map Json.string)

/-- `some s` as a string, `none` as `null`. -/
def optStr : Option String → Json
  | some s => .string s
  | none => .null

/-- `some n` as a number, `none` as `null`. -/
def optNat : Option Nat → Json
  | some n => .number (.unsigned n)
  | none => .null

end Json

/-- The double a number stands for: an integer widened to the nearest double, a float as it
is. -/
def Number.toBinary64 : Number → Binary64
  | .unsigned n => Binary64.ofNat n
  | .negative n => Binary64.ofRatio true n.natAbs 1
  | .float x => x

end CounterExport
