import CounterExport.Json.Basic

/-!
# Requests and answers

The library answers requests given as JSON objects, one per line, each naming its operation in
`op`. An answer is `{"ok": value}`, or `{"error": kind, "message": text}` with the extra members
some errors carry. A request that is not well formed (a field missing or of the wrong type, an
unknown operation, class or scenario) is refused with the kind `BadInput`.

This module holds the answer envelope and the readers of request fields. A field is read when
the request first needs it, so a malformed field that an earlier failure makes unneeded is
never looked at. A missing optional boolean reads as `false`, an optional count as absent
unless it is an unsigned integer, a missing optional list as `[]`, and a `null` optional
string as absent.
-/

set_option autoImplicit false

namespace CounterExport.Service

/-- Why a request has no `ok` answer. -/
structure Failure where
  kind : String
  message : String
  /-- Further members of the error object. -/
  extra : List (String × Json) := []
  deriving Repr

/-- A request that is not well formed. -/
def Failure.badInput (message : String) : Failure := ⟨"BadInput", message, []⟩

/-- The outcome of one request or step. -/
abbrev Reply := Except Failure Json

/-- The error object of a failure. -/
def Failure.toJson (f : Failure) : Json :=
  Json.ofMembers ([("error", .string f.kind), ("message", .string f.message)] ++ f.extra)

/-- The answer object: `ok` with the value, or the error object. -/
def Reply.toJson : Reply → Json
  | .ok v => Json.ofMembers [("ok", v)]
  | .error f => f.toJson

/-- A step's answer inside a list of step answers: the value itself or the error object. -/
def Reply.inline : Reply → Json
  | .ok v => v
  | .error f => f.toJson

/-- A required string field. -/
def reqString (j : Json) (k : String) : Except Failure String :=
  match j.field? k with
  | some (.string s) => .ok s
  | _ => .error (.badInput s!"missing string field {k}")

/-- An optional string field: absent or `null` is `none`. -/
def optString (j : Json) (k : String) : Except Failure (Option String) :=
  match j.field? k with
  | some (.string s) => .ok (some s)
  | some .null | none => .ok none
  | _ => .error (.badInput s!"field {k} must be a string or null")

/-- An optional boolean field, `false` when absent or `null`. -/
def optBool (j : Json) (k : String) : Except Failure Bool :=
  match j.field? k with
  | some (.bool b) => .ok b
  | some .null | none => .ok false
  | _ => .error (.badInput s!"field {k} must be a boolean")

/-- A required unsigned integer field. -/
def reqNat (j : Json) (k : String) : Except Failure Nat :=
  match j.field? k with
  | some (.number (.unsigned n)) => .ok n
  | _ => .error (.badInput s!"missing integer field {k}")

/-- An optional unsigned integer field: `none` unless it is an unsigned integer. -/
def optNat (j : Json) (k : String) : Option Nat :=
  match j.field? k with
  | some (.number (.unsigned n)) => some n
  | _ => none

/-- The strings of a list. -/
def stringsOf (k : String) : List Json → Except Failure (List String)
  | [] => .ok []
  | .string s :: rest => (stringsOf k rest).map (s :: ·)
  | _ :: _ => .error (.badInput s!"field {k} must hold strings")

/-- An optional list of strings, `[]` when absent or `null`. -/
def optStrings (j : Json) (k : String) : Except Failure (List String) :=
  match j.field? k with
  | some (.array xs) => stringsOf k xs
  | some .null | none => .ok []
  | _ => .error (.badInput s!"field {k} must hold strings")

/-- A required list field. -/
def reqArray (j : Json) (k : String) : Except Failure (List Json) :=
  match j.field? k with
  | some (.array xs) => .ok xs
  | _ => .error (.badInput s!"missing {k}")

end CounterExport.Service
