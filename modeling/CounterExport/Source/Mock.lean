import CounterExport.Counter.Class
import CounterExport.Text.Debug

/-!
# An in-memory counter source

A source answers a query for a counter class from a table kept under the class's name: the rows
set for a class, or a failure every query of that class gives. Rows are kept with the class they
were set for, and a query reads them only as rows of its own class: rows of another class under
the same name fail to parse. A name with no table fails as a class that is not installed (a
transport error naming the class). A query made under a cancelled context fails as cancelled
without being issued; every issued query text is recorded in the source's query log.

Clones of a source share one query log but not the tables: a source names its log by number in
`Logs`, and a clone copies the number.
-/

set_option autoImplicit false

namespace CounterExport.Source

open Counter

/-- Why a source could not answer. -/
inductive SourceError
  | cancelled
  | transport (message : String)
  | parse (message : String)
  deriving DecidableEq, Repr

def SourceError.message : SourceError → String
  | .cancelled => "scrape cancelled"
  | .transport m => "transport error: " ++ m
  | .parse m => "parse error: " ++ m

/-- The name of the kind of failure. -/
def SourceError.kindName : SourceError → String
  | .cancelled => "Cancelled"
  | .transport _ => "Transport"
  | .parse _ => "Parse"

/-- A failed query of a class. -/
structure QueryError where
  counterClass : CounterClass
  cause : SourceError
  deriving DecidableEq, Repr

def QueryError.message (e : QueryError) : String :=
  "WMI query error: " ++ e.cause.message ++ " (Class: " ++ e.counterClass.className ++ ")"

/-- What a query of a class gives: rows, kept with the class they were set for, or a failure. -/
inductive Table
  | rows (c : CounterClass) (rs : List Row)
  | failure (e : SourceError)
  deriving DecidableEq, Repr

/-- The query logs of all sources, each a list of query strings in issue order. -/
abbrev Logs := Array (Array String)

/-- Appends a query string to log `i`. -/
def Logs.record (logs : Logs) (i : Nat) (q : String) : Logs := logs.modify i (·.push q)

/-- The queries of log `i`, in issue order. -/
def Logs.entries (logs : Logs) (i : Nat) : List String := (logs.getD i #[]).toList

/-- A fresh empty log: the grown store and the new log's number. -/
def Logs.fresh (logs : Logs) : Logs × Nat := (logs.push #[], logs.size)

end CounterExport.Source

namespace CounterExport

open Counter Source

/-- An in-memory source: its tables by class name, each name at most once, and the number of
its log. -/
structure Source where
  tables : List (String × Table)
  log : Nat
  deriving DecidableEq, Repr

namespace Source

/-- An empty source writing to log `log`. -/
def empty (log : Nat) : Source := ⟨[], log⟩

/-- The table under a class name. -/
def table? (s : Source) (name : String) : Option Table := s.tables.lookup name

/-- Replaces the table under a class name (or adds it). -/
def setTable (s : Source) (name : String) (t : Table) : Source :=
  { s with tables := (s.tables.filter (·.1 != name)) ++ [(name, t)] }

def setRows (s : Source) (c : CounterClass) (rs : List Row) : Source :=
  s.setTable c.className (.rows c rs)

def setFailure (s : Source) (c : CounterClass) (e : SourceError) : Source :=
  s.setTable c.className (.failure e)

/-- Removes the table of a class, so that a query of it fails as an unknown class. -/
def removeClass (s : Source) (c : CounterClass) : Source :=
  { s with tables := s.tables.filter (·.1 != c.className) }

/-- Inserts a string into a list kept in increasing order. -/
def insertSorted (x : String) : List String → List String
  | [] => [x]
  | y :: ys => if y < x then y :: insertSorted x ys else x :: y :: ys

/-- The debugging text of a source: the names of the classes it has a table for, sorted. -/
def debugText (s : Source) : String :=
  let names := s.tables.foldr (fun t acc => insertSorted t.1 acc) []
  "MockSource \x7b classes: [" ++ ", ".intercalate (names.map Text.debugQuote) ++ "] \x7d"

/-- Answers the query text `q` for rows of class `c`. Under a cancelled context nothing is
issued; otherwise `q` is logged and the table under the class's name answers. -/
def issue (logs : Logs) (s : Source) (cancelled : Bool) (c : CounterClass) (q : String) :
    Logs × Except SourceError (List Row) :=
  if cancelled then (logs, .error .cancelled)
  else
    let logs := logs.record s.log q
    match s.table? c.className with
    | some (.rows c' rs) =>
      if c' = c then (logs, .ok rs)
      else (logs, .error (.parse ("rows registered for " ++ c.className ++
        " have a different record shape")))
    | some (.failure e) => (logs, .error e)
    | none => (logs, .error (.transport ("Invalid class \"" ++ c.className ++ "\"")))

/-- An issued query text is logged in the source's log; a cancelled one leaves the logs. -/
theorem issue_fst (logs : Logs) (s : Source) (cancelled : Bool) (c : CounterClass) (q : String) :
    (s.issue logs cancelled c q).1 = if cancelled then logs else logs.record s.log q := by
  unfold issue
  cases cancelled
  · simp only [Bool.false_eq_true, if_false]
    split
    · split <;> rfl
    · rfl
    · rfl
  · rfl

/-- The answer depends neither on the logs nor on the query text. -/
theorem issue_snd (logs logs' : Logs) (s : Source) (cancelled : Bool) (c : CounterClass)
    (q q' : String) : (s.issue logs cancelled c q).2 = (s.issue logs' cancelled c q').2 := by
  unfold issue
  cases cancelled
  · simp only [Bool.false_eq_true, if_false]
    split
    · split <;> rfl
    · rfl
    · rfl
  · rfl

/-- Queries every row of class `c`, with the query text that selects them all. -/
def query (logs : Logs) (s : Source) (cancelled : Bool) (c : CounterClass) :
    Logs × Except SourceError (List Row) :=
  s.issue logs cancelled c c.queryString

end Source

end CounterExport
