import CounterExport.Command.Similarity
import CounterExport.Decimal.Reading

/-!
# The command line

The program takes options only (no positional argument):

* value options: `--collectors.exchange.enable <LIST>`, `--collectors.exchange.disable <LIST>`,
  `--scrape.timeout <SECS>` (a float), `-i, --interval <SECS>` (an unsigned integer),
  `-o, --output <PATH>` (not empty);
* flags: `--collectors.exchange.list`, `--collectors.exchange.scrape-metrics`, `-q, --quiet`,
  `--fixture`, and `-v, --verbose` which counts its repetitions;
* `-h, --help` and `-V, --version`, which end parsing at once and print the help or version.

Arguments are read left to right. A long option takes its value after `=` or as the next
argument; a short option takes the rest of its argument (after an optional `=`) or the next
argument, and several short flags may share one argument. After `--` every argument is
positional, and so refused. A value option given without a value waits for the next argument;
it is checked (value present, not given before, value well formed) only when the next option
is met or the arguments end, so an unknown argument found in between is reported instead.

A usage error is reported as a text of lines, the first starting with `error: `, the last
pointing at `--help`; some errors show a usage line built from the options seen so far.
-/

set_option autoImplicit false

namespace CounterExport.Command

open Decimal

/-- The options of the program, in declaration order. -/
inductive OptionId
  | enable
  | disable
  | list
  | scrapeMetrics
  | scrapeTimeout
  | interval
  | output
  | verbose
  | quiet
  | fixture
  | help
  | version
  deriving DecidableEq, Repr

/-- What an option does when given. -/
inductive Action
  /-- Takes one value, at most once. -/
  | value (name : String)
  /-- A switch, at most once. -/
  | flag
  /-- Counts repetitions. -/
  | count
  | help
  | version
  deriving DecidableEq, Repr

namespace OptionId

def all : List OptionId :=
  [enable, disable, list, scrapeMetrics, scrapeTimeout, interval, output, verbose, quiet,
    fixture, help, version]

def long : OptionId → String
  | enable => "collectors.exchange.enable"
  | disable => "collectors.exchange.disable"
  | list => "collectors.exchange.list"
  | scrapeMetrics => "collectors.exchange.scrape-metrics"
  | scrapeTimeout => "scrape.timeout"
  | interval => "interval"
  | output => "output"
  | verbose => "verbose"
  | quiet => "quiet"
  | fixture => "fixture"
  | help => "help"
  | version => "version"

def short : OptionId → Option Char
  | interval => some 'i'
  | output => some 'o'
  | verbose => some 'v'
  | quiet => some 'q'
  | help => some 'h'
  | version => some 'V'
  | _ => none

def action : OptionId → Action
  | enable | disable => .value "LIST"
  | scrapeTimeout | interval => .value "SECS"
  | output => .value "PATH"
  | verbose => .count
  | help => .help
  | version => .version
  | _ => .flag

def takesValue (o : OptionId) : Bool :=
  match o.action with
  | .value _ => true
  | _ => false

/-- How error messages name an option: `--output <PATH>`, `--verbose...`, `--quiet`. -/
def display (o : OptionId) : String :=
  "--" ++ o.long ++
    match o.action with
    | .value n => " <" ++ n ++ ">"
    | .count => "..."
    | _ => ""

def ofLong? (s : String) : Option OptionId := all.find? (·.long == s)

def ofShort? (c : Char) : Option OptionId := all.find? (·.short == some c)

end OptionId

/-- The parsed command line. -/
structure Args where
  enable : Option String := none
  disable : Option String := none
  list : Bool := false
  scrapeMetrics : Bool := false
  scrapeTimeout : Option Binary64 := none
  interval : Option Nat := none
  output : Option String := none
  verbose : Nat := 0
  quiet : Bool := false
  fixture : Bool := false
  deriving Repr

/-- How parsing ended. -/
inductive Parsed
  | run (args : Args)
  | help
  | version
  /-- A usage error, with its whole text. -/
  | usageError (text : String)
  deriving Repr

/-- The state of parsing between arguments. -/
structure ParseState where
  args : Args
  /-- Options given so far, in the order first seen. -/
  seen : List OptionId
  /-- A value option met but not yet checked, with its value if one followed. -/
  pending : Option (OptionId × Option String)
  /-- `--` was given. -/
  trailing : Bool

/-- How parsing stops early. -/
inductive Stop
  | help
  | version
  | error (text : String)

/-- The name of the program. -/
def programName : String := "wmi-exchange-exporter"

/-- The end of every usage error. -/
def tryHelp : String := "\n\nFor more information, try '--help'.\n"

/-- The program's own options, which form one group: all but help and version. -/
def groupMembers : List OptionId := OptionId.all.filter fun o => o != .help && o != .version

/-- The group as one usage element: its members between angle brackets, split by bars. -/
def groupText : String := "<" ++ "|".intercalate (groupMembers.map (·.display)) ++ ">"

/-- What a usage line shows. -/
inductive Usage
  /-- Every option, as `[OPTIONS]`. -/
  | general
  /-- These options; when `group` holds, the members of the group are shown as the group,
  after the other options. -/
  | listing (used : List OptionId) (group : Bool)

/-- The usage line; a listing of no option is the general line. -/
def Usage.line : Usage → String
  | .general | .listing [] _ => "Usage: " ++ programName ++ " [OPTIONS]"
  | .listing used false => "Usage: " ++ programName ++ String.join (used.map (" " ++ ·.display))
  | .listing used true =>
    "Usage: " ++ programName ++
      String.join ((used.filter (· ∉ groupMembers)).map (" " ++ ·.display)) ++ " " ++ groupText

/-- A usage error with a message and an optional usage line. -/
def usageError (message : String) (usage : Option Usage) : Stop :=
  .error ("error: " ++ message ++ (match usage with
    | some u => "\n\n" ++ u.line
    | none => "") ++ tryHelp)

/-- The error of a value option with no value. -/
def emptyValue (o : OptionId) : Stop :=
  usageError ("a value is required for '" ++ o.display ++ "' but none was supplied") none

/-- The error of a value that does not parse. -/
def invalidValue (o : OptionId) (v reason : String) : Stop :=
  usageError ("invalid value '" ++ v ++ "' for '" ++ o.display ++ "': " ++ reason) none

/-- The error of an unknown argument. -/
def unexpectedArgument (arg : String) (tip : Option String) (usage : Usage) : Stop :=
  .error ("error: unexpected argument '" ++ arg ++ "' found" ++
    (match tip with
      | some t => "\n\n  tip: a similar argument exists: '" ++ t ++ "'"
      | none => "") ++
    "\n\n" ++ usage.line ++ tryHelp)

/-- Stores a checked value of an option. -/
def Args.setValue (a : Args) (o : OptionId) (v : String) : Except Stop Args :=
  match o with
  | .enable => .ok { a with enable := some v }
  | .disable => .ok { a with disable := some v }
  | .scrapeTimeout =>
    match readFloat v with
    | .ok x => .ok { a with scrapeTimeout := some x }
    | .error e => .error (invalidValue o v e.message)
  | .interval =>
    match readUnsigned v with
    | .ok n => .ok { a with interval := some n }
    | .error e => .error (invalidValue o v e.message)
  | .output => if v.isEmpty then .error (emptyValue o) else .ok { a with output := some v }
  | _ => .ok a

/-- Sets a flag. -/
def Args.setFlag (a : Args) : OptionId → Args
  | .list => { a with list := true }
  | .scrapeMetrics => { a with scrapeMetrics := true }
  | .quiet => { a with quiet := true }
  | .fixture => { a with fixture := true }
  | .verbose => { a with verbose := a.verbose + 1 }
  | _ => a

namespace ParseState

def initial : ParseState := ⟨{}, [], none, false⟩

/-- Records that an option was given. A counted option moves to the end of the order each time
it is given again. -/
def note (st : ParseState) (o : OptionId) : ParseState :=
  if o ∈ st.seen then st else { st with seen := st.seen ++ [o] }

/-- Applies an option with its values: refuses a repeated option and a missing or malformed
value, stops at help and version. -/
def apply (st : ParseState) (o : OptionId) (value : Option String) : Except Stop ParseState :=
  match o.action, value with
  | .help, _ => .error .help
  | .version, _ => .error .version
  | .value _, none => .error (emptyValue o)
  | .value _, some v =>
    if o ∈ st.seen then
      .error (usageError ("the argument '" ++ o.display ++ "' cannot be used multiple times")
        (some .general))
    else (st.args.setValue o v).map fun a => { st.note o with args := a }
  | .count, _ => .ok { st with seen := st.seen.erase o ++ [o], args := st.args.setFlag o }
  | .flag, _ =>
    if o ∈ st.seen then
      .error (usageError ("the argument '" ++ o.display ++ "' cannot be used multiple times")
        (some .general))
    else .ok { st.note o with args := st.args.setFlag o }

/-- Checks the pending option, if any. -/
def resolve (st : ParseState) : Except Stop ParseState :=
  match st.pending with
  | none => .ok st
  | some (o, v) => { st with pending := none }.apply o v

/-- The state the pending option leaves behind before an unknown argument is reported, where
its own error is not. An option that got no value leaves no trace; a repeated one is dropped
from the options given; one whose value does not read counts as given, without its value. -/
def resolveQuietly (st : ParseState) : ParseState :=
  match st.pending with
  | none => st
  | some (_, none) => { st with pending := none }
  | some (o, some v) =>
    if o ∈ st.seen then { st with seen := st.seen.erase o, pending := none }
    else
      let st1 := { st.note o with pending := none }
      match st.args.setValue o v with
      | .ok a => { st1 with args := a }
      | .error _ => st1

/-- Applies an option met now: the pending option is checked first. -/
def react (st : ParseState) (o : OptionId) (value : Option String) : Except Stop ParseState := do
  let st1 ← st.resolve
  st1.apply o value

/-- Whether the pending option still waits for its value. -/
def awaiting (st : ParseState) : Bool :=
  match st.pending with
  | some (_, none) => true
  | _ => false

end ParseState

/-- Splits `name=value` at the first `=`. -/
def splitAtEquals (s : String) : String × Option String :=
  match s.toList.idxOf? '=' with
  | some i => (String.ofList (s.toList.take i), some (String.ofList (s.toList.drop (i + 1))))
  | none => (s, none)

/-- A long option argument (without its leading `--`). -/
def longArgument (st : ParseState) (body : String) : Except Stop ParseState :=
  let (name, value) := splitAtEquals body
  match OptionId.ofLong? name with
  | none =>
    let st1 := st.resolveQuietly
    let tip := mostSimilar name ((OptionId.all.map (·.long)))
    let used := match tip.bind OptionId.ofLong? with
      | some o => (st1.note o).seen
      | none => st1.seen
    .error (unexpectedArgument ("--" ++ name) (tip.map ("--" ++ ·)) (.listing used false))
  | some o =>
    if o.takesValue then
      match value with
      | some v => st.react o (some v)
      | none => do
        let st1 ← st.resolve
        pure { st1 with pending := some (o, none) }
    else
      match value with
      | some v =>
        .error (usageError ("unexpected value '" ++ v ++ "' for '" ++ o.display ++
          "' found; no more were expected") (some (.listing (st.seen ++ [o]) !st.seen.isEmpty)))
      | none => st.react o none

/-- The flags of a short option argument (without its leading `-`), in order. -/
def shortFlags (st : ParseState) : List Char → Except Stop ParseState
  | [] => .ok st
  | c :: rest =>
    match OptionId.ofShort? c with
    | none => .error (unexpectedArgument ("-" ++ c.toString) none .general)
    | some o =>
      if o.takesValue then
        match rest with
        | [] => do
          let st1 ← st.resolve
          pure { st1 with pending := some (o, none) }
        | '=' :: v => st.react o (some (String.ofList v))
        | v => st.react o (some (String.ofList v))
      else do
        let st1 ← st.react o none
        shortFlags st1 rest

/-- Reads the arguments in order. -/
def parseFrom (st : ParseState) : List String → Except Stop ParseState
  | [] => st.resolve
  | a :: rest =>
    if st.trailing then .error (unexpectedArgument a none .general)
    else if a = "--" then parseFrom { st with trailing := true } rest
    else if a.startsWith "--" then
      match longArgument st (String.ofList (a.toList.drop 2)) with
      | .error e => .error e
      | .ok st1 => parseFrom st1 rest
    else if a.startsWith "-" ∧ a ≠ "-" then
      match shortFlags st (a.toList.drop 1) with
      | .error e => .error e
      | .ok st1 => parseFrom st1 rest
    else if st.awaiting then
      match st.pending with
      | some (o, _) => parseFrom { st with pending := some (o, some a) } rest
      | none => parseFrom st rest
    else .error (unexpectedArgument a none .general)

/-- Parses a command line (without the program name). -/
def parseCommandLine (argv : List String) : Parsed :=
  match parseFrom ParseState.initial argv with
  | .ok st => .run st.args
  | .error .help => .help
  | .error .version => .version
  | .error (.error text) => .usageError text

end CounterExport.Command
