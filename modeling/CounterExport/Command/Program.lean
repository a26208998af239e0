import CounterExport.Command.Options
import CounterExport.Command.FileTree
import CounterExport.Scrape.Exporter
import CounterExport.Scrape.Timeout
import CounterExport.Source.Scenario
import CounterExport.Metric.Exposition

/-!
# The program

`runProgram` is the whole program as a function of its command line and of the world it runs
in (`World`): which directories exist, and when (if ever) it is interrupted. Its result is what
an observer sees: the exit status, standard output, the log lines on standard error, and the
files it leaves in its working directory.

After the command line is read:

1. the log level is set: `-q` shows errors only, otherwise info, `-v` debug, `-vv` trace;
2. with `--collectors.exchange.list` the listing is printed (every name must be known) and the
   program ends, whatever else was given;
3. without `--fixture` the program ends with an error: no live source exists here; with it, the
   ready-made `typicalServer` source is used;
4. the scrape timeout is checked, the exporter built and a start line logged;
5. without `--interval` one scrape is written (to the `--output` file, replaced whole, or to
   standard output); with it, a scrape is written every interval until the program is
   interrupted, and a failed write is logged without ending the loop. Each scrape runs under a
   context made from the shutdown context with the scrape timeout as its deadline; when that
   deadline lies past every instant the clock represents, making it panics and the program
   ends there.

Time stands still at the clock reading the world gives: every scrape takes zero time. The
working directory is shown as `<dir>` and the random part of a temporary file name as `<rand>`.
-/

set_option autoImplicit false

namespace CounterExport.Command

open Collector Scrape Source CounterExport.Metric Decimal

/-- The program's version. -/
def programVersion : String := "0.1.0"

/-- The help line pairs: the option as shown, and its help. -/
def helpEntries : List (String × String) :=
  [("      --collectors.exchange.enable <LIST>",
      "Comma-separated list of collectors to use. Defaults to all of them"),
   ("      --collectors.exchange.disable <LIST>", "Comma-separated list of collectors NOT to use"),
   ("      --collectors.exchange.list",
      "List all available collectors and their description, then exit"),
   ("      --collectors.exchange.scrape-metrics",
      "Also export per-collector duration and success gauges"),
   ("      --scrape.timeout <SECS>", "Abandon the remaining collectors after this many seconds"),
   ("  -i, --interval <SECS>",
      "Scrape repeatedly with this many seconds between scrapes. Without it a single scrape is made"),
   ("  -o, --output <PATH>", "Write to this textfile (atomically replaced) instead of stdout"),
   ("  -v, --verbose...",
      "Increase logging verbosity (-v for debug, -vv for trace). Default is info level"),
   ("  -q, --quiet", "Quiet mode - only show errors"),
   ("      --fixture", "Export built-in sample data instead of querying WMI. For demos only"),
   ("  -h, --help", "Print help"),
   ("  -V, --version", "Print version")]

/-- The help text. -/
def helpText : String :=
  "Exports Exchange and process WMI counters in the Prometheus text format\n\n" ++
  "Usage: " ++ programName ++ " [OPTIONS]\n\nOptions:\n" ++
  String.join (helpEntries.map fun (o, h) => o ++ "\n          " ++ h ++ "\n")

/-- The version text. -/
def versionText : String := programName ++ " " ++ programVersion ++ "\n"

/-- The world the program runs in. -/
structure World where
  /-- The working directory and the directories made in it. -/
  tree : FileTree
  /-- When the program is interrupted, in milliseconds after it starts. -/
  interruptMs : Option Nat
  /-- The reading of the monotonic clock while the program runs. -/
  clock : Instant

/-- How long the program may run before it is killed, in milliseconds. -/
def killAfterMs : Nat := 5000

/-- What an observer sees of a run. -/
structure Observed where
  /-- The exit status; `none` when the program was killed. -/
  status : Option Nat
  timedOut : Bool
  stdout : String
  events : List Log.Event
  /-- Files written, by normalised relative path, in first-written order. -/
  files : List (String × String)
  /-- Lines written to standard error after the log, whatever the log level: a panic's
  message. -/
  trailer : List String
  deriving Repr

/-- The length of the name of a fresh temporary file: `.tmp` and six random characters. -/
def tempNameBytes : Nat := 10

/-- Writes a file whole, as a fresh temporary file in its directory renamed over it. Gives the
new files, or the error message when the temporary file cannot be made (with the path it was
to have) or the rename is refused. A path outside the working directory changes no file of it. -/
def writeTextfile (w : World) (files : List (String × String)) (path contents : String) :
    Except String (List (String × String)) :=
  let dir := parentOf path
  let dir := if dir.isEmpty then "." else dir
  if dir.startsWith "/" then .ok files
  else
    match w.tree.createIn dir tempNameBytes with
    | .error e => .error (e.message ++ " at path " ++
        Text.debugQuote ("<dir>/" ++ dir ++ "/.tmp<rand>"))
    | .ok () =>
      match w.tree.renameTarget path with
      | .error e => .error e.message
      | .ok none => .ok files
      | .ok (some f) => .ok ((files.filter (·.1 != f)) ++ [(f, contents)])

/-- The log level the options ask for. -/
def Args.level (a : Args) : Log.Level :=
  if a.quiet then .error
  else match a.verbose with
    | 0 => .info
    | 1 => .debug
    | _ => .trace

/-- How the program goes on once its options are read. -/
inductive Startup
  /-- The program ends with this output, these events and this status. -/
  | finished (stdout : String) (events : List Log.Event) (status : Nat)
  /-- The program scrapes with this exporter, after logging these events. -/
  | scraping (events : List Log.Event) (ex : Exporter)

/-- Everything the program does before its first scrape. -/
def startup (v : Validator) (args : Args) : Startup :=
  let sel := Selection.ofFlags args.enable args.disable args.list
  if sel.listOnly then
    let (events, resolved) := sel.resolve
    match resolved with
    | .ok _ => .finished sel.listing events 0
    | .error e =>
      .finished "" (events ++ [⟨.error, "invalid collector selection",
        [("error", .shown e.message)]⟩]) 1
  else if !args.fixture then
    .finished "" [⟨.error, "WMI is only available on Windows, pass --fixture to export sample data",
      []⟩] 1
  else
    let events : List Log.Event := [⟨.warn, "--fixture set, exporting built-in sample data", []⟩]
    let timeout : Except (Binary64 × DurationError) (Option Nat) := match args.scrapeTimeout with
      | none => .ok none
      | some x => ((nanosOfSeconds x).map some).mapError (x, ·)
    match timeout with
    | .error (x, e) =>
      .finished "" (events ++ [⟨.error, "invalid --scrape.timeout",
        [("value", .float x), ("error", .shown e.message)]⟩]) 1
    | .ok timeout =>
      let (built, result) :=
        Exporter.build v (typicalServer 0) ⟨sel, args.scrapeMetrics, timeout⟩
      let events := events ++ built
      match result with
      | .error e =>
        .finished "" (events ++ [⟨.error, "failed to build exporter",
          [("error", .shown e.message)]⟩]) 1
      | .ok ex =>
        let events := events ++ [⟨.info, programName ++ " " ++ programVersion ++ " starting", []⟩]
        match args.interval with
        | none => .scraping events ex
        | some secs =>
          .scraping (events ++ [⟨.info, "starting scrape loop", [("interval_secs", .nat secs)]⟩]) ex

/-- A scrape rendered as text: the events logged while scraping, then the text with the
summary, or the message of why the scrape was aborted. -/
structure Rendered where
  events : List Log.Event
  result : Except String (String × Summary)

/-- The timeline of the program's scrapes, whose contexts share the shutdown flag in `flags`:
time stands still at the world's clock reading, and nothing cancels a scrape while it runs (an
interrupt is seen between scrapes). -/
def World.timeline (w : World) (flags : Flags) : Timeline := ⟨fun _ _ => flags, fun _ => w.clock⟩

/-- Runs one scrape under `ctx` and renders it. -/
def render (ctx : Context) (tl : Timeline) (ex : Exporter) : Rendered :=
  let r := ex.collect #[#[]] ctx tl
  ⟨r.events, match r.result with
    | .error e => .error ("scrape aborted: " ++ e.message)
    | .ok s => .ok (exposition r.families, s)⟩

/-- The events after a scrape's text was written (to the file `path`, or to standard output). -/
def writtenEvents (path : Option String) (text : String) (s : Summary) : List Log.Event :=
  (match path with
    | some p => [⟨.debug, "textfile written", [("path", .shown p), ("bytes", .nat text.utf8ByteSize)]⟩]
    | none => []) ++
  [⟨.info, "scrape complete",
    [("samples", .nat s.samples), ("failed", .nat s.failed.length),
     ("cancelled", .bool s.cancelled), ("elapsed_ms", .nat 0)]⟩]

/-- The event of a scrape that could not be written out. -/
def failedEvent (message : String) : Log.Event :=
  ⟨.error, "scrape failed", [("error", .shown message)]⟩

/-- The state of a run in progress. -/
structure Progress where
  stdout : String
  events : List Log.Event
  files : List (String × String)

/-- Logs events. -/
def Progress.log (p : Progress) (es : List Log.Event) : Progress := { p with events := p.events ++ es }

/-- One scrape written out: gives the progress after it and whether it succeeded. -/
def scrapeRound (w : World) (args : Args) (ctx : Context) (ex : Exporter) (p : Progress) :
    Progress × Bool :=
  let r := render ctx (w.timeline (Context.background #[]).1) ex
  let p := p.log r.events
  match r.result with
  | .error msg => (p.log [failedEvent msg], false)
  | .ok (text, s) =>
    match args.output with
    | none => ({ p with stdout := p.stdout ++ text }.log (writtenEvents none text s), true)
    | some path =>
      match writeTextfile w p.files path text with
      | .error msg => (p.log [failedEvent ("failed to write metrics: " ++ msg)], false)
      | .ok files => ({ p with files }.log (writtenEvents (some path) text s), true)

/-- `n` scrapes written out in a row. -/
def scrapeRounds (w : World) (args : Args) (ctx : Context) (ex : Exporter) :
    Nat → Progress → Progress
  | 0, p => p
  | n + 1, p => scrapeRounds w args ctx ex n (scrapeRound w args ctx ex p).1

/-- How many scrapes an interval loop makes before it is stopped, and whether it is stopped by
an interrupt (rather than killed). A scrape starts at once and then after every interval. -/
def loopRounds (intervalSecs : Nat) (interruptMs : Option Nat) : Nat × Bool :=
  let (stopAt, interrupted) := match interruptMs with
    | some t => if t < killAfterMs then (t, true) else (killAfterMs, false)
    | none => (killAfterMs, false)
  if intervalSecs = 0 then (1, interrupted)
  else (max 1 ((stopAt + intervalSecs * 1000 - 1) / (intervalSecs * 1000)), interrupted)

/-- The events logged when the interval loop is interrupted. -/
def shutdownEvents : List Log.Event :=
  [⟨.info, "Received shutdown signal", []⟩, ⟨.info, "Shutdown complete", []⟩]

/-- What the program writes to standard error when a deadline cannot be represented: the
panic in the addition of a duration to an instant, raised where the scrape context is made,
with its short backtrace. -/
def deadlinePanicLines : List String :=
  ["",
   "thread 'main' (3) panicked at /root/workspace/src/crates/wmi-exchange-core/src/context.rs:40:28:",
   "overflow when adding duration to instant",
   "stack backtrace:",
   "   0: __rustc::rust_begin_unwind",
   "   1: core::panicking::panic_fmt",
   "   2: core::option::expect_failed",
   "   3: <std::time::Instant as core::ops::arith::Add<core::time::Duration>>::add",
   "   4: <wmi_exchange_core::exporter::Exporter>::scrape_context_from",
   "   5: wmi_exchange_exporter::main",
   "note: Some details are omitted, run with `RUST_BACKTRACE=full` for a verbose backtrace."]

/-- The exit status of a program that panics. -/
def panicStatus : Nat := 101

/-- Runs the program on parsed options. Every scrape makes its context from the shutdown
context at the same clock reading, so the first one panics if any does. -/
def runParsed (v : Validator) (w : World) (args : Args) : Observed :=
  match startup v args with
  | .finished out events status => ⟨some status, false, out, events, [], []⟩
  | .scraping events ex =>
    match ex.scrapeContextFrom w.clock (Context.background #[]).2 with
    | none => ⟨some panicStatus, false, "", events, [], deadlinePanicLines⟩
    | some ctx =>
      let p : Progress := ⟨"", events, []⟩
      match args.interval with
      | none =>
        let (p, ok) := scrapeRound w args ctx ex p
        ⟨some (if ok then 0 else 1), false, p.stdout, p.events, p.files, []⟩
      | some secs =>
        let (n, interrupted) := loopRounds secs w.interruptMs
        let p := scrapeRounds w args ctx ex n p
        if interrupted then ⟨some 0, false, p.stdout, p.events ++ shutdownEvents, p.files, []⟩
        else ⟨none, true, p.stdout, p.events, p.files, []⟩

/-- What is seen of a whole run: the standard error lines are the usage error, or the log
lines the level lets through. -/
structure Run where
  status : Option Nat
  timedOut : Bool
  stdout : String
  stderr : List String
  files : List (String × String)
  deriving Repr

/-- The lines of a text, without the empty one after a final line break. -/
def textLines (s : String) : List String :=
  let ls := s.splitOn "\n"
  if ls.getLast? = some "" then ls.dropLast else ls

/-- Runs the program on a command line. -/
def runProgram (v : Validator) (w : World) (argv : List String) : Run :=
  match parseCommandLine argv with
  | .help => ⟨some 0, false, helpText, [], []⟩
  | .version => ⟨some 0, false, versionText, [], []⟩
  | .usageError text => ⟨some 2, false, "", textLines text, []⟩
  | .run args =>
    let o := runParsed v w args
    ⟨o.status, o.timedOut, o.stdout,
      (o.events.filter (·.level.shownUnder args.level)).map (·.line) ++ o.trailer, o.files⟩

end CounterExport.Command
