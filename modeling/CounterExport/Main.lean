import CounterExport.Command.Program
import CounterExport.Metric.ClientCheck

/-!
# The command line

`main` runs the program against the real world. Everything it decides comes from the pure
program (`parseCommandLine`, `startup`, `render`, `writtenEvents`); this layer only does what
a function cannot:

* it prints the help, the version, a usage error or the scrape text, and the log lines the level
  lets through on standard error;
* it replaces the output file whole: the text goes to a fresh file beside it, which is then
  renamed over it, so a reader never sees half a scrape;
* with `--interval` it scrapes, sleeps for the interval, and goes on until it is stopped.
-/

set_option autoImplicit false

namespace CounterExport.Command

open Scrape

/-- Prints the events the level lets through, one line each, on standard error. -/
def emit (level : Log.Level) (events : List Log.Event) : IO Unit := do
  let err ← IO.getStderr
  for e in events do
    if e.level.shownUnder level then err.putStrLn e.line
  err.flush

/-- Replaces the file at `path` whole with `text`, through a fresh file in the same directory
renamed over it. Gives the error message when that fails. -/
def replaceFile (path text : String) : IO (Except String Unit) := do
  let dir := parentOf path
  let dir := if dir.isEmpty then "." else dir
  let nonce ← IO.rand 100000 999999
  let fresh := dir ++ "/.tmp" ++ toString nonce
  try
    IO.FS.writeFile fresh text
    IO.FS.rename fresh path
    pure (.ok ())
  catch e =>
    pure (.error (toString e))

/-- One scrape written out, its events logged. Gives whether it succeeded. -/
def scrapeOnce (args : Args) (ctx : Context) (tl : Timeline) (ex : Exporter) : IO Bool := do
  let r := render ctx tl ex
  emit args.level r.events
  match r.result with
  | .error msg =>
    emit args.level [failedEvent msg]
    pure false
  | .ok (text, s) =>
    match args.output with
    | none =>
      let out ← IO.getStdout
      out.putStr text
      out.flush
      emit args.level (writtenEvents none text s)
      pure true
    | some path =>
      match ← replaceFile path text with
      | .error msg =>
        emit args.level [failedEvent ("failed to write metrics: " ++ msg)]
        pure false
      | .ok () =>
        emit args.level (writtenEvents (some path) text s)
        pure true

/-- Scrapes every `secs` seconds until the program is stopped. -/
partial def scrapeLoop (args : Args) (ctx : Context) (tl : Timeline) (ex : Exporter)
    (secs : Nat) : IO Unit := do
  let _ ← scrapeOnce args ctx tl ex
  IO.sleep (secs * 1000).toUInt32
  scrapeLoop args ctx tl ex secs

end CounterExport.Command

open CounterExport.Command CounterExport.Scrape

/-- Runs the program on its command line. -/
def main (argv : List String) : IO UInt32 := do
  match parseCommandLine argv with
  | .help =>
    IO.print helpText
    pure 0
  | .version =>
    IO.print versionText
    pure 0
  | .usageError text =>
    IO.eprint text
    pure 2
  | .run args =>
    match startup CounterExport.Metric.clientCheck args with
    | .finished out events status =>
      IO.print out
      emit args.level events
      pure status.toUInt32
    | .scraping events ex =>
      emit args.level events
      -- the clock is read as its origin, and the scrapes share the shutdown flag
      let bg := Context.background #[]
      match ex.scrapeContextFrom Instant.origin bg.2 with
      | none =>
        IO.eprintln ("\n".intercalate deadlinePanicLines)
        pure panicStatus.toUInt32
      | some ctx =>
        let tl : Timeline := ⟨fun _ _ => bg.1, fun _ => Instant.origin⟩
        match args.interval with
        | none =>
          let ok ← scrapeOnce args ctx tl ex
          pure (if ok then 0 else 1)
        | some secs =>
          scrapeLoop args ctx tl ex secs
          pure 0
