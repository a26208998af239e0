import CounterExport.Service.Basic
import CounterExport.Command.Program
import CounterExport.Metric.ClientCheck

/-!
# Command-line requests

`cli` runs the program on a command line, in a working directory where the given directories
exist, interrupted after the given time if any. The answer holds the exit status, whether the
run was killed for taking too long, standard output, the standard error lines and every file
left in the working directory, sorted by path.

Standard error is shown line by line. Parts of a run that vary from one run to the next are
written as placeholders: the value of a collector duration sample as `<duration>`, an elapsed
time in a log line as `<n>`, the random part of a temporary file name as `<rand>`; terminal
escape sequences and the timestamp that opens a log line are dropped.
-/

set_option autoImplicit false

namespace CounterExport.Service

open Command

/-- The metric line prefix of duration samples. -/
def durationPrefix : String := "wmi_exchange_collector_duration_seconds\x7b"

/-- A duration sample line with its value replaced. -/
def hideDuration (line : String) : String :=
  if line.startsWith durationPrefix then
    let cs := line.toList
    let keep := (cs.reverse.dropWhile (· ≠ ' ')).reverse
    String.ofList keep ++ "<duration>"
  else line

/-- Every duration value of a text replaced. -/
def hideDurations (text : String) : String := "\n".intercalate ((text.splitOn "\n").map hideDuration)

/-- Replaces, wherever `key` is followed by at least one character of `p`, those characters
with `mark`. Each step consumes a character, so the length of the text is enough fuel. -/
def hideRuns (key : List Char) (p : Char → Bool) (mark : List Char) : Nat → List Char → List Char
  | 0, cs => cs
  | _, [] => []
  | fuel + 1, c :: rest =>
    let after := (c :: rest).drop key.length
    if key.isPrefixOf (c :: rest) && (after.head?.map p) == some true then
      key ++ mark ++ hideRuns key p mark fuel (after.dropWhile p)
    else c :: hideRuns key p mark fuel rest

/-- Drops terminal escape sequences: an escape character and `[`, through the first letter
after them. -/
def dropEscapes : Nat → List Char → List Char
  | 0, cs => cs
  | _, [] => []
  | fuel + 1, '\x1b' :: '[' :: rest =>
    match rest.dropWhile (fun c => !(c.isAlpha)) with
    | _ :: after => dropEscapes fuel after
    | [] => []
  | fuel + 1, c :: rest => c :: dropEscapes fuel rest

/-- Whether the first word of a line is a timestamp: at least 20 bytes long, a `-` in its fifth
byte (after the four of the year), and `Z` (the UTC mark) at its end. -/
def isTimestamp (word : List Char) : Bool :=
  let bytes := (String.ofList word).toUTF8
  20 ≤ bytes.size && bytes[4]? == some '-'.toUInt8 && word.getLast? == some 'Z'

/-- A log line without its leading timestamp and the blanks after it. The timestamp is the
text before the first space; a line with no space has none. -/
def dropTimestamp (cs : List Char) : List Char :=
  let rest := cs.dropWhile (· ≠ ' ')
  if !rest.isEmpty && isTimestamp (cs.takeWhile (· ≠ ' ')) then rest.dropWhile Text.isBlank
  else cs

/-- A standard error line as it is shown: escape sequences dropped, then the timestamp, and
elapsed times and the random part of temporary file names replaced. -/
def showLine (line : String) : String :=
  let cs := dropEscapes line.length line.toList
  let cs := dropTimestamp cs
  let cs := hideRuns "elapsed_ms=".toList Char.isDigit "<n>".toList cs.length cs
  let cs := hideRuns ".tmp".toList Char.isAlphanum "<rand>".toList cs.length cs
  String.ofList cs

/-- The lines of a text: split at line feeds, each without a carriage return at its end, and
without the empty piece after a final line feed. -/
def splitLines (text : String) : List String :=
  let pieces := text.splitOn "\n"
  let pieces := if pieces.getLast? = some "" then pieces.dropLast else pieces
  pieces.map fun l => if l.endsWith "\r" then String.ofList l.toList.dropLast else l

/-- Inserts a file into a list sorted by path. -/
def insertByPath (f : String × String) : List (String × String) → List (String × String)
  | [] => [f]
  | g :: gs => if g.1 < f.1 then g :: insertByPath f gs else f :: g :: gs

/-- The length in bytes of the working directory's absolute path: a fresh temporary directory,
`/tmp/.tmp` and six random characters. -/
def workdirBytes : Nat := 15

/-- `{"op":"cli","args":[..],"dirs":[..],"interrupt_after_ms":n|null}`. The directories are
made first, each with the directories before it; a directory that cannot be made, or an
argument holding a zero byte, is refused before the program runs. -/
def cliRequest (req : Json) : Reply := do
  let argv ← optStrings req "args"
  let dirs ← optStrings req "dirs"
  let interrupt := optNat req "interrupt_after_ms"
  let tree ← ((FileTree.fresh workdirBytes).createEach dirs).mapError (.badInput ·.message)
  if argv.any (·.toList.contains '\x00') then throw (.badInput "nul byte found in provided data")
  let world : World := ⟨tree, interrupt, Scrape.Instant.origin⟩
  let r := runProgram Metric.clientCheck world argv
  let files := r.files.foldl (fun acc f => insertByPath (f.1, hideDurations f.2) acc) []
  pure <| Json.ofMembers [
    ("status", Json.optNat r.status), ("timed_out", .bool r.timedOut),
    ("stdout", .string (hideDurations r.stdout)),
    ("stderr", Json.strs ((splitLines (String.join (r.stderr.map (· ++ "\n")))).map showLine)),
    ("files", .array (files.map fun (p, c) => Json.strs [p, c]))]

end CounterExport.Service
