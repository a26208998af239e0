import CounterExport.Collector.Catalog
import CounterExport.Log.Event
import CounterExport.Text.Blank

/-!
# Collector selection

A selection names the collectors to run (`enabled`, in the order given; by default the whole
catalog), the collectors not to run (`disabled`) and whether only the catalog listing is
wanted. From command-line flags each list is split at commas, each entry trimmed of blanks and
empty entries dropped.

`Selection.resolve` turns the names into the active collectors: every name in `enabled`, then
every name in `disabled`, must be known (the first unknown one is refused); the active list is
the enabled collectors in order, without the disabled ones and without repeats. A name given in
the older spelling logs a warning when it is resolved, so the warnings of the names before an
unknown one are still logged.

`Selection.isEnabled` asks the same question of one collector without refusing anything:
unknown names are ignored. The listing marks each catalog entry by it.
-/

set_option autoImplicit false

namespace CounterExport.Collector

/-- Which collectors to run. -/
structure Selection where
  enabled : List String
  disabled : List String
  listOnly : Bool
  deriving DecidableEq, Repr

/-- The entries of a comma separated list: the text split at every comma, each piece trimmed,
empty ones dropped. -/
def splitList (s : String) : List String :=
  ((s.toList.splitOn ',').map fun piece => Text.trim (String.ofList piece)).filter (· ≠ "")

namespace Selection

/-- The whole catalog, nothing disabled. -/
def default : Selection := ⟨CollectorId.all.map (·.name), [], false⟩

/-- A selection from the command-line flags; a missing `enable` keeps the whole catalog. -/
def ofFlags (enable disable : Option String) (listOnly : Bool) : Selection :=
  { enabled := (enable.map splitList).getD default.enabled,
    disabled := (disable.map splitList).getD [],
    listOnly }

end Selection

/-- The warning logged for a name in the older spelling. -/
def aliasWarning (name : String) (id : CollectorId) : Log.Event :=
  ⟨.warn, "deprecated collector name, use the canonical one",
    [("alias", .text name), ("collector", .text id.name)]⟩

/-- Resolves names in order, stopping at the first unknown one; gives the warnings logged on
the way. -/
def resolveNames : List String → List Log.Event × Except SelectionError (List CollectorId)
  | [] => ([], .ok [])
  | s :: rest =>
    match CollectorId.lookup s with
    | none => ([], .error (.unknownCollector s))
    | some (id, legacy) =>
      let (events, result) := resolveNames rest
      ((if legacy then [aliasWarning s id] else []) ++ events, result.map (id :: ·))

/-- The enabled collectors in order, without the disabled ones and without repeats. -/
def activeIds (disabled : List CollectorId) : List CollectorId → List CollectorId → List CollectorId
  | acc, [] => acc.reverse
  | acc, id :: rest =>
    if id ∈ disabled ∨ id ∈ acc then activeIds disabled acc rest
    else activeIds disabled (id :: acc) rest

namespace Selection

/-- The active collectors, with the warnings logged while resolving. -/
def resolve (sel : Selection) : List Log.Event × Except SelectionError (List CollectorId) :=
  let (e1, r1) := resolveNames sel.enabled
  match r1 with
  | .error e => (e1, .error e)
  | .ok enabled =>
    let (e2, r2) := resolveNames sel.disabled
    match r2 with
    | .error e => (e1 ++ e2, .error e)
    | .ok disabled => (e1 ++ e2, .ok (activeIds disabled [] enabled))

/-- Whether some name of the list names the collector. -/
def names (list : List String) (id : CollectorId) : Bool :=
  list.any fun s => (CollectorId.lookup s).map Prod.fst == some id

/-- Whether a collector is named in `enabled` and not in `disabled`. -/
def isEnabled (sel : Selection) (id : CollectorId) : Bool :=
  names sel.enabled id && !names sel.disabled id

end Selection

/-- `s` followed by blanks up to `width` characters. -/
def padRight (s : String) (width : Nat) : String :=
  s ++ String.ofList (List.replicate (width - s.length) ' ')

def markerEnabled : String := "\x1b[32m => "
def markerDisabled : String := "\x1b[31m => "
def colorReset : String := "\x1b[0m"

/-- One line of the listing. -/
def listingLine (sel : Selection) (id : CollectorId) : String :=
  padRight (if sel.isEnabled id then markerEnabled else markerDisabled) 15 ++ " " ++
    padRight id.name 32 ++ " " ++ id.description ++ colorReset ++ "\n"

/-- The catalog listing: one line per collector, in catalog order. -/
def Selection.listing (sel : Selection) : String :=
  String.join (CollectorId.all.map (listingLine sel))

end CounterExport.Collector
