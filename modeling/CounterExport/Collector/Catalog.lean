import CounterExport.Counter.Class

/-!
# The collector catalog

The catalog is closed: eleven collectors, each named by a fixed id and reading one counter
class. The proctest collector reports under the subsystem `proctest`, every other one under
`exchange`. `lookup` finds a collector by its exact id (letter case matters) and also accepts
the older spelling `auto_descover` of `auto_discover`, saying that it did.
-/

set_option autoImplicit false

namespace CounterExport.Collector

open Counter

/-- The collectors, in catalog order. -/
inductive CollectorId
  | adAccessProcs
  | transportQueues
  | databaseInstances
  | httpProxy
  | activeSync
  | availabilityService
  | owa
  | autoDiscover
  | managementWorkloads
  | rpcClientAccess
  | proctest
  deriving DecidableEq, Repr

/-- A selection named a collector the catalog does not have. -/
inductive SelectionError
  | unknownCollector (id : String)
  deriving DecidableEq, Repr

def SelectionError.message : SelectionError → String
  | .unknownCollector id => "no such collector: " ++ id

/-- The older spelling of `auto_discover`. -/
def legacyAutoDiscover : String := "auto_descover"

namespace CollectorId

/-- Every collector, in catalog order. -/
def all : List CollectorId :=
  [adAccessProcs, transportQueues, databaseInstances, httpProxy, activeSync,
    availabilityService, owa, autoDiscover, managementWorkloads, rpcClientAccess, proctest]

/-- The id of a collector. -/
def name : CollectorId → String
  | adAccessProcs => "ad_access_procs"
  | transportQueues => "transport_queues"
  | databaseInstances => "database_instances"
  | httpProxy => "http_proxy"
  | activeSync => "active_sync"
  | availabilityService => "availability_service"
  | owa => "owa"
  | autoDiscover => "auto_discover"
  | managementWorkloads => "management_workloads"
  | rpcClientAccess => "rpc_client_access"
  | proctest => "proctest"

/-- The counter class a collector reads. -/
def counterClass : CollectorId → CounterClass
  | adAccessProcs => .adAccessProcesses
  | transportQueues => .transportQueues
  | databaseInstances => .databaseInstances
  | httpProxy => .httpProxy
  | activeSync => .activeSync
  | availabilityService => .availabilityService
  | owa => .owa
  | autoDiscover => .autodiscover
  | managementWorkloads => .workloadManagement
  | rpcClientAccess => .rpcClientAccess
  | proctest => .processCounters

def className (id : CollectorId) : String := id.counterClass.className

/-- The subsystem part of the collector's metric names. -/
def subsystem : CollectorId → String
  | proctest => "proctest"
  | _ => "exchange"

/-- The description shown by the catalog listing. -/
def description (id : CollectorId) : String := "(WMI Class: " ++ id.className ++ ")"

/-- The position of a collector in the catalog. -/
def ordinal (id : CollectorId) : Nat := all.idxOf id

/-- The collector an id names, and whether the older spelling was used. -/
def lookup (s : String) : Option (CollectorId × Bool) :=
  if s = legacyAutoDiscover then some (autoDiscover, true)
  else (all.find? (·.name == s)).map (·, false)

/-- The collector an id names, or why there is none. -/
def parse (s : String) : Except SelectionError CollectorId :=
  match lookup s with
  | some (id, _) => .ok id
  | none => .error (.unknownCollector s)

end CollectorId

end CounterExport.Collector
