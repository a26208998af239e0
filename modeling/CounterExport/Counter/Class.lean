/-!
# Counter classes

A counter class is one kind of row a counter source returns. Each class has the name it is
queried by (`Win32_PerfRawData_...`), a short type name (`Owa`), and its properties in
declaration order. A property has the record key it is kept under (`requests_per_sec`), the
name it is read from in a document (`RequestsPerSec`), possibly a second accepted spelling
(`RequestsPersec`), and a type: the optional instance name, or a raw counter of 64 or 32
unsigned bits.

A row keeps the instance name apart and the counters as record keys with values, in
declaration order. A row read from a document starts from the class's default row (no name,
every counter zero) and only changes what the document sets.
-/

set_option autoImplicit false

namespace CounterExport.Counter

/-- The type of a property. -/
inductive PropType
  /-- The instance name: a string, or absent. -/
  | text
  /-- A raw counter of 64 unsigned bits. -/
  | u64
  /-- A raw counter of 32 unsigned bits. -/
  | u32
  deriving DecidableEq, Repr

/-- One property of a counter class. -/
structure Property where
  /-- The record key. -/
  field : String
  /-- The name read from a document. -/
  primary : String
  /-- A second spelling read from a document. -/
  alternate : Option String
  type : PropType
  deriving DecidableEq, Repr

/-- The instance name property, present in the named classes. -/
def nameProperty : Property := ⟨"name", "Name", none, .text⟩

/-- A 64-bit counter read from one document name. -/
def counter (field primary : String) : Property := ⟨field, primary, none, .u64⟩

/-- A 64-bit counter with a second accepted spelling. -/
def counterOr (field primary alternate : String) : Property := ⟨field, primary, some alternate, .u64⟩

/-- The counter classes. -/
inductive CounterClass
  | adAccessProcesses
  | transportQueues
  | databaseInstances
  | httpProxy
  | activeSync
  | availabilityService
  | owa
  | autodiscover
  | workloadManagement
  | rpcClientAccess
  | processCounters
  deriving DecidableEq, Repr

namespace CounterClass

/-- Every class. -/
def all : List CounterClass :=
  [adAccessProcesses, transportQueues, databaseInstances, httpProxy, activeSync,
    availabilityService, owa, autodiscover, workloadManagement, rpcClientAccess,
    processCounters]

/-- The short type name of a class, as requests name it and as decoding errors quote it. -/
def typeName : CounterClass → String
  | adAccessProcesses => "AdAccessProcesses"
  | transportQueues => "TransportQueues"
  | databaseInstances => "DatabaseInstances"
  | httpProxy => "HttpProxy"
  | activeSync => "ActiveSync"
  | availabilityService => "AvailabilityService"
  | owa => "Owa"
  | autodiscover => "Autodiscover"
  | workloadManagement => "WorkloadManagement"
  | rpcClientAccess => "RpcClientAccess"
  | processCounters => "ProcessCounters"

/-- The name a class is queried by. -/
def className : CounterClass → String
  | adAccessProcesses => "Win32_PerfRawData_MSExchangeADAccess_MSExchangeADAccessProcesses"
  | transportQueues => "Win32_PerfRawData_MSExchangeTransportQueues_MSExchangeTransportQueues"
  | databaseInstances => "Win32_PerfRawData_ESE_MSExchangeDatabaseInstances"
  | httpProxy => "Win32_PerfRawData_MSExchangeHttpProxy_MSExchangeHttpProxy"
  | activeSync => "Win32_PerfRawData_MSExchangeActiveSync_MSExchangeActiveSync"
  | availabilityService =>
    "Win32_PerfRawData_MSExchangeAvailabilityService_MSExchangeAvailabilityService"
  | owa => "Win32_PerfRawData_MSExchangeOWA_MSExchangeOWA"
  | autodiscover => "Win32_PerfRawData_MSExchangeAutodiscover_MSExchangeAutodiscover"
  | workloadManagement =>
    "Win32_PerfRawData_MSExchangeWorkloadManagementWorkloads_MSExchangeWorkloadManagementWorkloads"
  | rpcClientAccess => "Win32_PerfRawData_MSExchangeRpcClientAccess_MSExchangeRpcClientAccess"
  | processCounters => "Win32_PerfRawData_PerfProc_Process"

/-- The query that reads every row of a class. -/
def queryString (c : CounterClass) : String := "SELECT * FROM " ++ c.className

/-- The properties of a class, in declaration order. -/
def properties : CounterClass → List Property
  | adAccessProcesses => [nameProperty,
      counter "ldap_read_time" "LDAPReadTime",
      counter "ldap_search_time" "LDAPSearchTime",
      counterOr "ldap_timeout_errors_per_sec" "LDAPTimeoutErrorsPerSec" "LDAPTimeoutErrorsPersec",
      counterOr "long_running_ldap_operations_per_min" "LongRunningLDAPOperationsPerMin"
        "LongRunningLDAPOperationsPermin",
      counterOr "ldap_searches_time_limit_exceeded_per_min"
        "LDAPSearchesTimeLimitExceededPerMinute" "LDAPSearchesTimeLimitExceededperMinute"]
  | transportQueues => [nameProperty,
      counter "external_active_remote_delivery_queue_length"
        "ExternalActiveRemoteDeliveryQueueLength",
      counter "internal_active_remote_delivery_queue_length"
        "InternalActiveRemoteDeliveryQueueLength",
      counter "active_mailbox_delivery_queue_length" "ActiveMailboxDeliveryQueueLength",
      counter "retry_mailbox_delivery_queue_length" "RetryMailboxDeliveryQueueLength",
      counter "unreachable_queue_length" "UnreachableQueueLength",
      counter "external_largest_delivery_queue_length" "ExternalLargestDeliveryQueueLength",
      counter "internal_largest_delivery_queue_length" "InternalLargestDeliveryQueueLength",
      counter "poison_queue_length" "PoisonQueueLength"]
  | databaseInstances => [nameProperty,
      counter "io_database_reads_average_latency" "IODatabaseReadsAverageLatency",
      counter "io_database_writes_average_latency" "IODatabaseWritesAverageLatency",
      counter "io_log_writes_average_latency" "IOLogWritesAverageLatency",
      counter "io_database_reads_recovery_average_latency"
        "IODatabaseReadsRecoveryAverageLatency",
      counter "io_database_writes_recovery_average_latency"
        "IODatabaseWritesRecoveryAverageLatency"]
  | httpProxy => [nameProperty,
      counter "mailbox_server_locator_average_latency" "MailboxServerLocatorAverageLatency",
      counter "average_authentication_latency" "AverageAuthenticationLatency",
      counter "average_client_access_server_processing_latency"
        "AverageClientAccessServerProcessingLatency",
      counter "mailbox_server_proxy_failure_rate" "MailboxServerProxyFailureRate",
      counter "outstanding_proxy_requests" "OutstandingProxyRequests",
      counterOr "proxy_requests_per_sec" "ProxyRequestsPerSec" "ProxyRequestsPersec"]
  | activeSync => [
      counterOr "requests_per_sec" "RequestsPerSec" "RequestsPersec",
      counter "requests_total" "RequestsTotal",
      counter "ping_commands_pending" "PingCommandsPending",
      counterOr "sync_commands_per_sec" "SyncCommandsPerSec" "SyncCommandsPersec"]
  | availabilityService => [
      counterOr "requests_sec" "RequestsSec" "AvailabilityRequestssec"]
  | owa => [
      counter "current_unique_users" "CurrentUniqueUsers",
      counterOr "requests_per_sec" "RequestsPerSec" "RequestsPersec"]
  | autodiscover => [
      counterOr "requests_per_sec" "RequestsPerSec" "RequestsPersec"]
  | workloadManagement => [nameProperty,
      counter "active_tasks" "ActiveTasks",
      counter "completed_tasks" "CompletedTasks",
      counter "queued_tasks" "QueuedTasks"]
  | rpcClientAccess => [
      counter "rpc_averaged_latency" "RPCAveragedLatency",
      counter "rpc_requests" "RPCRequests",
      counter "active_user_count" "ActiveUserCount",
      counter "connection_count" "ConnectionCount",
      counterOr "rpc_operations_per_sec" "RPCOperationsPerSec" "RPCOperationsPersec",
      counter "user_count" "UserCount"]
  | processCounters => [nameProperty,
      ⟨"id_process", "IDProcess", none, .u32⟩,
      counterOr "io_read_bytes_persec" "IOReadBytesPersec" "IOReadBytesPerSec",
      counterOr "io_write_bytes_persec" "IOWriteBytesPersec" "IOWriteBytesPerSec",
      counter "private_bytes" "PrivateBytes",
      counterOr "page_faults_persec" "PageFaultsPersec" "PageFaultsPerSec",
      counter "thread_count" "ThreadCount"]

/-- Whether the rows of a class carry an instance name. -/
def named (c : CounterClass) : Bool := c.properties.any (·.type == .text)

/-- Whether the rows of a class carry the id of the process they describe. -/
def perProcess (c : CounterClass) : Bool := c == processCounters

/-- The class of a type name. -/
def ofTypeName? (s : String) : Option CounterClass := all.find? (·.typeName == s)

end CounterClass

/-- One row of a counter class: the instance name and the counters by record key, in
declaration order. -/
structure Row where
  name : Option String
  counts : List (String × Nat)
  deriving DecidableEq, Repr

namespace Row

/-- The counter under a record key, zero when the row has none. -/
def count (r : Row) (key : String) : Nat := (r.counts.lookup key).getD 0

/-- Sets the counter under a record key. -/
def setCount (r : Row) (key : String) (v : Nat) : Row :=
  { r with counts := r.counts.map fun (k, x) => if k = key then (k, v) else (k, x) }

end Row

/-- The default row of a class: no name, every counter zero. -/
def CounterClass.defaultRow (c : CounterClass) : Row :=
  ⟨none, (c.properties.filter (·.type != .text)).map (·.field, 0)⟩

/-- The instance name of a row, for the classes that have one. -/
def Row.instanceName (c : CounterClass) (r : Row) : Option String :=
  if c.named then r.name else none

/-- The process id of a row, for the per-process class. -/
def Row.processId (c : CounterClass) (r : Row) : Option Nat :=
  if c.perProcess then some (r.count "id_process") else none

end CounterExport.Counter
