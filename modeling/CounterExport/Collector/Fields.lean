import CounterExport.Collector.Catalog
import CounterExport.Metric.Sample

/-!
# Field tables

Each collector exports some counters of its class as metrics: for each, the metric name (under
the collector's subsystem), the help text, whether it is a counter or a gauge, and the record
key of the counter it reads. A collector also has a row policy:

* `singleton` — the class has one meaningful row: the first row is used and the metrics have
  no labels; no row at all is an error;
* `perInstance` — one labelled set of metrics per named instance (label `name`);
* `perProcess` — one labelled set of metrics per process (labels `process`, `process_id`); no
  row at all is an error.

The transport queue length metric named `inernal_largest_delivery_queue_len` is spelled that
way on purpose: it is the published name of that metric.
-/

set_option autoImplicit false

namespace CounterExport.Collector

open CounterExport.Metric

/-- One exported counter. -/
structure FieldSpec where
  name : String
  help : String
  kind : Kind
  /-- The record key of the counter read. -/
  field : String
  deriving DecidableEq, Repr

def counterField (name help field : String) : FieldSpec := ⟨name, help, .counter, field⟩

def gaugeField (name help field : String) : FieldSpec := ⟨name, help, .gauge, field⟩

/-- How the rows of a class are filtered and labelled. -/
inductive Policy
  | singleton
  | perInstance
  | perProcess
  deriving DecidableEq, Repr

/-- The label keys of a policy. -/
def Policy.labelKeys : Policy → List String
  | .singleton => []
  | .perInstance => ["name"]
  | .perProcess => ["process", "process_id"]

namespace CollectorId

/-- The row policy of a collector. -/
def policy : CollectorId → Policy
  | adAccessProcs | transportQueues | databaseInstances | httpProxy => .perInstance
  | proctest => .perProcess
  | _ => .singleton

/-- The counters a collector exports, in order. -/
def fields : CollectorId → List FieldSpec
  | adAccessProcs => [
      counterField "ldap_read_time" "LDAP Read Time" "ldap_read_time",
      counterField "ldap_search_time" "LDAP Search Time" "ldap_search_time",
      counterField "ldap_timeout_errors_per_sec" "LDAP timeout errors per second"
        "ldap_timeout_errors_per_sec",
      counterField "long_running_ldap_operations_per_min"
        "Long Running LDAP operations per minute" "long_running_ldap_operations_per_min",
      counterField "ldap_searches_time_limit_exceeded_per_min"
        "LDAP searches time limit exceeded per minute" "ldap_searches_time_limit_exceeded_per_min"]
  | transportQueues => [
      gaugeField "external_active_remote_delivery_queue_len"
        "External Active Remote Delivery Queue length" "external_active_remote_delivery_queue_length",
      gaugeField "internal_active_remote_delivery_queue_len"
        "Internal Active Remote Delivery Queue length" "internal_active_remote_delivery_queue_length",
      gaugeField "active_mailbox_delivery_queue_len" "Active Mailbox Delivery Queue length"
        "active_mailbox_delivery_queue_length",
      gaugeField "retry_mailbox_delivery_queue_len" "Retry Mailbox Delivery Queue length"
        "retry_mailbox_delivery_queue_length",
      gaugeField "unreachable_queue_len" "Unreachable Queue length" "unreachable_queue_length",
      gaugeField "external_largest_delivery_queue_len" "External Largest Delivery Queue length"
        "external_largest_delivery_queue_length",
      gaugeField "inernal_largest_delivery_queue_len" "Internal Largest Delivery Queue length"
        "internal_largest_delivery_queue_length",
      gaugeField "poison_queue_len" "Poison Queue length" "poison_queue_length"]
  | databaseInstances => [
      counterField "io_database_reads_average_latency" "Average database read latency"
        "io_database_reads_average_latency",
      counterField "io_database_writes_average_latency" "Average database write latency"
        "io_database_writes_average_latency",
      counterField "io_log_writes_average_latency" "Average Log Writes Latency"
        "io_log_writes_average_latency",
      counterField "io_database_reads_recovery_average_latency"
        "Database reads recovery average latency" "io_database_reads_recovery_average_latency",
      counterField "io_database_writes_recovery_average_latency"
        "Database writes recovery average latency" "io_database_writes_recovery_average_latency"]
  | httpProxy => [
      counterField "mailbox_server_locator_average_latency"
        "Exchange HTTP Proxy Mailbox Server Locator latency (avg)"
        "mailbox_server_locator_average_latency",
      counterField "average_authentication_latency"
        "Exchange HTTP Proxy Authentication Latency (avg)" "average_authentication_latency",
      counterField "average_client_access_server_processing_latency"
        "Exchange HTTP Proxy Client Access Server Processing Latency (avg)"
        "average_client_access_server_processing_latency",
      counterField "mailbox_server_proxy_failure_rate"
        "Exchange HTTP Proxy Mailbox Server Proxy Failure Rate" "mailbox_server_proxy_failure_rate",
      gaugeField "outstanding_proxy_requests" "Exchange HTTP Proxy outstanding proxy requests"
        "outstanding_proxy_requests",
      counterField "proxy_requests_per_sec" "Exchange HTTP Proxy requests/s"
        "proxy_requests_per_sec"]
  | activeSync => [
      counterField "active_sync_requests_per_sec" "Active Sync requests/s" "requests_per_sec",
      gaugeField "ping_commands_pending" "Pending Active Sync ping-commands"
        "ping_commands_pending",
      counterField "sync_commands_per_sec" "Active Sync sync-commands/s" "sync_commands_per_sec"]
  | availabilityService => [
      counterField "availability_requests_per_sec"
        "Availability Service / Availability requests/s" "requests_sec"]
  | owa => [
      gaugeField "current_unique_users" "Outlook Web Access current unique users"
        "current_unique_users",
      counterField "owa_requests_per_sec" "Outlook Web Access requests/s" "requests_per_sec"]
  | autoDiscover => [
      counterField "autodiscover_requests_per_sec" "Autodiscovery requests/s" "requests_per_sec"]
  | managementWorkloads => [
      gaugeField "active_tasks" "Active Workload Management Tasks" "active_tasks",
      counterField "completed_tasks" "Completed Workload Management Tasks" "completed_tasks",
      gaugeField "queued_tasks" "Queued Workload Management Tasks" "queued_tasks"]
  | rpcClientAccess => [
      counterField "rpc_averaged_latency" "RPC Client Access averaged latency"
        "rpc_averaged_latency",
      counterField "rpc_requests" "RPC Client Access requests" "rpc_requests",
      gaugeField "active_user_count" "RPC Client Access active user count" "active_user_count",
      counterField "connection_count" "RPC Client Access connection count" "connection_count",
      counterField "rpc_operations_per_sec" "RPC Client Access operations per sec"
        "rpc_operations_per_sec",
      counterField "user_count" "RPC Client Access user count" "user_count"]
  | proctest => [
      gaugeField "io_read_bytes_persec" "IO read bytes/s" "io_read_bytes_persec",
      gaugeField "io_write_bytes_persec" "IO write bytes/s" "io_write_bytes_persec",
      gaugeField "private_bytes" "Private bytes" "private_bytes",
      gaugeField "page_faults_persec" "Page Faults/s" "page_faults_persec",
      gaugeField "thread_count" "Thread Count" "thread_count"]

end CollectorId

end CounterExport.Collector
