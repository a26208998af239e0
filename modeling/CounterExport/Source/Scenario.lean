import CounterExport.Source.Mock

/-!
# Ready-made sources

Two sources with fixed contents:

* `typicalServer` — a mailbox server with every class of the catalog populated; the
  per-instance classes carry the aggregate `_Total` row as the counter service reports it;
* `plainHost` — a host without the mail server installed: only the process class exists.
-/

set_option autoImplicit false

namespace CounterExport.Source

open Counter

/-- A row of class `c`: the default row with the given name and counters set. -/
def rowOf (c : CounterClass) (name : Option String) (counts : List (String × Nat)) : Row :=
  counts.foldl (fun r kv => r.setCount kv.1 kv.2) { c.defaultRow with name }

/-- Every class of the catalog populated. -/
def typicalServer (log : Nat) : Source :=
  (Source.empty log)
  |>.setRows .adAccessProcesses [
    rowOf .adAccessProcesses (some "MSExchangeTransport")
      [("ldap_read_time", 12), ("ldap_search_time", 31), ("ldap_timeout_errors_per_sec", 0),
       ("long_running_ldap_operations_per_min", 1), ("ldap_searches_time_limit_exceeded_per_min", 0)],
    rowOf .adAccessProcesses (some "w3wp MSExchangeOWAAppPool")
      [("ldap_read_time", 8), ("ldap_search_time", 17), ("ldap_timeout_errors_per_sec", 2),
       ("long_running_ldap_operations_per_min", 0), ("ldap_searches_time_limit_exceeded_per_min", 1)],
    rowOf .adAccessProcesses (some "_Total")
      [("ldap_read_time", 20), ("ldap_search_time", 48), ("ldap_timeout_errors_per_sec", 2),
       ("long_running_ldap_operations_per_min", 1), ("ldap_searches_time_limit_exceeded_per_min", 1)]]
  |>.setRows .transportQueues [
    rowOf .transportQueues (some "normal priority")
      [("external_active_remote_delivery_queue_length", 3),
       ("internal_active_remote_delivery_queue_length", 1),
       ("active_mailbox_delivery_queue_length", 4), ("retry_mailbox_delivery_queue_length", 0),
       ("unreachable_queue_length", 0), ("external_largest_delivery_queue_length", 2),
       ("internal_largest_delivery_queue_length", 1), ("poison_queue_length", 0)],
    rowOf .transportQueues (some "high priority") [("active_mailbox_delivery_queue_length", 1)],
    rowOf .transportQueues (some "_Total")
      [("external_active_remote_delivery_queue_length", 3),
       ("internal_active_remote_delivery_queue_length", 1),
       ("active_mailbox_delivery_queue_length", 5), ("external_largest_delivery_queue_length", 2),
       ("internal_largest_delivery_queue_length", 1)]]
  |>.setRows .databaseInstances [
    rowOf .databaseInstances (some "Information Store - Mailbox Database 0311695863")
      [("io_database_reads_average_latency", 1840), ("io_database_writes_average_latency", 2210),
       ("io_log_writes_average_latency", 310), ("io_database_reads_recovery_average_latency", 0),
       ("io_database_writes_recovery_average_latency", 0)],
    rowOf .databaseInstances (some "_Total")
      [("io_database_reads_average_latency", 1840), ("io_database_writes_average_latency", 2210),
       ("io_log_writes_average_latency", 310)]]
  |>.setRows .httpProxy [
    rowOf .httpProxy (some "owa")
      [("mailbox_server_locator_average_latency", 5), ("average_authentication_latency", 11),
       ("average_client_access_server_processing_latency", 3),
       ("mailbox_server_proxy_failure_rate", 0), ("outstanding_proxy_requests", 2),
       ("proxy_requests_per_sec", 921)],
    rowOf .httpProxy (some "rpchttp")
      [("mailbox_server_locator_average_latency", 4), ("average_authentication_latency", 9),
       ("average_client_access_server_processing_latency", 2),
       ("mailbox_server_proxy_failure_rate", 1), ("outstanding_proxy_requests", 0),
       ("proxy_requests_per_sec", 4410)]]
  |>.setRows .activeSync [
    rowOf .activeSync none
      [("requests_per_sec", 10442), ("requests_total", 10442), ("ping_commands_pending", 14),
       ("sync_commands_per_sec", 3208)]]
  |>.setRows .availabilityService [rowOf .availabilityService none [("requests_sec", 611)]]
  |>.setRows .owa [rowOf .owa none [("current_unique_users", 37), ("requests_per_sec", 18093)]]
  |>.setRows .autodiscover [rowOf .autodiscover none [("requests_per_sec", 2774)]]
  |>.setRows .workloadManagement [
    rowOf .workloadManagement (some "msexchangemailboxassistants_mailboxassistants")
      [("active_tasks", 2), ("completed_tasks", 9318), ("queued_tasks", 0)],
    rowOf .workloadManagement (some "msexchangerepl_replication")
      [("active_tasks", 0), ("completed_tasks", 112), ("queued_tasks", 1)]]
  |>.setRows .rpcClientAccess [
    rowOf .rpcClientAccess none
      [("rpc_averaged_latency", 6), ("rpc_requests", 51027), ("active_user_count", 21),
       ("connection_count", 64), ("rpc_operations_per_sec", 198332), ("user_count", 29)]]
  |>.setRows .processCounters [
    rowOf .processCounters (some "System")
      [("id_process", 4), ("io_read_bytes_persec", 1048576), ("io_write_bytes_persec", 524288),
       ("private_bytes", 188416), ("page_faults_persec", 18220), ("thread_count", 212)],
    rowOf .processCounters (some "svchost")
      [("id_process", 1234), ("io_read_bytes_persec", 7), ("io_write_bytes_persec", 8),
       ("private_bytes", 9), ("page_faults_persec", 10), ("thread_count", 11)],
    rowOf .processCounters (some "_Total")
      [("id_process", 0), ("io_read_bytes_persec", 1048583), ("io_write_bytes_persec", 524296),
       ("private_bytes", 188425), ("page_faults_persec", 18230), ("thread_count", 223)]]

/-- Only the process class. -/
def plainHost (log : Nat) : Source :=
  (Source.empty log).setRows .processCounters [
    rowOf .processCounters (some "explorer")
      [("id_process", 5120), ("io_read_bytes_persec", 40960), ("io_write_bytes_persec", 4096),
       ("private_bytes", 61440000), ("page_faults_persec", 92114), ("thread_count", 68)]]

end CounterExport.Source
