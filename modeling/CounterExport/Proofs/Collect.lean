import CounterExport.Proofs.Build

/-!
# What one collector run gives

A built collector binds every field to a descriptor whose label keys are those of the
collector's row policy (`ClassCollector.Coherent`, true of what `build` makes:
`CollectorId.coherent`). The label values, on the other hand, are made separately in each of the
policy's branches: none for a singleton, the instance label for a per-instance collector, the
process name and id for a per-process one. Coherence is what makes the two counts agree, so that
no projection of a row is ever refused:

* `project_eq_ok`: a row projects to one sample per binding when each descriptor has one key
  per label value;
* `perInstanceSamples_snd`, `perProcessSamples_eq`, `samplesOf_snd`: the samples of a query's
  rows, by policy, spelled out, the only failure left being a class that returned no row;
* `run_not_fatal` and `run_makes`: a coherent collector never reports a label mismatch, and
  every sample it gives is made by one of its bindings with one value per label key.

What a run answers does not depend on the query logs it is given (`run_result_logs`): the logs
only record the query.
-/

set_option autoImplicit false

namespace CounterExport
namespace Collector

open CounterExport.Metric Source Counter Decimal

/-- The sample a binding makes of a row, with these label values. -/
def Binding.sample (b : Binding) (row : Row) (labels : List String) : Sample :=
  ⟨b.descriptor, b.kind, Binary64.ofNat (row.count b.field), labels⟩

/-- A collector as `build` makes it: every descriptor it binds carries the label keys of its
    policy. -/
def ClassCollector.Coherent (col : ClassCollector) : Prop :=
  ∀ b ∈ col.bindings, b.descriptor.labelKeys = col.id.policy.labelKeys

/-- A sample made by one of the collector's bindings, with one label value per key of the
    collector's policy. -/
def ClassCollector.Makes (col : ClassCollector) (s : Sample) : Prop :=
  (∃ b ∈ col.bindings, s.descriptor = b.descriptor ∧ s.kind = b.kind) ∧
    s.labelValues.length = col.id.policy.labelKeys.length

theorem CollectorId.coherent (id : CollectorId) (source : Source) :
    (⟨id, source, id.bindings⟩ : ClassCollector).Coherent := by
  intro b hb
  simp only [CollectorId.bindings, List.mem_map] at hb
  obtain ⟨f, -, rfl⟩ := hb
  rfl

/-- The samples the fields of a collector make of one row, in field order: each field's
    descriptor and kind, the row's counter under the field's record key widened to a double, and
    the label values. -/
def CollectorId.rowSamples (id : CollectorId) (row : Row) (labels : List String) : List Sample :=
  id.fields.map fun f =>
    ⟨id.fieldDescriptor f, f.kind, Binary64.ofNat (row.count f.field), labels⟩

theorem CollectorId.bindings_map_sample (id : CollectorId) (row : Row) (labels : List String) :
    id.bindings.map (·.sample row labels) = id.rowSamples row labels := by
  simp [CollectorId.bindings, CollectorId.rowSamples, Binding.sample, CollectorId.fieldBinding]

theorem build_snd_eq_ok {v : Validator} {id : CollectorId} {source : Source} {r : Registry}
    {col : ClassCollector} (h : (build v id source r).2 = .ok col) :
    col = ⟨id, source, id.bindings⟩ := by
  rcases hb : build v id source r with ⟨r', result⟩
  rw [hb] at h
  subst h
  exact (build_of_ok hb).2

/-! ## Projecting rows -/

theorem project_eq_ok {bs : List Binding} {row : Row} {labels : List String}
    (h : ∀ b ∈ bs, b.descriptor.labelKeys.length = labels.length) :
    project bs row labels = .ok (bs.map (·.sample row labels)) := by
  induction bs with
  | nil => rfl
  | cons b bs ih =>
    have hb := h b (List.mem_cons_self ..)
    have hrest := ih fun b' hb' => h b' (List.mem_cons_of_mem _ hb')
    simp only [project] at hrest ⊢
    rw [List.mapM_cons, hrest]
    simp [Sample.ofRaw, Sample.make, hb, Binding.sample, bind, Except.bind, pure, Except.pure]

/-- The samples a per-instance collector makes: for each row whose name gives a label, one
    sample per binding labelled with it. -/
def instanceSamples (c : CounterClass) (bs : List Binding) (rows : List Row) : List Sample :=
  rows.flatMap fun row =>
    match (row.instanceName c).bind Label.instanceLabel with
    | none => []
    | some label => bs.map (·.sample row [label])

/-- The samples a per-process collector makes: for each row with a name other than `_Total`,
    one sample per binding labelled with the name and the process id in decimal. -/
def processSamples (c : CounterClass) (bs : List Binding) (rows : List Row) : List Sample :=
  rows.flatMap fun row =>
    match row.instanceName c with
    | none => []
    | some name =>
      if name = Label.totalInstance then []
      else bs.map (·.sample row [name, toString ((row.processId c).getD 0)])

theorem perInstanceSamples_snd {c : CounterClass} {bs : List Binding}
    (h : ∀ b ∈ bs, b.descriptor.labelKeys.length = 1) (rows : List Row) :
    (perInstanceSamples c bs rows).2 = .ok (instanceSamples c bs rows) := by
  induction rows with
  | nil => rfl
  | cons row rows ih =>
    rcases hp : perInstanceSamples c bs rows with ⟨events, rest⟩
    rw [hp] at ih
    simp only at ih
    simp only [perInstanceSamples, hp]
    cases hl : (row.instanceName c).bind Label.instanceLabel with
    | none => simp [instanceSamples, hl, ih]
    | some label =>
      have hproj : project bs row [label] = .ok (bs.map (·.sample row [label])) := project_eq_ok h
      simp [instanceSamples, hl, ih, hproj, Except.map]

theorem perProcessSamples_eq {c : CounterClass} {bs : List Binding}
    (h : ∀ b ∈ bs, b.descriptor.labelKeys.length = 2) (rows : List Row) :
    perProcessSamples c bs rows = .ok (processSamples c bs rows) := by
  induction rows with
  | nil => rfl
  | cons row rows ih =>
    rw [perProcessSamples]
    cases hn : row.instanceName c with
    | none => simp [processSamples, hn, ih]
    | some name =>
      by_cases ht : name = Label.totalInstance
      · simp [processSamples, hn, ht, ih]
      · simp only [ht, if_false]
        rw [project_eq_ok h, ih]
        simp [processSamples, hn, ht, bind, Except.bind, pure, Except.pure]

/-- The samples of a query's rows, by policy: the first row for a singleton, the labelled rows
    otherwise; a singleton or per-process class with no row has no data. -/
theorem samplesOf_snd {col : ClassCollector} (hc : col.Coherent) (rows : List Row) :
    (samplesOf col rows).2 =
      match col.id.policy with
      | .singleton =>
        match rows with
        | [] => .error (.noData col.id.counterClass)
        | row :: _ => .ok (col.bindings.map (·.sample row []))
      | .perInstance => .ok (instanceSamples col.id.counterClass col.bindings rows)
      | .perProcess =>
        if rows.isEmpty then .error (.noData col.id.counterClass)
        else .ok (processSamples col.id.counterClass col.bindings rows) := by
  -- coherence fixes the number of label keys each branch has to match
  have hlen :
      ∀ b ∈ col.bindings, b.descriptor.labelKeys.length = col.id.policy.labelKeys.length :=
    fun b hb => congrArg List.length (hc b hb)
  unfold samplesOf
  cases hp : col.id.policy with
  | singleton =>
    rw [hp] at hlen
    cases rows with
    | nil => rfl
    | cons row rest =>
      have hproj : project col.bindings row [] = .ok (col.bindings.map (·.sample row [])) :=
        project_eq_ok hlen
      simp [hproj, Except.mapError]
  | perInstance =>
    rw [hp] at hlen
    simp [perInstanceSamples_snd hlen, Except.mapError]
  | perProcess =>
    rw [hp] at hlen
    cases rows with
    | nil => rfl
    | cons row rest => simp [perProcessSamples_eq hlen, Except.mapError]

/-! ## A whole run -/

theorem Source.query_snd_logs (s : Source) (logs logs' : Logs) (cancelled : Bool)
    (c : CounterClass) : (s.query logs cancelled c).2 = (s.query logs' cancelled c).2 :=
  Source.issue_snd logs logs' s cancelled c _ _

theorem ClassCollector.run_result (col : ClassCollector) (logs : Logs) (cancelled : Bool) :
    (col.run logs cancelled).result =
      match (col.source.query logs cancelled col.id.counterClass).2 with
      | .error e => .error (.query ⟨col.id.counterClass, e⟩)
      | .ok rows => (samplesOf col rows).2 := by
  unfold ClassCollector.run
  dsimp only
  rcases col.source.query logs cancelled col.id.counterClass with ⟨logs', e | rows⟩
  · rfl
  · rcases samplesOf col rows with ⟨events, result⟩
    rfl

theorem ClassCollector.run_result_logs (col : ClassCollector) (logs logs' : Logs)
    (cancelled : Bool) : (col.run logs cancelled).result = (col.run logs' cancelled).result := by
  rw [run_result, run_result, Source.query_snd_logs _ logs logs']

/-- A coherent collector fails only for want of a query answer or of rows, never fatally. -/
theorem ClassCollector.run_not_fatal {col : ClassCollector} (hc : col.Coherent) {logs : Logs}
    {cancelled : Bool} {e : CollectError} (h : (col.run logs cancelled).result = .error e) :
    e.isFatal = false := by
  rw [run_result] at h
  split at h
  · cases h
    rfl
  · rw [samplesOf_snd hc] at h
    split at h
    · split at h
      · cases h
        rfl
      · cases h
    · cases h
    · split at h
      · cases h
        rfl
      · cases h

theorem ClassCollector.makes_of_mem_map {col : ClassCollector} {row : Row} {labels : List String}
    (hlen : labels.length = col.id.policy.labelKeys.length) {s : Sample}
    (hs : s ∈ col.bindings.map (·.sample row labels)) : col.Makes s := by
  obtain ⟨b, hb, rfl⟩ := List.mem_map.1 hs
  exact ⟨⟨b, hb, rfl, rfl⟩, hlen⟩

/-- Every sample of a coherent collector's run is made by one of its bindings, with one value
    per label key of its policy. -/
theorem ClassCollector.run_makes {col : ClassCollector} (hc : col.Coherent) {logs : Logs}
    {cancelled : Bool} {ss : List Sample} (h : (col.run logs cancelled).result = .ok ss) :
    ∀ s ∈ ss, col.Makes s := by
  rw [run_result] at h
  split at h
  · cases h
  · rw [samplesOf_snd hc] at h
    intro s hs
    -- in each branch the sample is one binding's, and its label values have the policy's count
    cases hp : col.id.policy with
    | singleton =>
      rw [hp] at h
      dsimp only at h
      split at h
      · cases h
      · cases h
        exact makes_of_mem_map (by rw [hp]; rfl) hs
    | perInstance =>
      rw [hp] at h
      dsimp only at h
      cases h
      simp only [instanceSamples, List.mem_flatMap] at hs
      obtain ⟨row, -, hrow⟩ := hs
      split at hrow
      · cases hrow
      · exact makes_of_mem_map (by rw [hp]; rfl) hrow
    | perProcess =>
      rw [hp] at h
      dsimp only at h
      split at h
      · cases h
      · cases h
        simp only [processSamples, List.mem_flatMap] at hs
        obtain ⟨row, -, hrow⟩ := hs
        split at hrow
        · cases hrow
        · split at hrow
          · cases hrow
          · exact makes_of_mem_map (by rw [hp]; rfl) hrow

/-! ## A built collector's run, by policy -/

/-- What a collector's policy makes of the rows its query returned, row by row. A singleton
    class with no row has no data, and otherwise gives its first row's samples, without labels. A
    per-instance class gives the samples of each row whose instance name gives a label, labelled
    with it; no row at all is no failure. A per-process class with no row has no data, and
    otherwise gives the samples of each row with an instance name other than `_Total` exactly,
    labelled with the name as it is and the process id in decimal. -/
def CollectorId.policySamples (id : CollectorId) (rows : List Row) :
    Except CollectError (List Sample) :=
  match id.policy with
  | .singleton =>
    match rows with
    | [] => .error (.noData id.counterClass)
    | row :: _ => .ok (id.rowSamples row [])
  | .perInstance =>
    .ok (rows.flatMap fun row =>
      match (row.instanceName id.counterClass).bind Label.instanceLabel with
      | none => []
      | some label => id.rowSamples row [label])
  | .perProcess =>
    if rows = [] then .error (.noData id.counterClass)
    else .ok (rows.flatMap fun row =>
      match row.instanceName id.counterClass with
      | none => []
      | some name =>
        if name = "_Total" then []
        else id.rowSamples row [name, toString ((row.processId id.counterClass).getD 0)])

/-- A collector built from any registry reports a failed query with its class and the source's
    cause, and otherwise gives what its policy makes of the rows (`CollectorId.policySamples`):
    one sample per field, in field order, for each row kept, and no projection is ever
    refused. -/
theorem built_collector_samples_by_policy {v : Validator} {id : CollectorId} {source : Source}
    {r : Registry} {col : ClassCollector} (h : (build v id source r).2 = .ok col) (logs : Logs)
    (cancelled : Bool) :
    col.id = id ∧
    (col.run logs cancelled).result =
      match (source.query logs cancelled id.counterClass).2 with
      | .error e => .error (.query ⟨id.counterClass, e⟩)
      | .ok rows => id.policySamples rows := by
  obtain rfl := build_snd_eq_ok h
  refine ⟨rfl, ?_⟩
  rw [ClassCollector.run_result]
  cases (source.query logs cancelled id.counterClass).2 with
  | error e => rfl
  | ok rows =>
    dsimp only
    rw [samplesOf_snd (CollectorId.coherent id source)]
    unfold CollectorId.policySamples
    -- each policy's samples are the bindings' samples of the rows it keeps
    cases hp : id.policy with
    | singleton =>
      cases rows with
      | nil => rfl
      | cons row rest => simp [CollectorId.bindings_map_sample]
    | perInstance => simp [instanceSamples, CollectorId.bindings_map_sample]
    | perProcess =>
      simp [processSamples, CollectorId.bindings_map_sample, Label.totalInstance]

/-- The process collector, built into an empty registry over a source whose process table holds
    an aggregate row and a numbered copy, and run under a live context. -/
theorem proctest_samples_by_policy :
    (build clientCheck .proctest ((Source.empty 0).setRows .processCounters
        [⟨some "_Total", []⟩, ⟨some "w3wp#1", [("id_process", 7)]⟩]) Registry.empty).2 =
      .ok ⟨.proctest, (Source.empty 0).setRows .processCounters
        [⟨some "_Total", []⟩, ⟨some "w3wp#1", [("id_process", 7)]⟩], CollectorId.proctest.bindings⟩ ∧
    (⟨.proctest, (Source.empty 0).setRows .processCounters
        [⟨some "_Total", []⟩, ⟨some "w3wp#1", [("id_process", 7)]⟩],
        CollectorId.proctest.bindings⟩ : ClassCollector).id = .proctest ∧
    ((⟨.proctest, (Source.empty 0).setRows .processCounters
        [⟨some "_Total", []⟩, ⟨some "w3wp#1", [("id_process", 7)]⟩],
        CollectorId.proctest.bindings⟩ : ClassCollector).run #[#[]] false).result =
      match (((Source.empty 0).setRows .processCounters
        [⟨some "_Total", []⟩, ⟨some "w3wp#1", [("id_process", 7)]⟩]).query #[#[]] false
          CollectorId.proctest.counterClass).2 with
      | .error e => .error (.query ⟨CollectorId.proctest.counterClass, e⟩)
      | .ok rows => CollectorId.proctest.policySamples rows :=
  have h : (build clientCheck .proctest ((Source.empty 0).setRows .processCounters
      [⟨some "_Total", []⟩, ⟨some "w3wp#1", [("id_process", 7)]⟩]) Registry.empty).2 =
      .ok ⟨.proctest, (Source.empty 0).setRows .processCounters
        [⟨some "_Total", []⟩, ⟨some "w3wp#1", [("id_process", 7)]⟩],
        CollectorId.proctest.bindings⟩ := by
    rw [build_eq clientCheck_lawful _ _ Registry.empty_indexed (by decide)]
  ⟨h, built_collector_samples_by_policy h #[#[]] false⟩

end Collector
end CounterExport
