import CounterExport.Proofs.QueryLog
import CounterExport.Proofs.Lineage

/-!
# What a mock source answers

A source keeps one table per class name. Setting rows or a failure replaces the table under the
class's name, and removing the class drops it (`table?_setTable`, `table?_removeClass`). Since
no two classes share a name (`CounterClass.className_injective`), a change to one class never
touches the table another class reads, and the rows under a class's name were always set for
that class: a query never meets rows of another record shape.

Sources are used as values: they are made empty, changed, cloned and queried in any order. A
`Pool` holds the sources made so far with the query logs they write to, and `Pool.step` performs
one operation. Beside it a `Record` keeps the history of the operations and nothing of the
sources' state: for each source, every change its tables saw (a clone starting from its
original's), which `new` its clones go back to (its `Lineage`), and which query texts were issued
by which source.
`Pool.Tracks` says that the pool answers as the record says: a query of a class answers from the
last change made to that class in that copy (`Change.answer`), and a source's log holds the texts
issued by every source that goes back to the same `new`. Every step keeps it (`Pool.Tracks.step`),
so it holds after any sequence of operations (`sources_answer_last_change`).
-/

set_option autoImplicit false

namespace CounterExport

open Counter

/-- No two counter classes are queried by the same name. -/
theorem CounterClass.className_injective : Function.Injective CounterClass.className := by
  intro a b h
  cases a <;> cases b <;> simp_all [CounterClass.className]

namespace Source

/-! ## Tables -/

/-- Dropping the entries of one name leaves the lookups of every other name. -/
theorem lookup_filter_ne (l : List (String × Table)) (name n : String) :
    (l.filter (·.1 != name)).lookup n = if n = name then none else l.lookup n := by
  induction l with
  | nil => simp
  | cons e l ih =>
    obtain ⟨k, t⟩ := e
    by_cases hk : k = name
    · subst hk
      rw [List.filter_cons_of_neg (by simp), ih, List.lookup_cons]
      by_cases hn : n = k
      · simp [hn]
      · have hne : (n == k) = false := by simpa using hn
        simp [hn, hne]
    · rw [List.filter_cons_of_pos (by simpa using hk), List.lookup_cons, List.lookup_cons, ih]
      by_cases hn : n = name
      · subst hn
        have hne : (n == k) = false := by simpa using Ne.symm hk
        simp [hne]
      · simp [hn]

theorem table?_setTable (s : Source) (name : String) (t : Table) (n : String) :
    (s.setTable name t).table? n = if n = name then some t else s.table? n := by
  simp only [Source.table?, Source.setTable, List.lookup_append, lookup_filter_ne]
  by_cases hn : n = name
  · simp [hn]
  · have hne : (n == name) = false := by simpa using hn
    simp [hn, List.lookup_cons, hne]

theorem table?_removeClass (s : Source) (c : CounterClass) (n : String) :
    (s.removeClass c).table? n = if n = c.className then none else s.table? n :=
  lookup_filter_ne s.tables c.className n

@[simp] theorem table?_empty (log : Nat) (n : String) : (Source.empty log).table? n = none :=
  rfl

@[simp] theorem log_setRows (s : Source) (c : CounterClass) (rs : List Row) :
    (s.setRows c rs).log = s.log := rfl

@[simp] theorem log_setFailure (s : Source) (c : CounterClass) (e : SourceError) :
    (s.setFailure c e).log = s.log := rfl

@[simp] theorem log_removeClass (s : Source) (c : CounterClass) : (s.removeClass c).log = s.log :=
  rfl

/-! ## Changes and what they answer -/

/-- A change made to the table of one class. -/
inductive Change
  | rows (rs : List Row)
  | failure (e : SourceError)
  | removed
  deriving DecidableEq, Repr

/-- The last change made to class `c`, among changes in the order they were made. -/
def lastChange (changes : List (CounterClass × Change)) (c : CounterClass) : Option Change :=
  ((changes.filter (·.1 == c)).getLast?).map (·.2)

/-- The table a change leaves under the class's name. -/
def Change.table (c : CounterClass) : Change → Option Table
  | .rows rs => some (.rows c rs)
  | .failure e => some (.failure e)
  | .removed => none

/-- A change applied to a source. -/
def Change.apply (s : Source) (c : CounterClass) : Change → Source
  | .rows rs => s.setRows c rs
  | .failure e => s.setFailure c e
  | .removed => s.removeClass c

theorem Change.bind_table_rows {c c' : CounterClass} {ch : Option Change} {rs : List Row}
    (h : ch.bind (Change.table c) = some (.rows c' rs)) : c' = c := by
  rcases ch with _ | ⟨rs' | e | _⟩ <;> simp [Change.table] at h
  exact h.1.symm

/-- What a query of class `c` answers after its last change: the rows last set, the failure last
    set, and an unknown class when the class was last removed or never set. -/
def Change.answer (c : CounterClass) : Option Change → Except SourceError (List Row)
  | some (.rows rs) => .ok rs
  | some (.failure e) => .error e
  | some .removed | none => .error (.transport ("Invalid class \"" ++ c.className ++ "\""))

theorem lastChange_nil (c : CounterClass) : lastChange [] c = none := rfl

theorem lastChange_append_self (changes : List (CounterClass × Change)) (c : CounterClass)
    (ch : Change) : lastChange (changes ++ [(c, ch)]) c = some ch := by
  simp [lastChange, List.filter_append]

theorem lastChange_append_ne (changes : List (CounterClass × Change)) {c c' : CounterClass}
    (hne : c' ≠ c) (ch : Change) :
    lastChange (changes ++ [(c', ch)]) c = lastChange changes c := by
  simp [lastChange, List.filter_append, hne]

theorem issue_snd_of_table {s : Source} {c : CounterClass} {ch : Option Change}
    (ht : s.table? c.className = ch.bind (Change.table c)) (logs : Logs) (q : String) :
    (s.issue logs false c q).2 = Change.answer c ch := by
  unfold Source.issue
  simp only [Bool.false_eq_true, if_false, ht]
  rcases ch with _ | _ | _ | _
  · rfl
  · simp [Change.table, Change.answer]
  · rfl
  · rfl

/-- One change to a source, seen through the table of a class: the change itself for its own
    class, nothing for any other, since the names of two classes differ. -/
theorem table?_apply (s : Source) (c c' : CounterClass) (ch : Change) :
    (ch.apply s c').table? c.className = if c' = c then ch.table c else s.table? c.className := by
  have hname : c.className = c'.className ↔ c' = c :=
    ⟨fun h => (CounterClass.className_injective h).symm, fun h => h ▸ rfl⟩
  cases ch with
  | rows rs =>
    simp only [Change.apply, Source.setRows, table?_setTable]
    by_cases h : c' = c <;> simp [h, hname, Change.table]
  | failure e =>
    simp only [Change.apply, Source.setFailure, table?_setTable]
    by_cases h : c' = c <;> simp [h, hname, Change.table]
  | removed =>
    simp only [Change.apply, table?_removeClass]
    by_cases h : c' = c <;> simp [h, hname, Change.table]

/-! ## Sources as values -/

/-- An operation on the sources made so far, each named by the position it was made at. A
    builder call takes a source and gives it back changed, so it acts as the setter on the same
    source. -/
inductive Op
  | new
  | setRows (j : Nat) (c : CounterClass) (rs : List Row)
  | setFailure (j : Nat) (c : CounterClass) (e : SourceError)
  | removeClass (j : Nat) (c : CounterClass)
  | withRows (j : Nat) (c : CounterClass) (rs : List Row)
  | withFailure (j : Nat) (c : CounterClass) (e : SourceError)
  | clone (j : Nat)
  | query (j : Nat) (c : CounterClass) (cancelled : Bool) (q : String)

/-- The change an operation makes to a table, with the source and class it makes it to. -/
def Op.change : Op → Option (Nat × CounterClass × Change)
  | .setRows j c rs | .withRows j c rs => some (j, c, .rows rs)
  | .setFailure j c e | .withFailure j c e => some (j, c, .failure e)
  | .removeClass j c => some (j, c, .removed)
  | _ => none

@[simp] theorem Change.log_apply (s : Source) (c : CounterClass) (ch : Change) :
    (ch.apply s c).log = s.log := by
  cases ch <;> rfl

/-- Outside the table of its own class, a change is not seen by a query. -/
theorem issue_apply_other (s : Source) {c c' : CounterClass} (hne : c' ≠ c) (ch : Change)
    (logs : Logs) (cancelled : Bool) (q : String) :
    ((ch.apply s c').issue logs cancelled c q).2 = (s.issue logs cancelled c q).2 := by
  have ht := table?_apply s c c' ch
  rw [if_neg hne] at ht
  unfold Source.issue
  simp only [Change.log_apply, ht]

/-! ## Logs -/

theorem Logs.entries_push_of_lt {logs : Logs} {k : Nat} (hk : k < logs.size) :
    Logs.entries (logs.push #[]) k = logs.entries k := by
  simp [Logs.entries, Array.getElem?_push, Nat.ne_of_lt hk]

@[simp] theorem Logs.entries_push_size (logs : Logs) :
    Logs.entries (logs.push #[]) logs.size = [] := by
  simp [Logs.entries]

/-! ## Sources as values -/

/-- The sources made so far, in order, and the query logs they write to. -/
structure Pool where
  sources : Array Source
  logs : Logs

namespace Pool

def empty : Pool := ⟨#[], #[]⟩

/-- One operation. An operation naming a source not made does nothing. -/
def step (p : Pool) (op : Op) : Pool :=
  match op.change, op with
  | some (j, c, ch), _ => { p with sources := p.sources.modify j (Change.apply · c ch) }
  | none, .new =>
    let (logs, i) := p.logs.fresh
    ⟨p.sources.push (Source.empty i), logs⟩
  | none, .clone j =>
    match p.sources[j]? with
    | some s => { p with sources := p.sources.push s }
    | none => p
  | none, .query j c cancelled q =>
    match p.sources[j]? with
    | some s => { p with logs := (s.issue p.logs cancelled c q).1 }
    | none => p
  | none, _ => p

def run (p : Pool) (ops : List Op) : Pool := ops.foldl step p

end Pool

/-- The history of the operations on the sources: per source, every change its tables saw,
    its original's before it was cloned included; the lineage of the sources by clones; the
    query texts issued under a live context, each with the source that issued it. -/
structure Record where
  changes : List (List (CounterClass × Change))
  origins : Lineage
  issued : List (Nat × String)

namespace Record

def empty : Record := ⟨[], [], []⟩

def step (r : Record) (op : Op) : Record :=
  match op.change, op with
  | some (j, c, ch), _ => { r with changes := r.changes.modify j (· ++ [(c, ch)]) }
  | none, .new => ⟨r.changes ++ [[]], r.origins.fresh, r.issued⟩
  | none, .clone j =>
    match r.changes[j]? with
    | some h => ⟨r.changes ++ [h], r.origins.copy j, r.issued⟩
    | none => r
  | none, .query j _ cancelled q =>
    if cancelled = false ∧ j < r.changes.length then { r with issued := r.issued ++ [(j, q)] }
    else r
  | none, _ => r

def run (r : Record) (ops : List Op) : Record := ops.foldl step r

end Record

namespace Pool

/-- The pool answers as the record says. Each source's tables hold, for every class, what its
    last change left; the sources' logs follow their lineage; and each log holds the texts that
    the sources going back to its `new` issued, in order. -/
structure Tracks (r : Record) (p : Pool) : Prop where
  size_eq : p.sources.size = r.changes.length
  tables : ∀ j (hj : j < p.sources.size) (c : CounterClass),
    p.sources[j].table? c.className = (lastChange (r.changes.getD j []) c).bind (Change.table c)
  shares : Shares r.origins (p.sources.toList.map (·.log)) p.logs.size
  issued_lt : ∀ e ∈ r.issued, e.1 < p.sources.size
  entries : ∀ j (hj : j < p.sources.size), p.logs.entries p.sources[j].log =
    (r.issued.filter fun e => r.origins[e.1]? = r.origins[j]?).map (·.2)

theorem tracks_empty : Tracks Record.empty empty where
  size_eq := rfl
  tables := by simp [empty]
  shares := Shares.nil 0
  issued_lt := by simp [Record.empty]
  entries := by simp [empty]

variable {r : Record} {p : Pool}

theorem log_getElem? {j : Nat} (hj : j < p.sources.size) :
    (p.sources.toList.map (·.log))[j]? = some p.sources[j].log := by
  simp [hj]

theorem Tracks.size_eq_origins (h : Tracks r p) : p.sources.size = r.origins.length := by
  simpa using h.shares.length_eq

theorem Tracks.log_eq_iff (h : Tracks r p) {i j : Nat} (hi : i < p.sources.size)
    (hj : j < p.sources.size) :
    p.sources[i].log = p.sources[j].log ↔ r.origins[i]? = r.origins[j]? := by
  rw [← h.shares.same_iff i j (h.size_eq_origins ▸ hi) (h.size_eq_origins ▸ hj),
    log_getElem? hi, log_getElem? hj, Option.some.injEq]

/-- A change to one source: its table of the changed class is what the change leaves, every
    other table and every other source stays. -/
theorem Tracks.change (h : Tracks r p) (j : Nat) (c : CounterClass) (ch : Change) :
    Tracks { r with changes := r.changes.modify j (· ++ [(c, ch)]) }
      { p with sources := p.sources.modify j (Change.apply · c ch) } := by
  have hlog : ∀ k (hk : k < p.sources.size)
      (hk' : k < (p.sources.modify j (Change.apply · c ch)).size),
      (p.sources.modify j (Change.apply · c ch))[k].log = p.sources[k].log := by
    intro k hk hk'
    rw [Array.getElem_modify]
    split <;> simp
  refine ⟨by simp [h.size_eq], ?_, ?_, by simpa using h.issued_lt, ?_⟩
  · intro k hk c'
    have hk' : k < p.sources.size := by simpa using hk
    rw [Array.getElem_modify]
    simp only [List.getD_eq_getElem?_getD, List.getElem?_modify]
    split
    · rename_i hjk
      subst hjk
      rw [table?_apply, h.tables j hk' c']
      have hlen : j < r.changes.length := h.size_eq ▸ hk'
      simp only [List.getElem?_eq_getElem hlen, Option.getD_some, List.getD_eq_getElem?_getD]
      by_cases hcc : c = c'
      · subst hcc
        simp [lastChange_append_self]
      · simp [hcc, lastChange_append_ne _ hcc]
    · simpa [List.getD_eq_getElem?_getD] using h.tables k hk' c'
  · have hlogs : (p.sources.modify j (Change.apply · c ch)).toList.map (·.log) =
        p.sources.toList.map (·.log) := by
      apply List.ext_getElem (by simp)
      intro k hk hk'
      simp only [List.getElem_map, Array.getElem_toList]
      exact hlog k (by simpa using hk') _
    show Shares r.origins _ p.logs.size
    rw [hlogs]
    exact h.shares
  · intro k hk
    have hk' : k < p.sources.size := by simpa using hk
    rw [hlog k hk' hk]
    exact h.entries k hk'

theorem Tracks.issued_filter_append (h : Tracks r p) (x : Nat) (o : Option Nat) :
    (r.issued.filter fun e => (r.origins ++ [x])[e.1]? = o) =
      r.issued.filter fun e => r.origins[e.1]? = o := by
  apply List.filter_congr
  intro e he
  rw [getElem?_append_one, if_pos (h.size_eq_origins ▸ h.issued_lt e he)]

/-- A new source: no table, a fresh log that no earlier source writes to, its own origin. -/
theorem Tracks.new (h : Tracks r p) :
    Tracks ⟨r.changes ++ [[]], r.origins.fresh, r.issued⟩
      ⟨p.sources.push (Source.empty p.logs.size), p.logs.push #[]⟩ := by
  have hn := h.size_eq_origins
  refine ⟨by simp [h.size_eq], ?_, by simpa [Source.empty] using h.shares.fresh, ?_, ?_⟩
  · intro k hk c
    rw [List.getD_eq_getElem?_getD, getElem?_append_one, ← h.size_eq]
    by_cases hk' : k < p.sources.size
    · rw [Array.getElem_push_lt hk', if_pos hk', ← List.getD_eq_getElem?_getD]
      exact h.tables k hk' c
    · have hkn : k = p.sources.size := by simp at hk; omega
      subst hkn
      simp [lastChange_nil]
  · intro e he
    simpa using Nat.lt_succ_of_lt (h.issued_lt e he)
  · intro k hk
    dsimp only
    rw [Lineage.fresh, h.issued_filter_append, getElem?_append_one]
    by_cases hk' : k < p.sources.size
    · -- an earlier source keeps its log and its origin
      rw [Array.getElem_push_lt hk', if_pos (hn ▸ hk'),
        Logs.entries_push_of_lt (h.shares.lt_size _ (List.mem_of_getElem? (log_getElem? hk')))]
      exact h.entries k hk'
    · -- the new source has an empty log, and no issuing source goes back to it
      have hkn : k = p.sources.size := by simp at hk; omega
      subst hkn
      rw [Array.getElem_push_eq, if_neg (by omega), if_pos hn]
      symm
      simp only [Source.empty, Logs.entries_push_size, List.map_eq_nil_iff, List.filter_eq_nil_iff,
        decide_eq_true_eq]
      intro e he heq
      obtain ⟨o, ho⟩ : ∃ o, r.origins[e.1]? = some o :=
        Option.isSome_iff_exists.1
          (by simpa [List.getElem?_eq_getElem, ← hn] using h.issued_lt e he)
      rw [ho, Option.some.injEq] at heq
      have := h.shares.early e.1 o ho
      have := h.issued_lt e he
      omega

/-- A clone: the tables of its original, the log of its original, the origin of its original. -/
theorem Tracks.clone (h : Tracks r p) {j : Nat} (hj : j < p.sources.size) :
    Tracks ⟨r.changes ++ [r.changes.getD j []], r.origins.copy j, r.issued⟩
      ⟨p.sources.push p.sources[j], p.logs⟩ := by
  have hn := h.size_eq_origins
  obtain ⟨o, ho⟩ : ∃ o, r.origins[j]? = some o :=
    ⟨r.origins[j], List.getElem?_eq_getElem (hn ▸ hj)⟩
  have hcopy : r.origins.copy j = r.origins ++ [o] := by simp [Lineage.copy, ho]
  refine ⟨by simp [h.size_eq], ?_, ?_, ?_, ?_⟩
  · intro k hk c
    rw [List.getD_eq_getElem?_getD, getElem?_append_one, ← h.size_eq]
    by_cases hk' : k < p.sources.size
    · rw [Array.getElem_push_lt hk', if_pos hk', ← List.getD_eq_getElem?_getD]
      exact h.tables k hk' c
    · have hkn : k = p.sources.size := by simp at hk; omega
      subst hkn
      simpa using h.tables j hj c
  · simpa using h.shares.copy (log_getElem? hj)
  · intro e he
    simpa using Nat.lt_succ_of_lt (h.issued_lt e he)
  · intro k hk
    dsimp only
    rw [hcopy, h.issued_filter_append, getElem?_append_one]
    by_cases hk' : k < p.sources.size
    · rw [Array.getElem_push_lt hk', if_pos (hn ▸ hk')]
      exact h.entries k hk'
    · have hkn : k = p.sources.size := by simp at hk; omega
      subst hkn
      rw [Array.getElem_push_eq, if_neg (by omega), if_pos hn, ← ho]
      exact h.entries j hj

/-- A live query: its text joins the log of the source, and so of every source sharing it. -/
theorem Tracks.query (h : Tracks r p) {j : Nat} (hj : j < p.sources.size) (c : CounterClass)
    (q : String) :
    Tracks { r with issued := r.issued ++ [(j, q)] }
      { p with logs := (p.sources[j].issue p.logs false c q).1 } := by
  have hL : p.sources[j].log < p.logs.size :=
    h.shares.lt_size _ (List.mem_of_getElem? (log_getElem? hj))
  simp only [Source.issue_fst, Bool.false_eq_true, if_false]
  refine ⟨h.size_eq, h.tables, by simpa using h.shares, ?_, ?_⟩
  · intro e he
    rcases List.mem_append.1 he with he | he
    · exact h.issued_lt e he
    · simp only [List.mem_singleton] at he
      subst he
      exact hj
  · intro k hk
    rw [Logs.entries_record hL, h.entries k hk, List.filter_append, List.map_append]
    congr 1
    by_cases hkj : p.sources[k].log = p.sources[j].log
    · have ho := (h.log_eq_iff hk hj).1 hkj
      simp [hkj, ho]
    · have ho : ¬ r.origins[j]? = r.origins[k]? := fun ho => hkj ((h.log_eq_iff hk hj).2 ho.symm)
      simp [hkj, ho]

/-- Every operation keeps the pool answering as the record says. -/
theorem Tracks.step (h : Tracks r p) (op : Op) : Tracks (r.step op) (p.step op) := by
  cases hc : op.change with
  | some x =>
    obtain ⟨j, c, ch⟩ := x
    simp only [Pool.step, Record.step, hc]
    exact h.change j c ch
  | none =>
    cases op with
    | new =>
      simp only [Pool.step, Record.step, hc, Logs.fresh]
      exact h.new
    | clone j =>
      simp only [Pool.step, Record.step, hc]
      by_cases hj : j < p.sources.size
      · have hj' : j < r.changes.length := h.size_eq ▸ hj
        simp only [Array.getElem?_eq_getElem hj, List.getElem?_eq_getElem hj']
        simpa [List.getD_eq_getElem?_getD, List.getElem?_eq_getElem hj'] using h.clone hj
      · have hj' : ¬ j < r.changes.length := h.size_eq ▸ hj
        simp only [Array.getElem?_eq_none (Nat.le_of_not_lt hj),
          List.getElem?_eq_none (Nat.le_of_not_lt hj')]
        exact h
    | query j c cancelled q =>
      simp only [Pool.step, Record.step, hc]
      by_cases hj : j < p.sources.size
      · have hj' : j < r.changes.length := h.size_eq ▸ hj
        simp only [Array.getElem?_eq_getElem hj]
        cases cancelled with
        | false =>
          simpa [hj'] using h.query hj c q
        | true =>
          simpa [Source.issue_fst] using h
      · have hj' : ¬ j < r.changes.length := h.size_eq ▸ hj
        simp only [Array.getElem?_eq_none (Nat.le_of_not_lt hj), hj', and_false, if_false]
        exact h
    | setRows => simp [Op.change] at hc
    | setFailure => simp [Op.change] at hc
    | removeClass => simp [Op.change] at hc
    | withRows => simp [Op.change] at hc
    | withFailure => simp [Op.change] at hc

theorem Tracks.run (h : Tracks r p) (ops : List Op) : Tracks (r.run ops) (p.run ops) := by
  induction ops generalizing r p with
  | nil => exact h
  | cons op ops ih => exact ih (h.step op)

end Pool

/-- Along any sequence of operations on sources, made by `new`, changed, cloned and queried,
    every source answers a live query of a class from the last change made to that class in
    that copy: the rows last set, the failure last set, an unknown class when the class was
    removed last or never set. Changes to other classes are not seen. The rows under a class's
    name were set for that class, since no two classes share a name, so no query meets rows of
    another shape. A live query logs its text in the source's log, which the source shares
    exactly with the sources that go back to the same `new`, and each log holds the texts those
    sources issued, in order; a cancelled query fails as cancelled and logs nothing. -/
theorem sources_answer_last_change (ops : List Op) :
    let p := Pool.empty.run ops
    let r := Record.empty.run ops
    p.sources.size = r.changes.length ∧
    (∀ j (hj : j < p.sources.size) (c : CounterClass) (q : String) (logs : Logs),
      (p.sources[j].issue logs false c q).2 =
          Change.answer c (lastChange (r.changes.getD j []) c) ∧
        (p.sources[j].issue logs false c q).1 = logs.record p.sources[j].log q ∧
        p.sources[j].issue logs true c q = (logs, .error .cancelled)) ∧
    (∀ (s : Source) (c c' : CounterClass) (ch : Change) (logs : Logs) (cancelled : Bool)
      (q : String), c' ≠ c →
      ((ch.apply s c').issue logs cancelled c q).2 = (s.issue logs cancelled c q).2) ∧
    Function.Injective CounterClass.className ∧
    (∀ j (hj : j < p.sources.size) (c c' : CounterClass) (rs : List Row),
      p.sources[j].table? c.className = some (.rows c' rs) → c' = c) ∧
    (∀ i j (hi : i < p.sources.size) (hj : j < p.sources.size),
      p.sources[i].log = p.sources[j].log ↔ r.origins[i]? = r.origins[j]?) ∧
    (∀ j (hj : j < p.sources.size), p.logs.entries p.sources[j].log =
      (r.issued.filter fun e => r.origins[e.1]? = r.origins[j]?).map (·.2)) := by
  intro p r
  have h : Pool.Tracks r p := Pool.tracks_empty.run ops
  refine ⟨h.size_eq, fun j hj c q logs => ⟨Source.issue_snd_of_table (h.tables j hj c) logs q,
    by simp [Source.issue_fst], rfl⟩,
    fun s c c' ch logs cancelled q hne => issue_apply_other s hne ch logs cancelled q,
    CounterClass.className_injective, ?_, fun i j hi hj => h.log_eq_iff hi hj, h.entries⟩
  -- rows stand under a class's name only as what a change to that class left
  intro j hj c c' rs ht
  rw [h.tables j hj c] at ht
  exact Change.bind_table_rows ht

end Source

end CounterExport
