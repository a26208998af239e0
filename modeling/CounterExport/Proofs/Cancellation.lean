import CounterExport.Proofs.Deadlines
import CounterExport.Proofs.Lineage

/-!
# Shared cancel flags along a run

A program's contexts are followed along any run of operations (`Scene`): making them by
`background`, `withTimeout`, `child` and `clone`, cancelling them, and reading the clock again,
which never goes back. Beside the scene a record (`Record`) keeps where each context comes
from: the context made by `background` or `withTimeout` that it descends from through clones and
children (its origin), and the copies made.

`Tracks` says that the scene's flags match the record, through `Shares` and `Traces`, and every
operation keeps it (`Tracks.step`, hence `Tracks.run`). So contexts share a flag exactly when
they have one origin, which is exactly when a chain of clones and children joins them, taken in
either direction; and cancelling a context cancels those and no other
(`Tracks.isCancelled_cancel`). Apart from that, a scene only grows: contexts are added at the
end and never changed, flags are only ever set, and the clock only goes forward (`Scene.Later`),
so what counts as cancelled stays so. A deadline is read, never written: it sets no flag, and
making a child changes nothing its parent or its siblings show.
-/

set_option autoImplicit false

namespace CounterExport.Scrape

/-! ## Flags and deadlines -/

theorem getD_push_false (flags : Flags) (f : Nat) :
    (flags.push false).getD f false = flags.getD f false := by
  simp only [Array.getD_eq_getD_getElem?, Array.getElem?_push]
  split
  · rename_i hf
    subst hf
    simp
  · rfl

theorem getD_setIfInBounds_true {flags : Flags} {q : Nat} (hq : q < flags.size) (f : Nat) :
    (flags.setIfInBounds q true).getD f false = (flags.getD f false || f == q) := by
  simp only [Array.getD_eq_getD_getElem?, Array.getElem?_setIfInBounds]
  by_cases hf : q = f
  · subst hf
    simp [hq]
  · simp [hf, Ne.symm hf]

theorem getD_setIfInBounds_mono {flags : Flags} {f : Nat} (q : Nat)
    (hf : flags.getD f false = true) : (flags.setIfInBounds q true).getD f false = true := by
  have hlt : f < flags.size := by
    by_contra hge
    simp [Array.getD_eq_getD_getElem?, Array.getElem?_eq_none (Nat.le_of_not_lt hge)] at hf
  simp only [Array.getD_eq_getD_getElem?, Array.getElem?_setIfInBounds] at hf ⊢
  split
  · rename_i hq
    subst hq
    simp [hlt]
  · exact hf

namespace Instant

/-- The later of two clock readings. -/
def later (t u : Instant) : Instant := if t.nanos ≤ u.nanos then u else t

theorem le_later (t u : Instant) : t.nanos ≤ (t.later u).nanos := by
  unfold later
  split <;> omega

end Instant

namespace Context

theorem expired_mono {ctx : Context} {now now' : Instant} (hle : now.nanos ≤ now'.nanos)
    (h : ctx.expired now = true) : ctx.expired now' = true := by
  cases hd : ctx.deadline with
  | none => simp [expired, hd] at h
  | some t =>
    simp only [expired, hd, Option.any_some, decide_eq_true_eq] at h ⊢
    omega

/-- A context that counts as cancelled still does with more flags set, later. -/
theorem isCancelled_mono {ctx : Context} {flags flags' : Flags} {now now' : Instant}
    (hflags : ∀ f, flags.getD f false = true → flags'.getD f false = true)
    (hle : now.nanos ≤ now'.nanos) (h : ctx.isCancelled flags now = true) :
    ctx.isCancelled flags' now' = true := by
  unfold isCancelled at h ⊢
  rcases Bool.or_eq_true_iff.1 h with hf | he
  · simp [hflags _ hf]
  · simp [expired_mono hle he]

theorem remaining_eq_none_iff (now : Instant) (ctx : Context) :
    ctx.remaining now = none ↔ ctx.deadline = none := by
  simp [remaining]

theorem remaining_of_deadline {ctx : Context} {t : Instant} (h : ctx.deadline = some t)
    (now : Instant) : ctx.remaining now = some (t.nanos - now.nanos).toNat := by
  simp [remaining, h]

/-- No time is left exactly when the deadline has passed. -/
theorem remaining_eq_zero_iff (now : Instant) (ctx : Context) :
    ctx.remaining now = some 0 ↔ ctx.expired now = true := by
  cases hd : ctx.deadline with
  | none => simp [remaining, expired, hd]
  | some t =>
    simp only [remaining, expired, hd, Option.map_some, Option.some.injEq, Option.any_some,
      decide_eq_true_eq]
    omega

theorem isCancelled_of_expired {ctx : Context} {now : Instant} (flags : Flags)
    (h : ctx.expired now = true) : ctx.isCancelled flags now = true := by
  simp [isCancelled, h]

end Context

/-! ## Contexts along a run -/

/-- One operation of a program on its scrape contexts, which it numbers in the order it makes
    them. -/
inductive ContextOp
  | background
  | withTimeout (nanos : Nat)
  | child (parent : Nat) (nanos : Nat)
  | clone (ctx : Nat)
  | cancel (ctx : Nat)
  /-- The clock is read again: at `t`, or where it was if `t` is earlier. -/
  | advance (t : Instant)

/-- The contexts a program has made, in order, their flags, and the clock's reading. -/
structure Scene where
  flags : Flags
  made : List Context
  now : Instant

namespace Scene

/-- No context made yet, at clock reading `now`. -/
def start (now : Instant) : Scene := ⟨#[], [], now⟩

/-- A context added after the others. -/
def add (s : Scene) (ctx : Context) : Scene := { s with made := s.made ++ [ctx] }

/-- One operation. An operation naming a context not made, or asking for a deadline the clock
    cannot represent (where the program panics), changes nothing. -/
def step (s : Scene) : ContextOp → Scene
  | .background =>
    let (flags, ctx) := Context.background s.flags
    { s with flags := flags }.add ctx
  | .withTimeout nanos =>
    match Context.withTimeout s.now s.flags nanos with
    | some (flags, ctx) => { s with flags := flags }.add ctx
    | none => s
  | .child i nanos =>
    match s.made[i]? with
    | some parent =>
      match parent.child s.now nanos with
      | some ctx => s.add ctx
      | none => s
    | none => s
  | .clone i =>
    match s.made[i]? with
    | some ctx => s.add ctx
    | none => s
  | .cancel i =>
    match s.made[i]? with
    | some ctx => { s with flags := ctx.cancel s.flags }
    | none => s
  | .advance t => { s with now := s.now.later t }

/-- The operations in order. -/
def run (s : Scene) : List ContextOp → Scene
  | [] => s
  | op :: ops => (s.step op).run ops

/-- Whether the context numbered `k` counts as cancelled now. -/
def isCancelled (s : Scene) (k : Nat) : Bool :=
  match s.made[k]? with
  | some ctx => ctx.isCancelled s.flags s.now
  | none => false

/-- The time left now before the deadline of the context numbered `k`. -/
def remaining (s : Scene) (k : Nat) : Option Nat := s.made[k]?.bind (·.remaining s.now)

/-- `s'` lies after `s`: it has the contexts of `s` under their numbers, the flags of `s` set,
    and a clock reading no earlier. -/
structure Later (s s' : Scene) : Prop where
  made : ∀ (k : Nat) (ctx : Context), s.made[k]? = some ctx → s'.made[k]? = some ctx
  flags : ∀ f, s.flags.getD f false = true → s'.flags.getD f false = true
  now : s.now.nanos ≤ s'.now.nanos

theorem Later.refl (s : Scene) : Later s s := ⟨fun _ _ h => h, fun _ h => h, Int.le_refl _⟩

theorem Later.trans {s s' s'' : Scene} (h : Later s s') (h' : Later s' s'') : Later s s'' :=
  ⟨fun k c hk => h'.made k c (h.made k c hk), fun f hf => h'.flags f (h.flags f hf),
    Int.le_trans h.now h'.now⟩

/-- What counts as cancelled in a scene still does in every later one. -/
theorem Later.isCancelled {s s' : Scene} (h : Later s s') {k : Nat}
    (hk : s.isCancelled k = true) : s'.isCancelled k = true := by
  unfold Scene.isCancelled at hk ⊢
  cases hc : s.made[k]? with
  | none => simp [hc] at hk
  | some ctx =>
    rw [hc] at hk
    rw [h.made k ctx hc]
    exact Context.isCancelled_mono h.flags h.now hk

theorem later_add (s : Scene) (ctx : Context) : Later s (s.add ctx) where
  made k c hk := by
    simp only [add]
    rw [List.getElem?_append_left (List.getElem?_eq_some_iff.1 hk).1, hk]
  flags _ hf := hf
  now := Int.le_refl _

/-- A scene only grows: every operation leaves a later scene. -/
theorem later_step (s : Scene) (op : ContextOp) : Later s (s.step op) := by
  -- a fresh flag is pushed unset, and cancelling only sets a flag
  have hpush : Later s ({ s with flags := s.flags.push false }) :=
    ⟨fun _ _ h => h, fun f hf => (getD_push_false s.flags f).trans hf, Int.le_refl _⟩
  cases op with
  | background => exact hpush.trans (later_add _ _)
  | withTimeout nanos =>
    simp only [step, Context.withTimeout]
    cases s.now.add? nanos with
    | none => exact Later.refl s
    | some t => exact hpush.trans (later_add _ _)
  | child i nanos =>
    simp only [step]
    split
    · split
      · exact later_add _ _
      · exact Later.refl s
    · exact Later.refl s
  | clone i =>
    simp only [step]
    split
    · exact later_add _ _
    · exact Later.refl s
  | cancel i =>
    simp only [step]
    split
    · exact ⟨fun _ _ h => h, fun f hf => getD_setIfInBounds_mono _ hf, Int.le_refl _⟩
    · exact Later.refl s
  | advance t => exact ⟨fun _ _ h => h, fun _ hf => hf, Instant.le_later _ _⟩

theorem later_run (s : Scene) (ops : List ContextOp) : Later s (s.run ops) := by
  induction ops generalizing s with
  | nil => exact Later.refl s
  | cons op ops ih => exact (later_step s op).trans (ih (s.step op))

/-- Only a cancel changes a flag: a passing deadline never does. -/
theorem flags_step_of_ne_cancel (s : Scene) {op : ContextOp} (hop : ∀ i, op ≠ .cancel i)
    (f : Nat) : (s.step op).flags.getD f false = s.flags.getD f false := by
  cases op with
  | background => exact getD_push_false s.flags f
  | withTimeout nanos =>
    simp only [step, Context.withTimeout]
    cases s.now.add? nanos with
    | none => rfl
    | some t => exact getD_push_false s.flags f
  | child i nanos =>
    simp only [step]
    split
    · split <;> rfl
    · rfl
  | clone i =>
    simp only [step]
    split <;> rfl
  | cancel i => exact absurd rfl (hop i)
  | advance t => rfl

/-- Making a child changes no flag, no clock reading and no context made before: its parent and
    its siblings show what they showed. -/
theorem step_child_frame (s : Scene) (i nanos : Nat) {k : Nat} (hk : k < s.made.length) :
    (s.step (.child i nanos)).isCancelled k = s.isCancelled k ∧
      (s.step (.child i nanos)).remaining k = s.remaining k := by
  have hkeep : (s.step (.child i nanos)).flags = s.flags ∧
      (s.step (.child i nanos)).now = s.now ∧
      (s.step (.child i nanos)).made[k]? = s.made[k]? := by
    simp only [step]
    split
    · split
      · simp [add, List.getElem?_append_left hk]
      · simp
    · simp
  obtain ⟨hflags, hnow, hmade⟩ := hkeep
  simp [isCancelled, remaining, hflags, hnow, hmade]

end Scene

/-! ## Where contexts come from -/

/-- Where the contexts made so far come from: the origin of each (`Lineage`), and the copies
    made, each a context made by `child` or `clone` with the context it was made from. -/
structure Record where
  origins : Lineage
  links : List (Nat × Nat)

namespace Record

def empty : Record := ⟨[], []⟩

/-- A context made fresh. -/
def fresh (r : Record) : Record := { r with origins := r.origins.fresh }

/-- A copy of the context numbered `i`, if it was made. -/
def copy (r : Record) (i : Nat) : Record :=
  if i < r.origins.length then ⟨r.origins.copy i, r.links ++ [(r.origins.length, i)]⟩ else r

/-- What an operation at clock reading `now` adds to the record. -/
def step (r : Record) (now : Instant) : ContextOp → Record
  | .background => r.fresh
  | .withTimeout nanos => if (now.add? nanos).isSome then r.fresh else r
  | .child i nanos => if (now.add? nanos).isSome then r.copy i else r
  | .clone i => r.copy i
  | .cancel _ | .advance _ => r

/-- The record kept beside a run of the scene `s`. -/
def run (r : Record) (s : Scene) : List ContextOp → Record
  | [] => r
  | op :: ops => (r.step s.now op).run (s.step op) ops

end Record

/-- The scene's flags match the record: contexts share a flag exactly when they share an origin,
    and the copies recorded join every context to its origin. -/
structure Tracks (r : Record) (s : Scene) : Prop where
  shares : Shares r.origins (s.made.map (·.flag)) s.flags.size
  traces : Traces r.origins r.links

theorem tracks_start (now : Instant) : Tracks Record.empty (Scene.start now) :=
  ⟨Shares.nil 0, Traces.nil⟩

namespace Tracks

variable {r : Record} {s : Scene}

theorem length_eq (h : Tracks r s) : s.made.length = r.origins.length := by
  simpa using h.shares.length_eq

theorem flag_eq_iff (h : Tracks r s) {i j : Nat} {ci cj : Context} (hi : s.made[i]? = some ci)
    (hj : s.made[j]? = some cj) : ci.flag = cj.flag ↔ r.origins[i]? = r.origins[j]? := by
  have hil : i < r.origins.length := h.length_eq ▸ (List.getElem?_eq_some_iff.1 hi).1
  have hjl : j < r.origins.length := h.length_eq ▸ (List.getElem?_eq_some_iff.1 hj).1
  rw [← h.shares.same_iff i j hil hjl]
  simp [List.getElem?_map, hi, hj]

theorem fresh (h : Tracks r s) (deadline : Option Instant) :
    Tracks r.fresh ({ s with flags := s.flags.push false }.add ⟨s.flags.size, deadline⟩) where
  shares := by simpa [Record.fresh, Scene.add] using h.shares.fresh
  traces := h.traces.fresh

theorem copy (h : Tracks r s) {i : Nat} {parent : Context} (hi : s.made[i]? = some parent)
    (ctx : Context) (hflag : ctx.flag = parent.flag) : Tracks (r.copy i) (s.add ctx) := by
  have hil : i < r.origins.length := h.length_eq ▸ (List.getElem?_eq_some_iff.1 hi).1
  have hcell : (s.made.map (·.flag))[i]? = some parent.flag := by simp [List.getElem?_map, hi]
  simp only [Record.copy, if_pos hil]
  refine ⟨?_, h.traces.copy hil⟩
  simpa [Scene.add, hflag] using h.shares.copy hcell

theorem copy_of_getElem?_eq_none (h : Tracks r s) {i : Nat} (hp : s.made[i]? = none) :
    r.copy i = r := by
  have hil : ¬ i < r.origins.length := by
    rw [← h.length_eq]
    exact Nat.not_lt.2 (List.getElem?_eq_none_iff.1 hp)
  simp [Record.copy, hil]

theorem flags (h : Tracks r s) {flags : Flags} (hsize : flags.size = s.flags.size) (now : Instant) :
    Tracks r { s with flags := flags, now := now } :=
  ⟨hsize ▸ h.shares, h.traces⟩

/-- Every operation keeps the scene tracked by the record. -/
theorem step (h : Tracks r s) (op : ContextOp) : Tracks (r.step s.now op) (s.step op) := by
  cases op with
  | background => exact h.fresh none
  | withTimeout nanos =>
    cases ht : s.now.add? nanos with
    | none =>
      simpa [Record.step, Scene.step, Context.withTimeout, ht] using h
    | some t =>
      simpa [Record.step, Scene.step, Context.withTimeout, ht] using h.fresh (some t)
  | child i nanos =>
    cases hp : s.made[i]? with
    | none => simpa [Record.step, Scene.step, hp, h.copy_of_getElem?_eq_none hp] using h
    | some parent =>
      cases hc : parent.child s.now nanos with
      | none =>
        have ht : s.now.add? nanos = none :=
          (Instant.add?_eq_none_iff _ _).2 ((Context.child_eq_none_iff _ _ _).1 hc)
        simpa [Record.step, Scene.step, hp, hc, ht] using h
      | some ctx =>
        have ht : (s.now.add? nanos).isSome := by
          obtain ⟨t, ht, -⟩ := Option.map_eq_some_iff.1 hc
          simp [ht]
        simpa [Record.step, Scene.step, hp, hc, ht] using
          h.copy hp ctx (Context.child_eq_some hc).1
  | clone i =>
    cases hp : s.made[i]? with
    | none => simpa [Record.step, Scene.step, hp, h.copy_of_getElem?_eq_none hp] using h
    | some ctx => simpa [Record.step, Scene.step, hp] using h.copy hp ctx rfl
  | cancel i =>
    cases hp : s.made[i]? with
    | none => simpa [Record.step, Scene.step, hp] using h
    | some ctx =>
      simpa [Record.step, Scene.step, hp, Context.cancel] using
        h.flags (@Array.size_setIfInBounds _ s.flags ctx.flag true) s.now
  | advance t => exact h.flags rfl (s.now.later t)

theorem run (h : Tracks r s) (ops : List ContextOp) : Tracks (r.run s ops) (s.run ops) := by
  induction ops generalizing r s with
  | nil => exact h
  | cons op ops ih => exact ih (h.step op)

/-- Cancelling the context numbered `i` cancels exactly the contexts of its origin, and leaves
    every other as it was. -/
theorem isCancelled_cancel (h : Tracks r s) {i : Nat} (hi : i < s.made.length) (k : Nat) :
    (s.step (.cancel i)).isCancelled k =
      (s.isCancelled k || decide (r.origins[k]? = r.origins[i]?)) := by
  obtain ⟨ci, hci⟩ : ∃ ci, s.made[i]? = some ci :=
    ⟨s.made[i], List.getElem?_eq_getElem hi⟩
  have hstep : s.step (.cancel i) = { s with flags := ci.cancel s.flags } := by
    simp [Scene.step, hci]
  have hlt : ci.flag < s.flags.size :=
    h.shares.lt_size _ (List.mem_map.2 ⟨ci, List.mem_of_getElem? hci, rfl⟩)
  rw [hstep]
  cases hck : s.made[k]? with
  | none =>
    -- no context numbered `k`, so no origin either
    have hk : r.origins[k]? = none := by
      rw [List.getElem?_eq_none_iff, ← h.length_eq]
      exact (List.getElem?_eq_none_iff.1 hck)
    have hi' : r.origins[i]? ≠ none := by
      rw [ne_eq, List.getElem?_eq_none_iff, Nat.not_le, ← h.length_eq]
      exact hi
    simp [Scene.isCancelled, hck, hk, Ne.symm hi']
  | some ck =>
    have hsame := h.flag_eq_iff hck hci
    simp only [Scene.isCancelled, hck, Context.isCancelled, Context.cancel,
      getD_setIfInBounds_true hlt]
    cases hf : s.flags.getD ck.flag false <;> cases he : ck.expired s.now <;>
      simp [← hsame, Bool.beq_eq_decide_eq]

end Tracks

/-- Along any run of operations on scrape contexts, from any clock reading: contexts share a
    flag exactly when they descend from one context made by `background` or `withTimeout`
    (their origin, itself made fresh), which is exactly when a chain of clones and children,
    taken in either direction, joins them; cancelling a context cancels exactly those and
    leaves every other as it was; what counts as cancelled stays so after every later operation
    and clock reading. The time left before a deadline is none without a deadline and otherwise
    the deadline less the clock's reading, saturated at zero, so it is zero exactly when the
    deadline has passed, which counts as cancelled. A deadline sets no flag, and making a child
    changes nothing its parent or its siblings show. -/
theorem contexts_cancel_by_origin (start : Instant) (ops : List ContextOp) :
    let s := (Scene.start start).run ops
    let r := Record.empty.run (Scene.start start) ops
    (∀ i j (ci cj : Context), s.made[i]? = some ci → s.made[j]? = some cj →
      (ci.flag = cj.flag ↔ r.origins[i]? = r.origins[j]?) ∧
        (r.origins[i]? = r.origins[j]? ↔ Joined r.links i j)) ∧
    (∀ k o : Nat, r.origins[k]? = some o → r.origins[o]? = some o) ∧
    (∀ i, i < s.made.length → ∀ k, (s.step (.cancel i)).isCancelled k =
      (s.isCancelled k || decide (r.origins[k]? = r.origins[i]?))) ∧
    (∀ ops' k, s.isCancelled k = true → (s.run ops').isCancelled k = true) ∧
    (∀ (ctx : Context) (now : Instant) (flags : Flags),
      (ctx.remaining now = none ↔ ctx.deadline = none) ∧
      (∀ t, ctx.deadline = some t → ctx.remaining now = some (t.nanos - now.nanos).toNat) ∧
      (ctx.remaining now = some 0 ↔ ctx.expired now = true) ∧
      (ctx.expired now = true → ctx.isCancelled flags now = true)) ∧
    (∀ op, (∀ i, op ≠ .cancel i) →
      ∀ f, (s.step op).flags.getD f false = s.flags.getD f false) ∧
    (∀ i nanos k, k < s.made.length →
      (s.step (.child i nanos)).isCancelled k = s.isCancelled k ∧
        (s.step (.child i nanos)).remaining k = s.remaining k) := by
  intro s r
  have h : Tracks r s := (tracks_start start).run ops
  refine ⟨fun i j ci cj hi hj => ⟨h.flag_eq_iff hi hj, ?_⟩, h.traces.root,
    fun i hi k => h.isCancelled_cancel hi k,
    fun ops' k hk => (Scene.later_run s ops').isCancelled hk,
    fun ctx now flags => ⟨Context.remaining_eq_none_iff now ctx,
      fun t ht => Context.remaining_of_deadline ht now, Context.remaining_eq_zero_iff now ctx,
      Context.isCancelled_of_expired flags⟩,
    fun op hop f => s.flags_step_of_ne_cancel hop f,
    fun i nanos k hk => s.step_child_frame i nanos hk⟩
  -- one origin, one chain of copies
  have hil : i < r.origins.length := h.length_eq ▸ (List.getElem?_eq_some_iff.1 hi).1
  exact h.traces.origin_eq_iff hil j

end CounterExport.Scrape
