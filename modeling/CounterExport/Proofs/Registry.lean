import CounterExport.Metric.Registry
import CounterExport.Proofs.NameIndex
import Mathlib.Data.List.Nodup

/-!
# The registry: its index, lookups and registrations

The registry keeps two structures that must agree: the descriptors in registration order, which
is all the rest of the exporter reads (`fqNames`, `descriptors`), and the index from full name
to position, through which `register` tests whether a name is taken and `get?` finds a
descriptor. They agree while the index maps exactly the stored full names to the positions of
their descriptors (`Registry.Indexed`), the invariant every name index keeps (`NameIndex`).

That holds of the empty registry and is kept by each registration (`Indexed.add`): a name is
indexed only after both checks passed, once, at the position its descriptor is appended at. With
it, the index answers as the stored names do (`Indexed.contains_iff`), stored names are distinct
(`Indexed.nodup`), a lookup finds exactly the descriptor stored under its name
(`Indexed.get?_eq_some_iff`, `Indexed.get?_eq_none_iff`), and a registration is refused as
invalid whatever is stored, else as a duplicate exactly when its name is stored, else appended
(`register_eq`).

A refused registration hands back no registry, so whoever made the call keeps the registry it
had (`Registry.after`). Along any sequence of calls from the empty registry (`Registry.run`) all
of the above holds at every step, and the descriptors are the ones the successful registrations
handed back, in order (`registry_index_tracks_calls`).

A full name with all three parts non-empty is the three parts joined by `_` (`fqName_eq`), which
is how the exporter's names are spelled out as `wmi_<subsystem>_<name>`.
-/

set_option autoImplicit false

namespace CounterExport
namespace Metric

/-- With no empty part, a full name is the parts joined with `_`. -/
theorem fqName_eq {ns subsystem name : String} (hns : ns ≠ "") (hsub : subsystem ≠ "")
    (hname : name ≠ "") : fqName ns subsystem name = ns ++ "_" ++ subsystem ++ "_" ++ name := by
  simp [fqName, List.filter, hns, hsub, hname, String.intercalate_cons_cons,
    String.intercalate_singleton, String.append_assoc]

example : fqName "wmi" "exchange" "ldap_read_time" = "wmi_exchange_ldap_read_time" := by decide

-- an empty part is left out, not joined with a second `_`
example : fqName "wmi" "" "up" = "wmi_up" := by decide

theorem Descriptor.make_eq_ok {v : Validator} {subsystem name help : String} {keys : List String}
    (h : v (Metric.fqName exporterNamespace subsystem name) help keys = none) :
    Descriptor.make v subsystem name help keys =
      .ok ⟨Metric.fqName exporterNamespace subsystem name, help, keys⟩ := by
  simp [Descriptor.make, h]

namespace Registry

/-! ## Appending -/

/-- Appends descriptors in order. -/
def addAll (r : Registry) (ds : List Descriptor) : Registry := ds.foldl add r

@[simp] theorem add_descriptors (r : Registry) (d : Descriptor) :
    (r.add d).descriptors = r.descriptors.push d := rfl

@[simp] theorem fqNames_add (r : Registry) (d : Descriptor) :
    (r.add d).fqNames = r.fqNames ++ [d.fqName] := by
  simp [fqNames]

@[simp] theorem fqNames_empty : empty.fqNames = [] := rfl

@[simp] theorem toList_descriptors_empty : empty.descriptors.toList = [] := rfl

@[simp] theorem addAll_nil (r : Registry) : r.addAll [] = r := rfl

@[simp] theorem addAll_cons (r : Registry) (d : Descriptor) (ds : List Descriptor) :
    r.addAll (d :: ds) = (r.add d).addAll ds := rfl

theorem addAll_append (r : Registry) (xs ys : List Descriptor) :
    r.addAll (xs ++ ys) = (r.addAll xs).addAll ys :=
  List.foldl_append

@[simp] theorem toList_descriptors_addAll (r : Registry) (ds : List Descriptor) :
    (r.addAll ds).descriptors.toList = r.descriptors.toList ++ ds := by
  induction ds generalizing r with
  | nil => simp
  | cons d ds ih => simp [ih]

@[simp] theorem fqNames_addAll (r : Registry) (ds : List Descriptor) :
    (r.addAll ds).fqNames = r.fqNames ++ ds.map (·.fqName) := by
  simp [fqNames]

theorem mem_fqNames {r : Registry} {fq : String} :
    fq ∈ r.fqNames ↔
      ∃ (i : Nat) (h : i < r.descriptors.size), r.descriptors[i].fqName = fq := by
  simp only [fqNames, List.mem_map, Array.mem_toList_iff, Array.mem_iff_getElem]
  constructor
  · rintro ⟨d, ⟨i, h, rfl⟩, rfl⟩
    exact ⟨i, h, rfl⟩
  · rintro ⟨i, h, rfl⟩
    exact ⟨_, ⟨i, h, rfl⟩, rfl⟩

/-! ## The index invariant -/

/-- The index maps exactly the stored full names to the positions of their descriptors. -/
def Indexed (r : Registry) : Prop :=
  ∀ fq i, r.byFqName[fq]? = some i ↔
    ∃ h : i < r.descriptors.size, r.descriptors[i].fqName = fq

theorem empty_indexed : empty.Indexed := by
  intro fq i
  simp [empty]

theorem Indexed.nameIndex {r : Registry} (hr : r.Indexed) :
    NameIndex (·.fqName) r.byFqName r.descriptors := hr

theorem Indexed.add {r : Registry} (hr : r.Indexed) {d : Descriptor}
    (hfree : d.fqName ∉ r.fqNames) : (r.add d).Indexed :=
  hr.nameIndex.push fun x hx hname =>
    hfree (List.mem_map.2 ⟨x, Array.mem_toList_iff.2 hx, hname⟩)

theorem Indexed.addAll {r : Registry} (hr : r.Indexed) {ds : List Descriptor}
    (hnd : (r.fqNames ++ ds.map (·.fqName)).Nodup) : (r.addAll ds).Indexed := by
  induction ds generalizing r with
  | nil => exact hr
  | cons d ds ih =>
    have hfree : d.fqName ∉ r.fqNames := fun h =>
      (List.nodup_append.1 hnd).2.2 _ h _ (List.mem_map_of_mem (List.mem_cons_self ..)) rfl
    rw [addAll_cons]
    apply ih (hr.add hfree)
    simpa [List.append_assoc] using hnd

/-- The index holds a name exactly when it is stored. -/
theorem Indexed.contains_iff {r : Registry} (hr : r.Indexed) (fq : String) :
    r.byFqName.contains fq = true ↔ fq ∈ r.fqNames := by
  rw [Std.HashMap.contains_eq_isSome_getElem?, Option.isSome_iff_exists, mem_fqNames]
  constructor
  · rintro ⟨i, hi⟩
    exact ⟨i, (hr fq i).1 hi⟩
  · rintro ⟨i, hname⟩
    exact ⟨i, (hr fq i).2 hname⟩

theorem Indexed.nodup {r : Registry} (hr : r.Indexed) : r.fqNames.Nodup :=
  hr.nameIndex.nodup

/-- A lookup finds the stored descriptor with that name. -/
theorem Indexed.get?_eq_some_iff {r : Registry} (hr : r.Indexed) {fq : String}
    {d : Descriptor} :
    r.get? fq = some d ↔ d ∈ r.descriptors.toList ∧ d.fqName = fq := by
  constructor
  · intro h
    simp only [get?, Option.bind_eq_some_iff] at h
    obtain ⟨i, hi, hd⟩ := h
    obtain ⟨hlt, hname⟩ := (hr fq i).1 hi
    rw [Array.getElem?_eq_getElem hlt, Option.some.injEq] at hd
    subst hd
    exact ⟨Array.getElem_mem_toList hlt, hname⟩
  · rintro ⟨hd, rfl⟩
    obtain ⟨i, hlt, rfl⟩ := Array.mem_iff_getElem.1 (Array.mem_toList_iff.1 hd)
    simp [get?, (hr _ i).2 ⟨hlt, rfl⟩, Array.getElem?_eq_getElem hlt]

theorem Indexed.get?_of_mem {r : Registry} (hr : r.Indexed) {d : Descriptor}
    (hd : d ∈ r.descriptors.toList) : r.get? d.fqName = some d :=
  hr.get?_eq_some_iff.2 ⟨hd, rfl⟩

theorem Indexed.get?_eq_none_iff {r : Registry} (hr : r.Indexed) {fq : String} :
    r.get? fq = none ↔ fq ∉ r.fqNames := by
  rw [mem_fqNames]
  constructor
  · rintro h ⟨i, hlt, hname⟩
    simp [get?, (hr fq i).2 ⟨hlt, hname⟩, Array.getElem?_eq_getElem hlt] at h
  · intro h
    cases hi : r.byFqName[fq]? with
    | none => simp [get?, hi]
    | some i => exact absurd ⟨i, (hr fq i).1 hi⟩ h

/-! ## Registering -/

section Register

variable (v : Validator)

/-- A registration that succeeds appends the descriptor made of its arguments, whatever the
    check. -/
theorem eq_add_of_register {v : Validator} {r r' : Registry} {subsystem name help : String}
    {keys : List String} {d : Descriptor}
    (h : r.register v subsystem name help keys = .ok (r', d)) :
    d = ⟨fqName exporterNamespace subsystem name, help, keys⟩ ∧ r' = r.add d := by
  unfold register Descriptor.make at h
  cases hf : v (fqName exporterNamespace subsystem name) help keys with
  | some f => simp [hf, bind, Except.bind] at h
  | none =>
    simp only [hf, bind, Except.bind] at h
    split at h
    · cases h
    · cases h
      exact ⟨rfl, rfl⟩

/-- While the index is exact, a registration is refused as invalid when the check refuses the
    descriptor, whatever names are stored; otherwise as a duplicate exactly when its name is
    stored; otherwise the descriptor is appended and handed back. -/
theorem register_eq {r : Registry} (hr : r.Indexed) (subsystem name help : String)
    (keys : List String) :
    r.register v subsystem name help keys =
      match v (fqName exporterNamespace subsystem name) help keys with
      | some cause => .error (.invalid (fqName exporterNamespace subsystem name) cause)
      | none =>
        if fqName exporterNamespace subsystem name ∈ r.fqNames then
          .error (.duplicate (fqName exporterNamespace subsystem name))
        else
          .ok (r.add ⟨fqName exporterNamespace subsystem name, help, keys⟩,
            ⟨fqName exporterNamespace subsystem name, help, keys⟩) := by
  unfold register Descriptor.make
  cases hf : v (fqName exporterNamespace subsystem name) help keys with
  | some cause => simp [hf, bind, Except.bind]
  | none =>
    -- the duplicate check asks the index, which answers as the stored names do
    have hc := hr.contains_iff (fqName exporterNamespace subsystem name)
    simp only [hf, bind, Except.bind]
    by_cases hmem : fqName exporterNamespace subsystem name ∈ r.fqNames
    · rw [if_pos (hc.2 hmem), if_pos hmem]
      rfl
    · rw [if_neg (mt hc.1 hmem), if_neg hmem]
      rfl

theorem register_eq_ok {v : Validator} {r : Registry} (hr : r.Indexed)
    {subsystem name help : String} {keys : List String}
    (hvalid : v (fqName exporterNamespace subsystem name) help keys = none)
    (hfree : fqName exporterNamespace subsystem name ∉ r.fqNames) :
    r.register v subsystem name help keys =
      .ok (r.add ⟨fqName exporterNamespace subsystem name, help, keys⟩,
        ⟨fqName exporterNamespace subsystem name, help, keys⟩) := by
  rw [register_eq v hr, hvalid]
  exact if_neg hfree

theorem Indexed.fresh_of_register {v : Validator} {r r' : Registry} (hr : r.Indexed)
    {subsystem name help : String} {keys : List String} {d : Descriptor}
    (h : r.register v subsystem name help keys = .ok (r', d)) : d.fqName ∉ r.fqNames := by
  obtain ⟨rfl, -⟩ := eq_add_of_register h
  rw [register_eq v hr] at h
  split at h
  · cases h
  · intro hmem
    rw [if_pos hmem] at h
    cases h

/-! ## Sequences of calls -/

/-- A call on a registry: a registration, or a lookup by full name. -/
inductive Call
  | register (subsystem name help : String) (keys : List String)
  | get (fq : String)

/-- The registry after a call. A refused registration hands back no registry, so the caller's
    stays as it was; a lookup changes nothing. -/
def after (r : Registry) : Call → Registry
  | .register subsystem name help keys =>
    match r.register v subsystem name help keys with
    | .ok (r', _) => r'
    | .error _ => r
  | .get _ => r

/-- The registry after a sequence of calls. -/
def run (r : Registry) (cs : List Call) : Registry := cs.foldl (after v) r

/-- The descriptors that the successful registrations of a sequence of calls hand back, in
    order. -/
def accepted : Registry → List Call → List Descriptor
  | _, [] => []
  | r, .register subsystem name help keys :: cs =>
    match r.register v subsystem name help keys with
    | .ok (r', d) => d :: accepted r' cs
    | .error _ => accepted r cs
  | r, .get _ :: cs => accepted r cs

/-- Every call keeps the index exact. -/
theorem Indexed.after {r : Registry} (hr : r.Indexed) (c : Call) : (r.after v c).Indexed := by
  cases c with
  | get fq => exact hr
  | register subsystem name help keys =>
    cases h : r.register v subsystem name help keys with
    | error e =>
      have hafter : r.after v (.register subsystem name help keys) = r := by
        simp [Registry.after, h]
      rw [hafter]
      exact hr
    | ok p =>
      obtain ⟨r', d⟩ := p
      have hfree := hr.fresh_of_register h
      obtain ⟨-, rfl⟩ := eq_add_of_register h
      have hafter : r.after v (.register subsystem name help keys) = r.add d := by
        simp [Registry.after, h]
      rw [hafter]
      exact hr.add hfree

theorem Indexed.run {r : Registry} (hr : r.Indexed) (cs : List Call) :
    (r.run v cs).Indexed := by
  induction cs generalizing r with
  | nil => exact hr
  | cons c cs ih => exact ih (hr.after v c)

/-- Along a sequence of calls the descriptors grow by what the successful registrations hand
    back, in order. -/
theorem toList_descriptors_run (r : Registry) (cs : List Call) :
    (r.run v cs).descriptors.toList = r.descriptors.toList ++ r.accepted v cs := by
  induction cs generalizing r with
  | nil => simp [run, accepted]
  | cons c cs ih =>
    cases c with
    | get fq =>
      simp only [run, List.foldl_cons, after, accepted] at ih ⊢
      exact ih r
    | register subsystem name help keys =>
      simp only [run, List.foldl_cons] at ih ⊢
      cases h : r.register v subsystem name help keys with
      | error e => simpa [after, accepted, h] using ih r
      | ok p =>
        obtain ⟨r', d⟩ := p
        obtain ⟨-, rfl⟩ := eq_add_of_register h
        simp [after, accepted, h, ih]

end Register

end Registry

/-- Along any sequence of registrations and lookups from the empty registry, under any
    descriptor check, the index maps exactly the stored full names to their positions, so
    stored names are distinct; the descriptors are those the successful registrations handed
    back, in order, so their number is the number of successes. The next registration of
    `wmi_<subsystem>_<name>` is refused as invalid whenever the check refuses the descriptor,
    taken name or not; otherwise as a duplicate exactly when the name is stored; otherwise the
    descriptor is appended last and handed back. A lookup finds the stored descriptor with its
    name, and nothing when no descriptor has it. -/
theorem registry_index_tracks_calls (v : Validator) (cs : List Registry.Call) :
    (Registry.empty.run v cs).Indexed ∧ (Registry.empty.run v cs).fqNames.Nodup ∧
    (Registry.empty.run v cs).descriptors.toList = Registry.empty.accepted v cs ∧
    (Registry.empty.run v cs).size = (Registry.empty.accepted v cs).length ∧
    (∀ subsystem name help keys,
      (Registry.empty.run v cs).register v subsystem name help keys =
        match v (fqName exporterNamespace subsystem name) help keys with
        | some cause => .error (.invalid (fqName exporterNamespace subsystem name) cause)
        | none =>
          if fqName exporterNamespace subsystem name ∈ (Registry.empty.run v cs).fqNames then
            .error (.duplicate (fqName exporterNamespace subsystem name))
          else
            .ok ((Registry.empty.run v cs).add
                ⟨fqName exporterNamespace subsystem name, help, keys⟩,
              ⟨fqName exporterNamespace subsystem name, help, keys⟩)) ∧
    ∀ fq, (∀ d, (Registry.empty.run v cs).get? fq = some d ↔
        d ∈ (Registry.empty.run v cs).descriptors.toList ∧ d.fqName = fq) ∧
      ((Registry.empty.run v cs).get? fq = none ↔ fq ∉ (Registry.empty.run v cs).fqNames) := by
  have hr := Registry.empty_indexed.run v cs
  have hdesc : (Registry.empty.run v cs).descriptors.toList = Registry.empty.accepted v cs := by
    simpa using Registry.toList_descriptors_run v Registry.empty cs
  refine ⟨hr, hr.nodup, hdesc, ?_,
    fun subsystem name help keys => Registry.register_eq v hr _ _ _ _,
    fun fq => ⟨fun d => hr.get?_eq_some_iff, hr.get?_eq_none_iff⟩⟩
  rw [Registry.size, ← Array.length_toList, hdesc]

end Metric
end CounterExport
